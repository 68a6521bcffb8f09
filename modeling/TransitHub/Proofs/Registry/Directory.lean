/-
# What the directory knows

A registry keeps subscriptions, a directory of them and failure streaks, and each part changes on
its own: subscriptions run out by themselves, the directory is only built now and then, and streaks
are kept by identifier. `Coherent` says how far they agree nevertheless, at every moment of a run.
What is live is listed, and the directory is in the order of its identifiers, each of which it has
once. What is failing is listed
too, since only a live subscription begins to fail and a directory without it drops the streak; and
the streak began before now, unless the subscription is live and fails just now.

The converse does not hold. A subscription that ran out stays listed, and failing, until the
directory is built the next time.
-/

import TransitHub.Proofs.Registry.Run

namespace TransitHub

namespace Registry

variable {r : Registry} {now : Instant} {c : Clock}

/-- How the parts of a registry agree. -/
structure Coherent (r : Registry) (now : Instant) : Prop where
  /-- A subscription is kept under its own identifier. -/
  keyed : ∀ id slot, r.slot? now id = some slot → slot.value.id = id
  listed : ∀ id slot, r.slot? now id = some slot → slot.value ∈ r.directory.entries
  ascending : r.directory.entries.Pairwise fun s s' => compare s.id s'.id = .lt
  failing_listed : ∀ id start, r.streaks.start? id = some start →
    ∃ s ∈ r.directory.entries, s.id = id
  began : ∀ id start, r.streaks.start? id = some start →
    start < now ∨ start = now ∧ r.contains now id = true

theorem coherent_empty (now : Instant) : empty.Coherent now where
  keyed _ _ h := by simp [slot?, empty] at h
  listed _ _ h := by simp [slot?, empty] at h
  ascending := .nil
  failing_listed _ _ h := by simp [empty, FailureStreaks.start?] at h
  began _ _ h := by simp [empty, FailureStreaks.start?] at h

/-- No two entries of the directory have one identifier. -/
theorem Coherent.distinct (h : r.Coherent now) :
    r.directory.entries.Pairwise fun s s' => s.id ≠ s'.id := by
  refine h.ascending.imp fun {s s'} hlt heq => ?_
  rw [heq, Std.ReflOrd.compare_self] at hlt
  exact nomatch hlt

/-- The directory has an identifier once. -/
theorem Coherent.listed_once (h : r.Coherent now) {s s' : Subscription}
    (hs : s ∈ r.directory.entries) (hs' : s' ∈ r.directory.entries) (hid : s.id = s'.id) :
    s = s' := by
  obtain ⟨i, hi, rfl⟩ := List.getElem_of_mem hs
  obtain ⟨j, hj, rfl⟩ := List.getElem_of_mem hs'
  rcases Nat.lt_trichotomy i j with hlt | heq | hgt
  · exact absurd hid (List.pairwise_iff_getElem.1 h.distinct i j hi hj hlt)
  · subst heq
    rfl
  · exact absurd hid.symm (List.pairwise_iff_getElem.1 h.distinct j i hj hi hgt)

/-- What is live and listed is what the directory says of an identifier. -/
theorem Coherent.eq_of_listed (h : r.Coherent now) {id : String} {slot : Slot Subscription}
    (hlive : r.slot? now id = some slot) {s : Subscription} (hs : s ∈ r.directory.entries)
    (hid : s.id = id) : s = slot.value :=
  h.listed_once hs (h.listed id slot hlive) (hid.trans (h.keyed id slot hlive).symm)

/-- A directory that was just built agrees with everything. -/
theorem coherent_refresh
    (hkeyed : ∀ id slot, r.slot? now id = some slot → slot.value.id = id)
    (hbegan : ∀ id start, r.streaks.start? id = some start → r.contains now id = true →
      start ≤ now) : (r.refresh now).2.Coherent now := by
  have hlisted {s : Subscription} :
      s ∈ (r.refresh now).2.directory.entries ↔ r.get? now s.id = some s := by
    refine mem_live.trans ⟨fun h => ?_, fun h => ⟨s.id, h⟩⟩
    obtain ⟨id, hs⟩ := h
    obtain ⟨slot, hslot, rfl⟩ := Option.map_eq_some_iff.1 hs
    rw [hkeyed id slot hslot]
    exact hs
  constructor
  case keyed => exact hkeyed
  case listed =>
    intro id slot hslot
    rw [hlisted, hkeyed id slot hslot]
    exact Option.map_eq_some_iff.2 ⟨slot, hslot, rfl⟩
  case ascending =>
    show (r.live now).Pairwise _
    refine List.pairwise_map.2 (List.Pairwise.filterMap _ ?_ (Std.ExtTreeSet.ordered_toList (t := _)))
    intro id id' hlt entry hentry entry' hentry'
    obtain ⟨s, hs, rfl⟩ := Option.map_eq_some_iff.1 hentry
    obtain ⟨s', hs', rfl⟩ := Option.map_eq_some_iff.1 hentry'
    obtain ⟨slot, hslot, rfl⟩ := Option.map_eq_some_iff.1 hs
    obtain ⟨slot', hslot', rfl⟩ := Option.map_eq_some_iff.1 hs'
    rw [hkeyed id slot hslot, hkeyed id' slot' hslot']
    exact hlt
  case failing_listed =>
    intro id start hstart
    obtain ⟨s, hs⟩ := contains_iff.1 (start?_refresh.1 hstart).2
    obtain ⟨slot, hslot, rfl⟩ := Option.map_eq_some_iff.1 hs
    have hid := hkeyed id slot hslot
    exact ⟨slot.value, hlisted.2 (by rw [hid]; exact hs), hid⟩
  case began =>
    intro id start hstart
    obtain ⟨hbefore, hlive⟩ := start?_refresh.1 hstart
    exact (Int.lt_or_eq_of_le (hbegan id start hbefore hlive)).imp_right fun h => ⟨h, hlive⟩

theorem Coherent.began_le (h : r.Coherent now) {id : String} {start : Instant}
    (hstart : r.streaks.start? id = some start) : start ≤ now := by
  rcases h.began id start hstart with hlt | ⟨heq, -⟩
  · exact Int.le_of_lt hlt
  · exact Int.le_of_eq heq

theorem Coherent.refresh (h : r.Coherent now) : (r.refresh now).2.Coherent now :=
  coherent_refresh h.keyed fun _ _ hstart _ => h.began_le hstart

/-- Where subscriptions and streaks only go away, a streak not without its subscription, nothing gets
out of step. -/
theorem Coherent.shrink {r' : Registry} (h : r.Coherent now)
    (hdirectory : r'.directory = r.directory)
    (hslots : ∀ id slot, r'.slot? now id = some slot → r.slot? now id = some slot)
    (hstreaks : ∀ id start, r'.streaks.start? id = some start →
      r.streaks.start? id = some start ∧ r'.slot? now id = r.slot? now id) :
    r'.Coherent now where
  keyed id slot hslot := h.keyed id slot (hslots id slot hslot)
  listed id slot hslot := by
    rw [hdirectory]
    exact h.listed id slot (hslots id slot hslot)
  ascending := by
    rw [hdirectory]
    exact h.ascending
  failing_listed id start hstart := by
    rw [hdirectory]
    exact h.failing_listed id start (hstreaks id start hstart).1
  began id start hstart := by
    obtain ⟨hbefore, hslot⟩ := hstreaks id start hstart
    rw [contains_eq, hslot]
    exact h.began id start hbefore

theorem Coherent.drop (h : r.Coherent now) (id : String) : (r.drop id).Coherent now := by
  refine h.shrink rfl (fun id' slot hslot => ?_) fun id' start hstart => ?_
  · rw [slot?_drop, Option.ite_none_left_eq_some] at hslot
    exact hslot.2
  · rw [start?_drop, Option.ite_none_left_eq_some] at hstart
    rw [slot?_drop, if_neg hstart.1]
    exact ⟨hstart.2, rfl⟩

theorem Coherent.foldl_drop (h : r.Coherent now) (ended : List Subscription) :
    (ended.foldl (fun r s => r.drop s.id) r).Coherent now :=
  List.foldlRecOn (motive := fun r : Registry => r.Coherent now) ended _ h
    fun _ h s _ => h.drop s.id

theorem Coherent.recover (h : r.Coherent now) (id : String) : (r.recover id).Coherent now := by
  refine h.shrink rfl (fun _ _ hslot => hslot) fun id' start hstart => ⟨?_, rfl⟩
  rw [start?_recover, Option.ite_none_left_eq_some] at hstart
  exact hstart.2

theorem Coherent.fail (h : r.Coherent now) {id : String} (hlive : r.contains now id = true) :
    (r.fail now id).Coherent now where
  keyed := h.keyed
  listed := h.listed
  ascending := h.ascending
  failing_listed id' start hstart := by
    by_cases hid : id = id'
    · subst hid
      obtain ⟨slot, hslot⟩ := Option.isSome_iff_exists.1 hlive
      exact ⟨slot.value, h.listed id slot hslot, h.keyed id slot hslot⟩
    · rw [start?_fail, if_neg hid] at hstart
      exact h.failing_listed id' start hstart
  began id' start hstart := by
    rw [start?_fail] at hstart
    by_cases hid : id = id'
    · subst hid
      rw [if_pos rfl] at hstart
      cases hbefore : r.streaks.start? id with
      | none =>
        rw [hbefore] at hstart
        exact Or.inr ⟨(Option.some.inj hstart).symm, hlive⟩
      | some earlier =>
        rw [hbefore] at hstart
        rw [← Option.some.inj hstart]
        exact h.began id earlier hbefore
    · rw [if_neg hid] at hstart
      exact h.began id' start hstart

theorem Coherent.accept (h : r.Coherent now) (s : Subscription) {ttl : Duration} (hpos : ttl ≠ 0) :
    ((r.put now s ttl).refresh now).2.Coherent now := by
  refine coherent_refresh (fun id slot hslot => ?_) fun id start hstart _ => h.began_le hstart
  rw [slot?_put r now s hpos] at hslot
  by_cases hid : s.id = id
  · rw [if_pos hid] at hslot
    rw [← Option.some.inj hslot]
    exact hid
  · rw [if_neg hid] at hslot
    exact h.keyed id slot hslot

/-- Subscriptions run out and stay listed. -/
theorem Coherent.later (h : r.Coherent now) {later : Instant} (hle : now ≤ later) :
    r.Coherent later := by
  have hslot {id : String} {slot : Slot Subscription} (hs : r.slot? later id = some slot) :
      r.slot? now id = some slot := TtlStore.live?_of_later hle hs
  refine {
    keyed := fun id slot hs => h.keyed id slot (hslot hs)
    listed := fun id slot hs => h.listed id slot (hslot hs)
    ascending := h.ascending
    failing_listed := h.failing_listed
    began := fun id start hstart => ?_ }
  rcases h.began id start hstart with hlt | ⟨heq, hlive⟩
  · exact Or.inl (Int.lt_of_lt_of_le hlt hle)
  · rcases Int.lt_or_eq_of_le hle with hlt | hsame
    · exact Or.inl (by rw [heq]; exact hlt)
    · rw [← hsame]
      exact Or.inr ⟨heq, hlive⟩

/-- Each way an operation can go keeps the parts in step. -/
theorem Coherent.performed (h : r.Coherent c.now) {op : RegistryOp} {r' : Registry}
    (hop : Performed r c op r') : r'.Coherent c.now := by
  cases hop with
  | accepted _ _ s _ haccept =>
    obtain ⟨_, -, hretention⟩ := accept_ok haccept
    exact h.accept s (retention_pos hretention)
  | rejected => exact h
  | unknown id => exact h.drop id
  | terminated id => exact (h.drop id).refresh
  | rebuilt => exact h.refresh
  | matched => exact h
  | ended kind => exact (h.foldl_drop _).refresh
  | ignored s => exact h.recover s.id
  | degraded s hlive => exact h.fail hlive
  | cancelled s hlive => exact ((h.fail hlive).drop s.id).refresh
  | succeeded id => exact h.recover id
  | touched id =>
    exact h.shrink rfl (by simp) fun id' _ hstart => ⟨hstart, r.slot?_touch c.now id id'⟩
  | listed => exact h
  | swept => exact h.shrink rfl (by simp) fun id _ hstart => ⟨hstart, r.slot?_sweep c.now id⟩
  | passed => exact h

end Registry

namespace TimedRegistry

variable {t : TimedRegistry}

/-- The parts of the registry agree now. -/
def Coherent (t : TimedRegistry) : Prop := t.registry.Coherent t.clock.now

theorem coherent_start (c : Clock) : (start c).Coherent := Registry.coherent_empty c.now

theorem Coherent.next (h : t.Coherent) (op : RegistryOp) : (t.next op).Coherent :=
  (Registry.Coherent.performed h (t.registry.perform_performed t.clock op)).later
    (op.now_le_clock t.clock)

theorem Coherent.run (h : t.Coherent) (ops : List RegistryOp) : (t.run ops).Coherent :=
  List.foldlRecOn (motive := Coherent) ops _ h fun _ h op _ => h.next op

end TimedRegistry

end TransitHub
