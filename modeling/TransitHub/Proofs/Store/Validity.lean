/-
# Records are visible until their validity ends

The end of validity of an item is a time of the wall clock, while a store drops what has outlived a
deadline of the monotonic clock. As long as both clocks advance together and no leap second is about
the two come to the same: whatever was stored last under a key is read until the wall clock shows
the end of its validity with the grace period, or, if it has no such end, the horizon after it was
ingested, and never from that moment on. It does not matter how often the record was refreshed on
the way, and whether that made it live longer or shorter.

The times to live have to be spans that the policy can compute with, and their ends instants that
the clock can show. A grace period longer than the longest span is allowed. It counts for less than
it is, but then both the true and the computed end lie beyond all times that a wall clock can show.
-/

import TransitHub.Entity.InfoMessage
import TransitHub.Proofs.Store.Ledger

namespace TransitHub

/-! ## Ends of validity -/

namespace ExpirationPolicy

open Expiration (longestSpan)

variable {p : ExpirationPolicy} {c : Clock} {stop? : Option Timestamp}

/-- When an item that is ingested at a given time ceases to be visible, in nanoseconds from 1970.
This is not bounded by what a wall clock can show. -/
def validUntil (p : ExpirationPolicy) (stop? : Option Timestamp) (ingested : Timestamp) : Int :=
  match stop? with
  | some stop => stop.nanos + (p.grace : Int)
  | none => ingested.nanos + (p.horizon : Int)

/-- Whether an item that is ingested now has a time to live that can be computed with and shown. -/
structure Timed (p : ExpirationPolicy) (c : Clock) (stop? : Option Timestamp) : Prop where
  no_leap : ∀ stop ∈ stop?, stop.isLeap = false
  computable : p.validUntil stop? c.wall - c.wall.nanos ≤ longestSpan
  shown : c.now + (p.validUntil stop? c.wall - c.wall.nanos) < Instant.limit

instance (p : ExpirationPolicy) (c : Clock) (stop? : Option Timestamp) :
    Decidable (p.Timed c stop?) :=
  decidable_of_iff ((∀ stop ∈ stop?, stop.isLeap = false) ∧
      p.validUntil stop? c.wall - c.wall.nanos ≤ longestSpan ∧
      c.now + (p.validUntil stop? c.wall - c.wall.nanos) < Instant.limit)
    ⟨fun h => ⟨h.1, h.2.1, h.2.2⟩, fun h => ⟨h.no_leap, h.computable, h.shown⟩⟩

/-- What a policy says of an item that is ingested now, compared with the end of its validity. -/
inductive Judged (p : ExpirationPolicy) (c : Clock) (stop? : Option Timestamp) : Prop
  /-- The end has come. -/
  | ended (hend : p.validUntil stop? c.wall ≤ c.wall.nanos)
      (hnone : p.evaluate stop? c.wall = .expired ∨ p.evaluate stop? c.wall = .after 0)
  /-- The item is kept until its end, or until some end that no wall clock shows either. -/
  | kept (ttl : Duration) (hafter : p.evaluate stop? c.wall = .after ttl) (hpos : ttl ≠ 0)
      (hspan : ttl ≤ longestSpan) (hshown : c.now + (ttl : Int) < Instant.limit)
      (hend : c.wall.nanos + (ttl : Int) = p.validUntil stop? c.wall ∨
        ∀ t : Timestamp, t.nanos < c.wall.nanos + (ttl : Int) ∧
          t.nanos < p.validUntil stop? c.wall)

/-- The distance of two timestamps is far from the longest span. -/
theorem abs_nanos_lt (t t' : Timestamp) : t.nanos - t'.nanos < longestSpan := by
  have hlongest : (longestSpan : Int) = 9223372036854775807000000 := by decide
  have hlast := t.nanos_lt
  have hfirst := t'.le_nanos
  omega

theorem Timed.judged (h : p.Timed c stop?) (hleap : c.wall.isLeap = false) :
    p.Judged c stop? := by
  obtain ⟨hstop, hspan, hshown⟩ := h
  cases stop? with
  | none =>
    have hend : p.validUntil none c.wall = c.wall.nanos + (p.horizon : Int) := rfl
    have hsub : c.wall.nanos + (p.horizon : Int) - c.wall.nanos = p.horizon := by omega
    rw [hend, hsub] at hspan hshown
    by_cases hzero : p.horizon = 0
    · apply Judged.ended
      · rw [hend, hzero]
        exact Int.le_of_eq (Int.add_zero _)
      · exact Or.inr (congrArg Expiration.after hzero)
    · exact .kept p.horizon rfl hzero (Int.ofNat_le.1 hspan) hshown (Or.inl rfl)
  | some stop =>
    have hnot : stop.isLeap = false := hstop stop rfl
    have hend : p.validUntil (some stop) c.wall = stop.nanos + (p.grace : Int) := rfl
    have hevaluate : p.evaluate (some stop) c.wall =
        if (longestSpan : Int) < stop.nanos - c.wall.nanos + (min p.grace longestSpan : Nat) then
          .after p.horizon
        else if stop.nanos - c.wall.nanos + (min p.grace longestSpan : Nat) ≤ 0 then .expired
        else .after (stop.nanos - c.wall.nanos + (min p.grace longestSpan : Nat)).toNat := by
      rw [evaluate, Timestamp.since_of_not_leap hnot hleap]
    rw [hend] at hspan hshown
    have hfar := abs_nanos_lt c.wall stop
    have hle : ((min p.grace longestSpan : Nat) : Int) ≤ p.grace :=
      Int.ofNat_le.2 (Nat.min_le_left ..)
    have hcut : ((min p.grace longestSpan : Nat) : Int) = p.grace ∨
        ((min p.grace longestSpan : Nat) : Int) = longestSpan ∧ (longestSpan : Int) ≤ p.grace := by
      omega
    generalize ((min p.grace longestSpan : Nat) : Int) = grace at hevaluate hle hcut
    rw [if_neg (by omega)] at hevaluate
    by_cases hpassed : stop.nanos - c.wall.nanos + grace ≤ 0
    · rw [if_pos hpassed] at hevaluate
      apply Judged.ended ?_ (Or.inl hevaluate)
      rw [hend]
      omega
    · rw [if_neg hpassed] at hevaluate
      have htoNat : ((stop.nanos - c.wall.nanos + grace).toNat : Int) =
          stop.nanos - c.wall.nanos + grace := Int.toNat_of_nonneg (by omega)
      generalize (stop.nanos - c.wall.nanos + grace).toNat = ttl at hevaluate htoNat
      apply Judged.kept ttl hevaluate
      · rintro rfl
        exact hpassed (Int.le_of_eq htoNat.symm)
      · exact Int.ofNat_le.1 (by omega)
      · exact Int.lt_of_le_of_lt (Int.add_le_add_left (by omega) c.now) hshown
      · rw [hend]
        rcases hcut with hwhole | ⟨hcut, hlong⟩
        · left
          omega
        · right
          intro t
          have hwithin := abs_nanos_lt t stop
          omega

end ExpirationPolicy

/-! ## One deposit -/

/-- In step with each other, both clocks come to the end of a span at once. -/
theorem Clock.InStep.lt_add_iff {c c' : Clock} (h : c.InStep c') (d : Int) :
    c'.now < c.now + d ↔ c'.wall.nanos < c.wall.nanos + d := by
  have hsame (wall wall' now now' : Int) (hnanos : wall' - wall = now' - now) :
      now' < now + d ↔ wall' < wall + d := by omega
  exact hsame _ _ _ _ h.nanos

variable {α : Type} {profile : Profile α} {policy : ExpirationPolicy} {c : Clock}

namespace EntityStore

variable {s : EntityStore α} {item : α} {ttl : Duration}

/-- An item whose end has come is not kept. -/
theorem freshSlot_of_ended
    (h : s.expiration c item = .expired ∨ s.expiration c item = .after 0) :
    s.freshSlot c item = none := by
  unfold freshSlot
  rcases h with hexpired | hzero
  · rw [hexpired]
  · rw [hzero]
    exact if_pos rfl

/-- An item is kept for its time to live, if the clock can show the end of that. -/
theorem freshSlot_of_shown (hafter : s.expiration c item = .after ttl) (hpos : ttl ≠ 0)
    (hshown : c.now + (ttl : Int) < Instant.limit) :
    s.freshSlot c item = some ⟨⟨item, expiryStamp c ttl⟩, c.now + (ttl : Int)⟩ := by
  rw [freshSlot, hafter]
  simp only [if_neg hpos, Instant.deadline, if_pos hshown]

/-- The stamp is the end of the time to live, if there is such a timestamp. -/
theorem expiryStamp_eq {stamp : Timestamp} (hleap : c.wall.isLeap = false)
    (hspan : ttl ≤ Expiration.longestSpan) (hnot : stamp.isLeap = false)
    (hnanos : stamp.nanos = c.wall.nanos + (ttl : Int)) : expiryStamp c ttl = stamp := by
  rw [expiryStamp, ExpirationPolicy.expiresAt, if_pos hspan, Timestamp.plus?, dif_pos hleap,
    ← hnanos, Timestamp.ofNanos?_nanos hnot]
  rfl

end EntityStore

namespace Deposit

/-- When a deposit ceases to be visible, in nanoseconds from 1970. -/
def validUntil (d : Deposit α) (profile : Profile α) (policy : ExpirationPolicy) : Int :=
  policy.validUntil (profile.validityEnd d.item) d.clock.wall

/-- Whether a deposit was made before now, with the clocks in step since and a time to live that can
be computed with and shown. -/
structure Followed (d : Deposit α) (profile : Profile α) (policy : ExpirationPolicy)
    (c : Clock) : Prop where
  inStep : d.clock.InStep c
  past : d.clock.now ≤ c.now
  timed : policy.Timed d.clock (profile.validityEnd d.item)

theorem Followed.later {d : Deposit α} (h : d.Followed profile policy c) {c' : Clock}
    (hstep : c.InStep c') (hle : c.now ≤ c'.now) : d.Followed profile policy c' where
  inStep := h.inStep.trans hstep
  past := Int.le_trans h.past hle
  timed := h.timed

theorem followed_now (hleap : c.wall.isLeap = false) {item : α}
    (htimed : policy.Timed c (profile.validityEnd item)) :
    Followed ⟨item, c⟩ profile policy c where
  inStep := .refl hleap
  past := Int.le_refl c.now
  timed := htimed

/-- A deposit is live until its validity ends, and it is stamped with that end if there is such a
timestamp. -/
theorem Followed.liveSlot_eq {s : EntityStore α} {d : Deposit α}
    (h : d.Followed s.profile s.policy c) :
    (s.liveSlot c.now d).map (fun slot => slot.value.value) =
        (if c.wall.nanos < d.validUntil s.profile s.policy then some d.item else none) ∧
      ∀ slot, s.liveSlot c.now d = some slot → ∀ stamp : Timestamp, stamp.isLeap = false →
        stamp.nanos = d.validUntil s.profile s.policy → slot.value.expiresAt = stamp := by
  obtain ⟨hstep, hpast, htimed⟩ := h
  cases htimed.judged hstep.from_leap with
  | ended hend hnone =>
    have hwall : d.clock.wall.nanos ≤ c.wall.nanos :=
      (Timestamp.le_iff_nanos_le hstep.from_leap hstep.to_leap).1 (hstep.wall_le hpast)
    have hpassed : ¬ c.wall.nanos < d.validUntil s.profile s.policy :=
      Int.not_lt.2 (Int.le_trans hend hwall)
    rw [EntityStore.liveSlot, EntityStore.freshSlot_of_ended hnone, if_neg hpassed]
    exact ⟨rfl, fun slot hslot => absurd hslot (Option.some_ne_none slot).symm⟩
  | kept ttl hafter hpos hspan hshown hend =>
    have hends : c.now < d.clock.now + (ttl : Int) ↔
        c.wall.nanos < d.validUntil s.profile s.policy := by
      rw [hstep.lt_add_iff]
      rcases hend with hexact | hbeyond
      · rw [hexact]
        rfl
      · exact iff_of_true (hbeyond c.wall).1 (hbeyond c.wall).2
    have hstamp (stamp : Timestamp) (hnot : stamp.isLeap = false)
        (hnanos : stamp.nanos = d.validUntil s.profile s.policy) :
        EntityStore.expiryStamp d.clock ttl = stamp := by
      apply EntityStore.expiryStamp_eq hstep.from_leap hspan hnot
      rcases hend with hexact | hbeyond
      · exact hnanos.trans hexact.symm
      · exact absurd hnanos (Int.ne_of_lt (hbeyond stamp).2)
    have hlive : (⟨⟨d.item, EntityStore.expiryStamp d.clock ttl⟩, d.clock.now + (ttl : Int)⟩ :
        Slot (Envelope α)).isLive c.now = decide (c.wall.nanos < d.validUntil s.profile s.policy) :=
      decide_eq_decide.2 hends
    rw [EntityStore.liveSlot, EntityStore.freshSlot_of_shown hafter hpos hshown,
      Option.filter_some, hlive]
    by_cases hvalid : c.wall.nanos < d.validUntil s.profile s.policy
    · rw [if_pos (decide_eq_true hvalid), if_pos hvalid]
      refine ⟨rfl, ?_⟩
      intro slot hslot stamp hnot hnanos
      rw [← Option.some.inj hslot]
      exact hstamp stamp hnot hnanos
    · rw [if_neg (by simp [hvalid]), if_neg hvalid]
      exact ⟨rfl, fun slot hslot => absurd hslot (Option.some_ne_none slot).symm⟩

end Deposit

/-! ## Runs -/

namespace StoreOp

/-- Whether an operation leaves the clocks in step, and brings only items with times to live that
can be computed with and shown. -/
def Steady (profile : Profile α) (policy : ExpirationPolicy) (c : Clock) : StoreOp α → Prop
  | .upsertAll _ items => ∀ item ∈ items, policy.Timed c (profile.validityEnd item)
  | .pass t => t.Together c
  | _ => True

/-- Whether all operations of a run that begins at a moment are steady. -/
def AllSteady (profile : Profile α) (policy : ExpirationPolicy) (c : Clock) :
    List (StoreOp α) → Prop
  | [] => True
  | op :: rest => op.Steady profile policy c ∧ AllSteady profile policy (op.clock c) rest

instance (profile : Profile α) (policy : ExpirationPolicy) (c : Clock) :
    (op : StoreOp α) → Decidable (op.Steady profile policy c)
  | .upsertAll _ items =>
    inferInstanceAs (Decidable (∀ item ∈ items, policy.Timed c (profile.validityEnd item)))
  | .pass (.advance d) => inferInstanceAs (Decidable ((c.wall.plus? d).isSome = true))
  | .pass (.setWall _) => .isFalse id
  | .clearDataset _ | .get _ | .getMany _ | .getAll _ | .query _ | .size | .sweep =>
    .isTrue trivial

instance decidableAllSteady (profile : Profile α) (policy : ExpirationPolicy) (c : Clock) :
    (ops : List (StoreOp α)) → Decidable (AllSteady profile policy c ops)
  | [] => .isTrue trivial
  | op :: rest =>
    have := decidableAllSteady profile policy (op.clock c) rest
    inferInstanceAs (Decidable (_ ∧ _))

theorem Steady.inStep {op : StoreOp α} (h : op.Steady profile policy c)
    (hleap : c.wall.isLeap = false) : c.InStep (op.clock c) := by
  cases op with
  | pass t => exact TimeStep.Together.inStep h hleap
  | _ => exact .refl hleap

end StoreOp

namespace Ledger

variable {l : Ledger α}

/-- The item of a key whose validity has not ended. -/
def valid? (l : Ledger α) (profile : Profile α) (policy : ExpirationPolicy) (wall : Timestamp)
    (k : RecordKey) : Option α :=
  (l k).bind fun d => if wall.nanos < d.validUntil profile policy then some d.item else none

/-- Whether all deposits of a ledger are followed up to now. -/
def Followed (l : Ledger α) (profile : Profile α) (policy : ExpirationPolicy) (c : Clock) : Prop :=
  ∀ k d, l k = some d → d.Followed profile policy c

theorem Followed.later (h : l.Followed profile policy c) {c' : Clock} (hstep : c.InStep c')
    (hle : c.now ≤ c'.now) : l.Followed profile policy c' :=
  fun k d hd => (h k d hd).later hstep hle

theorem Followed.foldl_note (h : l.Followed profile policy c) {vs : List (Verdict α)}
    (hvs : ∀ v ∈ vs, Deposit.Followed ⟨v.item, c⟩ profile policy c) :
    Followed (vs.foldl (note c) l) profile policy c := by
  refine List.foldlRecOn (motive := fun l => Followed l profile policy c) vs (note c) h ?_
  intro l hl v hv k d hd
  rcases of_note hd with hold | rfl
  · exact hl k d hold
  · exact hvs v hv

/-- What a steady operation enters is followed. -/
theorem Followed.enter (h : l.Followed profile policy c) (hleap : c.wall.isLeap = false)
    (s : EntityStore α) {op : StoreOp α} (hop : op.Steady profile policy c) :
    (l.enter s c op).Followed profile policy (op.clock c) := by
  apply later ?_ (hop.inStep hleap) (op.now_le_clock c)
  cases op with
  | upsertAll dataset items =>
    apply h.foldl_note
    intro v hv
    exact Deposit.followed_now hleap (hop v.item (EntityStore.item_of_mem_verdicts hv))
  | clearDataset dataset =>
    intro k d hd
    change (if k.belongsTo dataset then none else l k) = some d at hd
    split at hd
    · exact nomatch hd
    · exact h k d hd
  | _ => exact h

theorem Followed.after {r : StoreRun α (EntityStore α)} (h : l.Followed profile policy r.clock)
    (hleap : r.clock.wall.isLeap = false) {ops : List (StoreOp α)}
    (hops : StoreOp.AllSteady profile policy r.clock ops) :
    (l.after r ops).Followed profile policy (r.run EntityStore.perform ops).clock := by
  induction ops generalizing r l with
  | nil => exact h
  | cons op rest ih =>
    exact ih (h.enter hleap r.store hops.1) (hops.1.inStep hleap).to_leap hops.2

end Ledger

namespace EntityStore

variable {s : EntityStore α} {l : Ledger α}

/-- What is read under a key is the item of its deposit, until the validity of this item ends. -/
theorem Shows.get?_eq (h : s.Shows c.now l) (hfollowed : l.Followed s.profile s.policy c) :
    s.get? c.now = l.valid? s.profile s.policy c.wall := by
  funext k
  rw [get?, TtlStore.lookup, h k, Ledger.valid?, Option.map_map]
  cases hd : l k with
  | none => rfl
  | some d => exact (hfollowed k d hd).liveSlot_eq.1

/-- An envelope that is stored is that of a deposit. -/
theorem Shows.envelope (h : s.Shows c.now l) (hfollowed : l.Followed s.profile s.policy c)
    {k : RecordKey} {envelope : Envelope α} (hk : s.records.lookup c.now k = some envelope) :
    ∃ d, l k = some d ∧ ∀ stamp : Timestamp, stamp.isLeap = false →
      stamp.nanos = d.validUntil s.profile s.policy → envelope.expiresAt = stamp := by
  obtain ⟨slot, hslot, rfl⟩ := TtlStore.lookup_eq_some_iff.1 hk
  rw [h k] at hslot
  obtain ⟨d, hd, hlive⟩ := Option.bind_eq_some_iff.1 hslot
  exact ⟨d, hd, (hfollowed k d hd).liveSlot_eq.2 slot hlive⟩

theorem profile_runFrom (profile : Profile α) (policy : ExpirationPolicy) (c : Clock)
    (ops : List (StoreOp α)) : (runFrom profile policy c ops).store.profile = profile :=
  (runsAlike_runFrom profile policy c ops).profile

/-- Records are visible exactly until their validity ends. The item that was stored last under a
key, as a change or an unchanged refresh, is returned by every read and counted, as long as the wall
clock is before the end of validity and the grace period of the item, or the horizon after its
ingestion, and the record has been neither withdrawn nor cleared. That end is also what the stored
envelope is stamped with, if there is such a timestamp. Both clocks have to advance together, and all
times to live have to be such that they can be computed with and shown. -/
theorem visible_until_validity_ends (profile : Profile α) (policy : ExpirationPolicy) {c : Clock}
    (hleap : c.wall.isLeap = false) (ops : List (StoreOp α))
    (hsteady : StoreOp.AllSteady profile policy c ops) :
    let s := (runFrom profile policy c ops).store
    let now := (runFrom profile policy c ops).clock
    let l := Ledger.ofRun profile policy c ops
    let valid? := l.valid? profile policy now.wall
    ∃ keys : KeySet, (∀ k, k ∈ keys ↔ (valid? k).isSome = true) ∧
      (∀ k, s.get? now.now k = valid? k) ∧
      (∀ dataset, s.getAll now.now dataset =
        (keys.filter fun k => dataset.all k.belongsTo).toList.filterMap valid?) ∧
      (∀ f, s.query now.now f =
        ((keys.filter f.acceptsKey).toList.filterMap valid?).filter (profile.selects f)) ∧
      s.size now.now = keys.size ∧
      ∀ k envelope, s.records.lookup now.now k = some envelope →
        ∃ d, l k = some d ∧ ∀ stamp : Timestamp, stamp.isLeap = false →
          stamp.nanos = d.validUntil profile policy → envelope.expiresAt = stamp := by
  intro s now l valid?
  have hprofile : s.profile = profile := profile_runFrom profile policy c ops
  have hpolicy : s.policy = policy := policy_runFrom profile policy c ops
  have hshows : s.Shows now.now l := shows_ofRun profile policy c ops
  have hstart : Ledger.Followed (fun _ => none) profile policy c := by
    intro k d hd
    exact nomatch hd
  have hfollowed : l.Followed s.profile s.policy now := by
    rw [hprofile, hpolicy]
    exact hstart.after hleap hsteady
  have hget : s.get? now.now = valid? := by
    rw [hshows.get?_eq hfollowed, hprofile, hpolicy]
  refine ⟨s.keys now.now fun _ => true, ?_, congrFun hget, ?_, ?_, s.size_eq now.now, ?_⟩
  · intro k
    rw [mem_keys, hget, ← Option.isSome_iff_exists, and_iff_left rfl]
  · intro dataset
    rw [getAll_eq, keys_eq_filter, hget]
  · intro f
    rw [query_eq, keys_eq_filter, hget, hprofile]
  · intro k envelope hk
    have hstamped := hshows.envelope hfollowed hk
    rw [hprofile, hpolicy] at hstamped
    exact hstamped

/-- A message that is valid for a minute is replaced after half of it by one whose validity ends ten
seconds later. It goes when these are over, and another one stays until the horizon. -/
theorem message_gone_at_shorter_end :
    let first : InfoMessage :=
      { identifier := some "a", validUntil := some (.advance .epoch Duration.minute) }
    let second : InfoMessage :=
      { identifier := some "a", validUntil := some (.advance .epoch (40 * Duration.second)) }
    let ops : List (StoreOp InfoMessage) := [.upsertAll "A" [first, { identifier := some "b" }],
      .pass (.advance 30000000000), .upsertAll "A" [second], .pass (.advance 10000000000)]
    let c : Clock := ⟨.epoch, 0⟩
    let policy : ExpirationPolicy := ⟨0, Duration.hour⟩
    let run := runFrom InfoMessage.profile policy c ops
    (c.wall.isLeap = false ∧ StoreOp.AllSteady InfoMessage.profile policy c ops) ∧
      run.store.get? run.clock.now { dataset := "A", primary := "a" } = none ∧
      run.store.get? run.clock.now { dataset := "A", primary := "b" } =
        some { identifier := some "b" } := by
  intro first second ops c policy run
  have hleap : c.wall.isLeap = false := rfl
  have hsteady : StoreOp.AllSteady InfoMessage.profile policy c ops := by decide +kernel
  obtain ⟨keys, -, hget, -⟩ :=
    visible_until_validity_ends InfoMessage.profile policy hleap ops hsteady
  refine ⟨⟨hleap, hsteady⟩, ?_, ?_⟩
  · rw [hget]
    decide +kernel
  · rw [hget]
    decide +kernel

end EntityStore

end TransitHub
