/-
# Two trackers that serve some consumers alike

Changes of all datasets lie in one buffer, under one sequence of stamps, and one commit merges them
into the change sets of all consumers. Two trackers are alike for some consumers on some datasets if
they know the same of these consumers, equally long, and the same keys of these datasets wait for
them: those that are pending, and those that a commit will add because their stamps come after the
consumer's baseline. The stamps and baselines themselves are left open. They are not the same if one
tracker records more than the other, but which comes after which is.

A commit with nothing to merge leaves change sets alone, while any other one counts anew how long
they live. That comes to the same if both trackers have something to merge or neither has, and also
if the deadline of every change set is one period after its last access, as it is whenever the clock
can show that instant.
-/

import TransitHub.Proofs.Store.Alike
import TransitHub.Proofs.Tracking.Pages

namespace Option.Rel

variable {α β : Type} {a b : Option α} {r r' : α → α → Prop}

/-- What is computed from related options alike is related. -/
theorem bind {s : β → β → Prop} {f g : α → Option β} (h : Rel r a b)
    (hfg : ∀ x ∈ a, ∀ y ∈ b, r x y → Rel s (f x) (g y)) : Rel s (a.bind f) (b.bind g) := by
  cases h with
  | none => exact .none
  | some hxy => exact hfg _ rfl _ rfl hxy

theorem imp (h : Rel r a b) (himp : ∀ x y, r x y → r' x y) : Rel r' a b := by
  cases h with
  | none => exact .none
  | some hxy => exact .some (himp _ _ hxy)

theorem symm (h : Rel r a b) (hsymm : ∀ x y, r x y → r' y x) : Rel r' b a := by
  cases h with
  | none => exact .none
  | some hxy => exact .some (hsymm _ _ hxy)

/-- Options of which a part is the same are both missing or both there. -/
theorem of_map_eq {f : α → β} (h : a.map f = b.map f)
    (hr : ∀ x ∈ a, ∀ y ∈ b, f x = f y → r x y) : Rel r a b := by
  cases a with
  | none =>
    cases b with
    | none => exact .none
    | some y => exact nomatch h
  | some x =>
    cases b with
    | none => exact nomatch h
    | some y => exact .some (hr x rfl y rfl (Option.some.inj h))

end Option.Rel

namespace TransitHub

namespace ChangeBuffer

/-- What a recording adds comes after every baseline that was given out before. -/
theorem holdsAfter_record_iff {b : ChangeBuffer} {baseline : Nat} {ks : KeySet} {k : RecordKey}
    (hle : baseline ≤ b.sequence) :
    (b.record ks).HoldsAfter baseline k ↔ k ∈ ks ∨ b.HoldsAfter baseline k := by
  unfold HoldsAfter
  rw [stamps_record]
  by_cases hk : k ∈ ks
  · simp [hk, Nat.lt_succ_of_le hle]
  · simp [hk]

theorem not_holdsAfter_of_empty (sequence baseline : Nat) (k : RecordKey) :
    ¬ ChangeBuffer.HoldsAfter { sequence } baseline k :=
  not_holdsAfter_of_isEmpty rfl baseline k

end ChangeBuffer

/-- The rest of a period, counted from now, ends where the period ends. -/
theorem Instant.add_rest {access now : Int} {period : Nat} (hpast : access ≤ now)
    (hlive : now < access + period) :
    now + ((period - (now - access).toNat : Nat) : Int) = access + period := by
  omega

/-- Two change sets, each with the buffer in front of it, of which the same is to be served. -/
structure ChangeSet.AlikeOn (D : String → Prop) (b b' : ChangeBuffer) (x y : Slot ChangeSet) :
    Prop where
  deadline : x.deadline = y.deadline
  lastAccess : x.value.lastAccess = y.value.lastAccess
  pending : ∀ k, D k.dataset → (k ∈ x.value.pending ↔ k ∈ y.value.pending)
  held : ∀ k, D k.dataset →
    (b.HoldsAfter x.value.baseline k ↔ b'.HoldsAfter y.value.baseline k)
  /-- Baselines were given out before. -/
  baseline_le : x.value.baseline ≤ b.sequence ∧ y.value.baseline ≤ b'.sequence

namespace ChangeSet.AlikeOn

variable {D : String → Prop} {b b' : ChangeBuffer} {x y : Slot ChangeSet} {ks : KeySet}

theorem symm (h : AlikeOn D b b' x y) : AlikeOn D b' b y x where
  deadline := h.deadline.symm
  lastAccess := h.lastAccess.symm
  pending k hk := (h.pending k hk).symm
  held k hk := (h.held k hk).symm
  baseline_le := h.baseline_le.symm

theorem record (h : AlikeOn D b b' x y) (ks : KeySet) :
    AlikeOn D (b.record ks) (b'.record ks) x y where
  deadline := h.deadline
  lastAccess := h.lastAccess
  pending := h.pending
  held k hk := by
    rw [ChangeBuffer.holdsAfter_record_iff h.baseline_le.1,
      ChangeBuffer.holdsAfter_record_iff h.baseline_le.2, h.held k hk]
  baseline_le := ⟨Nat.le_succ_of_le h.baseline_le.1, Nat.le_succ_of_le h.baseline_le.2⟩

/-- Keys of other datasets that are recorded on one side only. -/
theorem record_left (h : AlikeOn D b b' x y) (hother : ∀ k ∈ ks, ¬ D k.dataset) :
    AlikeOn D (b.record ks) b' x y where
  deadline := h.deadline
  lastAccess := h.lastAccess
  pending := h.pending
  held k hk := by
    rw [ChangeBuffer.holdsAfter_record_iff h.baseline_le.1, h.held k hk]
    exact or_iff_right fun hmem => hother k hmem hk
  baseline_le := ⟨Nat.le_succ_of_le h.baseline_le.1, h.baseline_le.2⟩

end ChangeSet.AlikeOn

namespace ChangeTracker

variable {D R : String → Prop} {now : Instant} {t t' : ChangeTracker} {x y : Slot ChangeSet}
  {consumer : String} {ks : KeySet}

/-- The change set of a consumer, with its deadline. -/
def slot? (t : ChangeTracker) (now : Instant) (consumer : String) : Option (Slot ChangeSet) :=
  t.consumers.live? now consumer

/-- Whether two trackers serve some consumers alike. -/
structure AlikeOn (D R : String → Prop) (now : Instant) (t t' : ChangeTracker) : Prop where
  period : t.period = t'.period
  stamped : t.buffer.Stamped ∧ t'.buffer.Stamped
  sets : ∀ consumer, R consumer →
    Option.Rel (ChangeSet.AlikeOn D t.buffer t'.buffer) (t.slot? now consumer)
      (t'.slot? now consumer)

theorem alikeOn_empty (period : Duration) : (empty period).AlikeOn D R now (empty period) where
  period := rfl
  stamped := ⟨ChangeBuffer.stamped_of_empty 0, ChangeBuffer.stamped_of_empty 0⟩
  sets consumer _ := by
    have hnone : (empty period).slot? now consumer = none := TtlStore.live?_empty ..
    rw [hnone]
    exact .none

namespace AlikeOn

theorem symm (h : t.AlikeOn D R now t') : t'.AlikeOn D R now t where
  period := h.period.symm
  stamped := h.stamped.symm
  sets consumer hconsumer := (h.sets consumer hconsumer).symm fun _ _ hxy => hxy.symm

theorem later (h : t.AlikeOn D R now t') {later : Instant} (hle : now ≤ later) :
    t.AlikeOn D R later t' where
  period := h.period
  stamped := h.stamped
  sets consumer hconsumer := by
    have hslot (t : ChangeTracker) : t.slot? later consumer =
        (t.slot? now consumer).bind fun slot => if slot.isLive later then some slot else none := by
      rw [slot?, t.consumers.live?_later hle consumer, slot?]
      cases t.consumers.live? now consumer <;> rfl
    rw [hslot t, hslot t']
    apply (h.sets consumer hconsumer).bind
    intro x _ y _ hxy
    rw [Slot.isLive, Slot.isLive, hxy.deadline]
    split
    · exact .some hxy
    · exact .none

/-- Slots that are left alone on one side. -/
theorem congr_left (h : t.AlikeOn D R now t') {u : ChangeTracker} (hperiod : u.period = t.period)
    (hbuffer : u.buffer = t.buffer)
    (hslot : ∀ consumer, R consumer → u.slot? now consumer = t.slot? now consumer) :
    u.AlikeOn D R now t' where
  period := hperiod.trans h.period
  stamped := by
    rw [hbuffer]
    exact h.stamped
  sets consumer hconsumer := by
    rw [hbuffer, hslot consumer hconsumer]
    exact h.sets consumer hconsumer

theorem recordChange (h : t.AlikeOn D R now t') (ks : KeySet) :
    (t.recordChange ks).AlikeOn D R now (t'.recordChange ks) where
  period := h.period
  stamped := ⟨h.stamped.1.record ks, h.stamped.2.record ks⟩
  sets consumer hconsumer := (h.sets consumer hconsumer).imp fun _ _ hxy => hxy.record ks

theorem recordChange_left (h : t.AlikeOn D R now t') (hother : ∀ k ∈ ks, ¬ D k.dataset) :
    (t.recordChange ks).AlikeOn D R now t' where
  period := h.period
  stamped := ⟨h.stamped.1.record ks, h.stamped.2⟩
  sets consumer hconsumer :=
    (h.sets consumer hconsumer).imp fun _ _ hxy => hxy.record_left hother

end AlikeOn

/-! ## Commits -/

/-- What a commit leaves of one change set. -/
def merged (t : ChangeTracker) (now : Instant) (slot : Slot ChangeSet) : Option (Slot ChangeSet) :=
  if t.buffer.isEmpty then some slot
  else if t.remaining now slot.value = 0 then none
  else some {
    value := { slot.value with
      pending := slot.value.pending ∪ t.buffer.stamps.after slot.value.baseline }
    deadline := now.deadline (t.remaining now slot.value) }

theorem slot?_commit (t : ChangeTracker) (now : Instant) (consumer : String) :
    (t.commit now).2.slot? now consumer = (t.slot? now consumer).bind (t.merged now) := by
  cases hbuffer : t.buffer.isEmpty with
  | true =>
    have hsame : (t.commit now).2 = t := by simp [commit, hbuffer]
    rw [hsame]
    cases t.slot? now consumer <;> simp [merged, hbuffer]
  | false =>
    rw [slot?, live?_commit now hbuffer, TtlStore.lookup, slot?]
    cases hslot : t.consumers.live? now consumer with
    | none => simp [merge, TtlStore.decided, hslot]
    | some slot =>
      by_cases hremaining : t.remaining now slot.value = 0
      · simp [merge, TtlStore.decided, merged, hbuffer, hremaining]
      · simp [merge, TtlStore.decided, merged, hbuffer, hremaining]

/-- A change set that survives a commit has everything that was held for it. -/
theorem mem_merged (h : t.merged now x = some y) :
    y.value.lastAccess = x.value.lastAccess ∧ y.value.baseline = x.value.baseline ∧
      ∀ k, k ∈ y.value.pending ↔ k ∈ x.value.pending ∨ t.buffer.HoldsAfter x.value.baseline k := by
  unfold merged at h
  split at h
  · next hempty =>
    obtain rfl := Option.some.inj h
    refine ⟨rfl, rfl, fun k => ?_⟩
    exact (or_iff_left (ChangeBuffer.not_holdsAfter_of_isEmpty hempty _ k)).symm
  · split at h
    · exact nomatch h
    · obtain rfl := Option.some.inj h
      refine ⟨rfl, rfl, fun k => ?_⟩
      rw [Std.ExtTreeSet.mem_union_iff, ChangeBuffer.mem_after]

/-- Whether every change set lives for one period after its last access. -/
def Punctual (t : ChangeTracker) (now : Instant) : Prop :=
  ∀ consumer slot, t.slot? now consumer = some slot →
    slot.deadline = slot.value.lastAccess + t.period ∧ slot.value.lastAccess ≤ now

/-- A commit does not change when such a change set ends, as long as the clock can show it. -/
theorem Punctual.deadline_merged (h : t.Punctual now) (hslot : t.slot? now consumer = some x)
    (hrange : now + t.period < Instant.limit) :
    (t.merged now x).map Slot.deadline = some x.deadline := by
  obtain ⟨hdeadline, hpast⟩ := h consumer x hslot
  have hlive : now < x.deadline := Slot.isLive_iff.1 (TtlStore.live?_eq_some_iff.1 hslot).2
  have hremaining : now + (t.remaining now x.value : Int) = x.deadline := by
    rw [hdeadline] at hlive ⊢
    exact Instant.add_rest hpast hlive
  have hpos : t.remaining now x.value ≠ 0 := by
    intro hzero
    rw [hzero, Int.natCast_zero, Int.add_zero] at hremaining
    exact Int.ne_of_lt hlive hremaining
  have hdeadline' : now.deadline (t.remaining now x.value) = x.deadline := by
    have hshown : x.deadline < Instant.limit := by
      rw [hdeadline]
      exact Int.lt_of_le_of_lt (Int.add_le_add_right hpast _) hrange
    rw [Instant.deadline, hremaining, if_pos hshown]
  unfold merged
  by_cases hempty : t.buffer.isEmpty = true
  · rw [if_pos hempty]
    rfl
  · rw [if_neg hempty, if_neg hpos, hdeadline']
    rfl

/-- When commits at one moment let the same change sets of both trackers go on, and equally long. -/
def Paced (now : Instant) (t t' : ChangeTracker) : Prop :=
  t.buffer.isEmpty = t'.buffer.isEmpty ∨
    t.Punctual now ∧ t'.Punctual now ∧ now + t.period < Instant.limit ∧
      now + t'.period < Instant.limit

theorem Paced.deadline_merged (h : Paced now t t') (hperiod : t.period = t'.period)
    (hx : t.slot? now consumer = some x) (hy : t'.slot? now consumer = some y)
    (hxy : ChangeSet.AlikeOn D t.buffer t'.buffer x y) :
    (t.merged now x).map Slot.deadline = (t'.merged now y).map Slot.deadline := by
  rcases h with hempty | ⟨hpunctual, hpunctual', hrange, hrange'⟩
  · have hremaining : t.remaining now x.value = t'.remaining now y.value := by
      rw [remaining, remaining, hperiod, hxy.lastAccess]
    unfold merged
    rw [hempty, hremaining]
    split
    · exact congrArg some hxy.deadline
    · split <;> rfl
  · rw [hpunctual.deadline_merged hx hrange, hpunctual'.deadline_merged hy hrange', hxy.deadline]

theorem AlikeOn.commit (h : t.AlikeOn D R now t') (hpaced : Paced now t t') :
    (t.commit now).2.AlikeOn D R now (t'.commit now).2 where
  period := by rw [period_commit, period_commit, h.period]
  stamped := by
    rw [buffer_commit, buffer_commit]
    exact ⟨ChangeBuffer.stamped_of_empty _, ChangeBuffer.stamped_of_empty _⟩
  sets consumer hconsumer := by
    rw [slot?_commit, slot?_commit, buffer_commit, buffer_commit]
    apply (h.sets consumer hconsumer).bind
    intro x hx y hy hxy
    apply Option.Rel.of_map_eq (hpaced.deadline_merged h.period hx hy hxy)
    intro x' hx' y' hy' hdeadline
    obtain ⟨haccess, hbaseline, hpending⟩ := mem_merged hx'
    obtain ⟨haccess', hbaseline', hpending'⟩ := mem_merged hy'
    exact {
      deadline := hdeadline
      lastAccess := by rw [haccess, haccess', hxy.lastAccess]
      pending := fun k hk => by rw [hpending, hpending', hxy.pending k hk, hxy.held k hk]
      held := fun k _ => iff_of_false (ChangeBuffer.not_holdsAfter_of_empty _ _ k)
        (ChangeBuffer.not_holdsAfter_of_empty _ _ k)
      baseline_le := by
        rw [hbaseline, hbaseline']
        exact hxy.baseline_le }

/-! ## Polls -/

theorem slot?_remember (t : ChangeTracker) (now : Instant) (poller consumer : String)
    (pending : KeySet) (baseline : Nat) :
    (t.remember now poller pending baseline).slot? now consumer =
      if poller = consumer then
        (if t.period = 0 then none else some ⟨⟨pending, now, baseline⟩, now.deadline t.period⟩)
      else t.slot? now consumer :=
  TtlStore.live?_put t.consumers now poller consumer _ t.period

theorem AlikeOn.remember (h : t.AlikeOn D R now t') (poller : String) {pending pending' : KeySet}
    {baseline baseline' : Nat}
    (hpending : ∀ k, D k.dataset → (k ∈ pending ↔ k ∈ pending'))
    (hheld : ∀ k, D k.dataset →
      (t.buffer.HoldsAfter baseline k ↔ t'.buffer.HoldsAfter baseline' k))
    (hle : baseline ≤ t.buffer.sequence ∧ baseline' ≤ t'.buffer.sequence) :
    (t.remember now poller pending baseline).AlikeOn D R now
      (t'.remember now poller pending' baseline') where
  period := h.period
  stamped := h.stamped
  sets consumer hconsumer := by
    rw [slot?_remember, slot?_remember, h.period]
    by_cases hself : poller = consumer
    · rw [if_pos hself, if_pos hself]
      split
      · exact .none
      · exact .some ⟨rfl, rfl, hpending, hheld, hle⟩
    · rw [if_neg hself, if_neg hself]
      exact h.sets consumer hconsumer

/-- What a consumer is remembered with that nobody looks at. -/
theorem AlikeOn.remember_left (h : t.AlikeOn D R now t') {poller : String} (hother : ¬ R poller)
    (pending : KeySet) (baseline : Nat) :
    (t.remember now poller pending baseline).AlikeOn D R now t' := by
  refine h.congr_left (u := t.remember now poller pending baseline) rfl rfl ?_
  intro consumer hconsumer
  have hne : poller ≠ consumer := by
    rintro rfl
    exact hother hconsumer
  rw [slot?_remember, if_neg hne]

variable {α : Type} {s s' : EntityStore α} {request : ReadRequest}

theorem candidates_of_known (s : EntityStore α) (request : ReadRequest)
    (hknown : t.slot? now consumer = some x) :
    t.candidates s now consumer request = x.value.pending ∧
      t.baselineFor now consumer = x.value.baseline ∧
      (t.consumers.lookup now consumer).isSome = true := by
  have hlookup : t.consumers.lookup now consumer = some x.value := congrArg (Option.map _) hknown
  simp [candidates, baselineFor, hlookup]

theorem candidates_of_unknown (s : EntityStore α) (request : ReadRequest)
    (hunknown : t.slot? now consumer = none) :
    t.candidates s now consumer request = s.keys now request.filter.acceptsKey ∧
      t.baselineFor now consumer = t.buffer.sequence ∧
      (t.consumers.lookup now consumer).isSome = false := by
  have hlookup : t.consumers.lookup now consumer = none := congrArg (Option.map _) hunknown
  simp [candidates, baselineFor, hlookup]

/-- What a poll starts from in both trackers: the same candidates of the datasets, and a baseline
after which the same is held. -/
structure SameStart (D : String → Prop) (now : Instant) (consumer : String) (request : ReadRequest)
    (t : ChangeTracker) (s : EntityStore α) (t' : ChangeTracker) (s' : EntityStore α) : Prop where
  candidates : ∀ k, D k.dataset →
    (k ∈ t.candidates s now consumer request ↔ k ∈ t'.candidates s' now consumer request)
  held : ∀ k, D k.dataset → (t.buffer.HoldsAfter (t.baselineFor now consumer) k ↔
    t'.buffer.HoldsAfter (t'.baselineFor now consumer) k)
  baseline_le : t.baselineFor now consumer ≤ t.buffer.sequence ∧
    t'.baselineFor now consumer ≤ t'.buffer.sequence
  known : (t.consumers.lookup now consumer).isSome = (t'.consumers.lookup now consumer).isSome

theorem AlikeOn.sameStart (h : t.AlikeOn D R now t') (hstore : s.AlikeOn D now s')
    (hconsumer : R consumer) (request : ReadRequest) :
    SameStart D now consumer request t s t' s' := by
  have hsets := h.sets consumer hconsumer
  generalize hx : t.slot? now consumer = slot at hsets
  generalize hy : t'.slot? now consumer = slot' at hsets
  cases hsets with
  | none =>
    obtain ⟨hcandidates, hbaseline, hknown⟩ := candidates_of_unknown s request hx
    obtain ⟨hcandidates', hbaseline', hknown'⟩ := candidates_of_unknown s' request hy
    constructor
    case candidates =>
      intro k hk
      rw [hcandidates, hcandidates', EntityStore.mem_keys, EntityStore.mem_keys, hstore.get?_eq hk]
    case held =>
      intro k _
      rw [hbaseline, hbaseline']
      exact iff_of_false (h.stamped.1.not_holdsAfter k) (h.stamped.2.not_holdsAfter k)
    case baseline_le =>
      rw [hbaseline, hbaseline']
      exact ⟨Nat.le_refl _, Nat.le_refl _⟩
    case known => rw [hknown, hknown']
  | some hxy =>
    obtain ⟨hcandidates, hbaseline, hknown⟩ := candidates_of_known s request hx
    obtain ⟨hcandidates', hbaseline', hknown'⟩ := candidates_of_known s' request hy
    constructor
    case candidates =>
      intro k hk
      rw [hcandidates, hcandidates', hxy.pending k hk]
    case held =>
      intro k hk
      rw [hbaseline, hbaseline', hxy.held k hk]
    case baseline_le =>
      rw [hbaseline, hbaseline']
      exact hxy.baseline_le
    case known => rw [hknown, hknown']

/-- The result of a poll, in terms of its scope. -/
theorem result_read (t : ChangeTracker) (s : EntityStore α) (now : Instant) (consumer : String)
    (request : ReadRequest) :
    (t.read s now consumer request).1 = {
      consumed := .ofList (Paging.page request.maxSize (t.scope s now consumer request)).1 compare
      served := (s.getMany now (.ofList
        (Paging.page request.maxSize (t.scope s now consumer request)).1 compare)).filter
          fun e => s.profile.selects request.filter e.2
      known := (t.consumers.lookup now consumer).isSome
      more := !(Paging.page request.maxSize (t.scope s now consumer request)).2.isEmpty } := by
  rw [read_eq_serve]
  rfl

/-- A poll for these datasets is answered alike and leaves the trackers and the stores alike. -/
theorem AlikeOn.read (h : t.AlikeOn D R now t') (hstore : s.AlikeOn D now s')
    (hconsumer : R consumer) (hwanted : ∀ d, request.filter.acceptsDataset d = true → D d) :
    (t.read s now consumer request).1 = (t'.read s' now consumer request).1 ∧
      (t.read s now consumer request).2.1.AlikeOn D R now
        (t'.read s' now consumer request).2.1 := by
  have hstart := h.sameStart hstore hconsumer request
  have hscope : t.scope s now consumer request = t'.scope s' now consumer request := by
    apply (t.ascending_scope s now consumer request).eq_of_mem_iff
      (t'.ascending_scope s' now consumer request)
    intro k
    rw [scope, scope, List.mem_filter, List.mem_filter, Std.ExtTreeSet.mem_toList,
      Std.ExtTreeSet.mem_toList]
    apply and_congr_left
    intro hk
    exact hstart.candidates k (hwanted k.dataset hk)
  refine ⟨?_, ?_⟩
  · have hserved : s.getMany now (.ofList
        (Paging.page request.maxSize (t'.scope s' now consumer request)).1 compare) =
        s'.getMany now (.ofList
          (Paging.page request.maxSize (t'.scope s' now consumer request)).1 compare) := by
      apply hstore.getMany_eq
      intro k hk
      rw [← consumed_read] at hk
      exact hwanted k.dataset ((t'.read_answered s' now consumer request).consumed k hk).2
    rw [result_read, result_read, hscope, hstart.known, hserved, hstore.profile]
  · rw [tracker_read, tracker_read, hscope]
    apply h.remember consumer _ hstart.held hstart.baseline_le
    intro k hk
    rw [KeySet.mem_insertMany, KeySet.mem_insertMany, rejected, rejected, KeySet.mem_filter,
      KeySet.mem_filter, hstart.candidates k hk]

/-- A poll takes nothing out of the store. -/
theorem alikeOn_read (t : ChangeTracker) (s : EntityStore α) (now : Instant) (consumer : String)
    (request : ReadRequest) : s.AlikeOn D now (t.read s now consumer request).2.2 := by
  rcases (t.read_answered s now consumer request).store with hstore | hstore
  · rw [hstore]
    exact .refl s
  · rw [hstore]
    exact s.alikeOn_touchAll _

/-! ## Looking and sweeping -/

namespace AlikeOn

variable (h : t.AlikeOn D R now t')

include h

/-- As many keys wait for a consumer, where the trackers are alike on all datasets. -/
theorem pendingCount_eq (hconsumer : R consumer) (hall : ∀ d, D d) :
    t.pendingCount now consumer = t'.pendingCount now consumer := by
  have hcount (t : ChangeTracker) : t.pendingCount now consumer =
      (t.slot? now consumer).map fun slot => slot.value.pending.size := by
    rw [pendingCount, TtlStore.lookup, Option.map_map]
    rfl
  have hsets := h.sets consumer hconsumer
  rw [hcount t, hcount t']
  generalize t.slot? now consumer = slot at hsets
  generalize t'.slot? now consumer = slot' at hsets
  cases hsets with
  | none => rfl
  | some hxy =>
    have hpending := KeySet.eq_of_mem_iff fun k => hxy.pending k (hall k.dataset)
    rw [Option.map_some, Option.map_some, hpending]

theorem touch_left (asked : String) : (t.touch now asked).AlikeOn D R now t' :=
  h.congr_left (u := t.touch now asked) rfl rfl fun consumer _ =>
    t.consumers.live?_touch now asked consumer

theorem sweep_left : (t.sweep now).AlikeOn D R now t' :=
  h.congr_left (u := t.sweep now) rfl rfl fun consumer _ => t.consumers.live?_sweep now consumer

end AlikeOn

/-! ## Keeping the period -/

namespace Punctual

theorem later (h : t.Punctual now) {later : Instant} (hle : now ≤ later) : t.Punctual later := by
  intro consumer slot hslot
  obtain ⟨hdeadline, hpast⟩ := h consumer slot (TtlStore.live?_of_later hle hslot)
  exact ⟨hdeadline, Int.le_trans hpast hle⟩

theorem congr (h : t.Punctual now) {u : ChangeTracker} (hperiod : u.period = t.period)
    (hslot : ∀ consumer, u.slot? now consumer = t.slot? now consumer) : u.Punctual now := by
  intro consumer slot hu
  rw [hperiod]
  exact h consumer slot ((hslot consumer).symm.trans hu)

theorem remember (h : t.Punctual now) (hrange : now + t.period < Instant.limit) (poller : String)
    (pending : KeySet) (baseline : Nat) :
    (t.remember now poller pending baseline).Punctual now := by
  intro consumer slot hslot
  rw [slot?_remember] at hslot
  split at hslot
  · split at hslot
    · exact nomatch hslot
    · rw [← Option.some.inj hslot]
      exact ⟨if_pos hrange, Int.le_refl now⟩
  · exact h consumer slot hslot

theorem commit (h : t.Punctual now) (hrange : now + t.period < Instant.limit) :
    (t.commit now).2.Punctual now := by
  intro consumer slot hslot
  rw [slot?_commit] at hslot
  obtain ⟨before, hbefore, hmerged⟩ := Option.bind_eq_some_iff.1 hslot
  obtain ⟨hdeadline, hpast⟩ := h consumer before hbefore
  obtain ⟨haccess, -, -⟩ := mem_merged hmerged
  have hkept := h.deadline_merged hbefore hrange
  rw [hmerged] at hkept
  rw [haccess, period_commit, ← hdeadline]
  exact ⟨Option.some.inj hkept, hpast⟩

theorem step (h : t.Punctual now) (hrange : now + t.period < Instant.limit)
    (hstep : t.Step now t') : t'.Punctual now := by
  cases hstep with
  | kept => exact h
  | recorded ks => exact h.congr rfl fun _ => rfl
  | committed => exact h.commit hrange
  | polled poller pending baseline => exact h.remember hrange poller pending baseline
  | looked asked => exact h.congr rfl fun consumer => t.consumers.live?_touch now asked consumer
  | swept => exact h.congr rfl fun consumer => t.consumers.live?_sweep now consumer

end Punctual

end ChangeTracker

end TransitHub
