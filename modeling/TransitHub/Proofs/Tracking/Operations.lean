/-
# What the operations of a tracker do

A recording stamps, a commit merges, a poll consumes. This module says for each what it does to the
buffer and to the change sets, in terms of the keys that are in them; the lists and folds by which
it is done appear only here.

Two of the facts are the ones that nothing may get lost by. A commit empties the buffer, and what it
takes out is pending afterwards for every consumer that is still known, except where the stamp says
that the consumer was served the key already. And a poll takes from a change set exactly what it
reports as consumed, which are keys that its filter accepts.

`Step` lists all that an operation on a feed can do to the tracker. What every operation keeps is
proved by cases on it.
-/

import TransitHub.Proofs.Store.Reads
import TransitHub.Tracking.ChangeTracker

namespace TransitHub

/-- A page and what it leaves are everything, in the same order. -/
theorem Paging.page_append {α : Type} (limit : Option Nat) (xs : List α) :
    (page limit xs).1 ++ (page limit xs).2 = xs := by
  cases limit with
  | none => exact List.append_nil xs
  | some n => exact List.take_append_drop (max n 1) xs

theorem KeySet.mem_filter {ks : KeySet} {p : RecordKey → Bool} {k : RecordKey} :
    k ∈ ks.filter p ↔ k ∈ ks ∧ p k = true := by
  simp

theorem KeySet.mem_insertMany {ks : KeySet} {more : List RecordKey} {k : RecordKey} :
    k ∈ ks.insertMany more ↔ k ∈ ks ∨ k ∈ more := by
  rw [Std.ExtTreeSet.mem_insertMany_list, List.contains_iff_mem]

namespace ChangeBuffer

/-- A key waits with a stamp greater than a baseline. -/
def HoldsAfter (b : ChangeBuffer) (baseline : Nat) (k : RecordKey) : Prop :=
  ∃ stamp, b.stamps[k]? = some stamp ∧ baseline < stamp

/-- A recorded key carries the new stamp, any other key the one it had. -/
theorem stamps_record (b : ChangeBuffer) (ks : KeySet) (k : RecordKey) :
    (b.record ks).stamps[k]? = if k ∈ ks then some (b.sequence + 1) else b.stamps[k]? := by
  have hfold (l : List RecordKey) (m : KeyStamps) :
      (l.foldl (fun m k => m.insert k (b.sequence + 1)) m)[k]? =
        if k ∈ l then some (b.sequence + 1) else m[k]? := by
    induction l generalizing m with
    | nil => rfl
    | cons key rest ih =>
      rw [List.foldl_cons, ih, Std.ExtTreeMap.getElem?_insert]
      by_cases hkey : k = key
      · simp [hkey]
      · have hne : compare key k ≠ .eq := fun h => hkey (Std.LawfulEqOrd.eq_of_compare h).symm
        simp [hkey, hne]
  rw [record, hfold]
  by_cases hk : k ∈ ks
  · rw [if_pos hk, if_pos (Std.ExtTreeSet.mem_toList.2 hk)]
  · rw [if_neg hk, if_neg (mt Std.ExtTreeSet.mem_toList.1 hk)]

/-- What waited keeps waiting, with the same stamp or a newer one. -/
theorem HoldsAfter.record {b : ChangeBuffer} {baseline : Nat} {k : RecordKey}
    (h : b.HoldsAfter baseline k) (hle : baseline ≤ b.sequence) (ks : KeySet) :
    (b.record ks).HoldsAfter baseline k := by
  obtain ⟨stamp, hstamp, hlt⟩ := h
  by_cases hk : k ∈ ks
  · exact ⟨b.sequence + 1, by rw [stamps_record, if_pos hk], Nat.lt_succ_of_le hle⟩
  · exact ⟨stamp, by rw [stamps_record, if_neg hk, hstamp], hlt⟩

theorem holdsAfter_record_of_mem {b : ChangeBuffer} {baseline : Nat} {k : RecordKey} {ks : KeySet}
    (hk : k ∈ ks) (hle : baseline ≤ b.sequence) : (b.record ks).HoldsAfter baseline k :=
  ⟨b.sequence + 1, by rw [stamps_record, if_pos hk], Nat.lt_succ_of_le hle⟩

/-- The keys after a baseline are those that a commit has to merge. -/
theorem mem_after {b : ChangeBuffer} {baseline : Nat} {k : RecordKey} :
    k ∈ b.stamps.after baseline ↔ b.HoldsAfter baseline k := by
  rw [KeyStamps.after, Std.ExtTreeSet.mem_ofList, List.contains_iff_mem]
  simp only [List.mem_map, List.mem_filter, decide_eq_true_eq]
  constructor
  · intro h
    obtain ⟨⟨key, stamp⟩, ⟨hentry, hlt⟩, rfl⟩ := h
    exact ⟨stamp, Std.ExtTreeMap.mem_toList_iff_getElem?_eq_some.1 hentry, hlt⟩
  · intro h
    obtain ⟨stamp, hstamp, hlt⟩ := h
    exact ⟨(k, stamp), ⟨Std.ExtTreeMap.mem_toList_iff_getElem?_eq_some.2 hstamp, hlt⟩, rfl⟩

theorem not_holdsAfter_of_isEmpty {b : ChangeBuffer} (h : b.isEmpty = true) (baseline : Nat)
    (k : RecordKey) : ¬ b.HoldsAfter baseline k := by
  intro h
  obtain ⟨stamp, hstamp, -⟩ := h
  have hempty : b.stamps = ∅ := Std.ExtTreeMap.isEmpty_iff.1 h
  rw [hempty] at hstamp
  simp at hstamp

/-- No stamp is ahead of the sequence. -/
def Stamped (b : ChangeBuffer) : Prop :=
  ∀ (k : RecordKey) (stamp : Nat), b.stamps[k]? = some stamp → stamp ≤ b.sequence

theorem stamped_of_empty (sequence : Nat) : Stamped { sequence } := by
  intro k stamp hstamp
  simp at hstamp

theorem Stamped.record {b : ChangeBuffer} (h : b.Stamped) (ks : KeySet) : (b.record ks).Stamped := by
  intro k stamp hstamp
  rw [stamps_record] at hstamp
  split at hstamp
  · exact Nat.le_of_eq (Option.some.inj hstamp).symm
  · exact Nat.le_succ_of_le (h k stamp hstamp)

/-- Nothing waits that was stamped after the present moment. -/
theorem Stamped.not_holdsAfter {b : ChangeBuffer} (h : b.Stamped) (k : RecordKey) :
    ¬ b.HoldsAfter b.sequence k := by
  intro hheld
  obtain ⟨stamp, hstamp, hlt⟩ := hheld
  exact Nat.not_lt_of_le (h k stamp hstamp) hlt

end ChangeBuffer

namespace ChangeTracker

/-! ## Commits -/

/-- A commit empties the buffer and keeps counting. -/
theorem buffer_commit (t : ChangeTracker) (now : Instant) :
    (t.commit now).2.buffer = { sequence := t.buffer.sequence } := by
  unfold commit
  split
  · next hempty =>
    have hstamps : t.buffer.stamps = ∅ := Std.ExtTreeMap.isEmpty_iff.1 hempty
    rw [← hstamps]
  · rfl

theorem period_commit (t : ChangeTracker) (now : Instant) :
    (t.commit now).2.period = t.period := by
  unfold commit
  split <;> rfl

/-- A commit that has something to merge decides about every known consumer by itself. -/
theorem live?_commit {t : ChangeTracker} (now : Instant) (hbuffer : t.buffer.isEmpty = false)
    (consumer : String) :
    (t.commit now).2.consumers.live? now consumer =
      t.consumers.decided now consumer
        (t.merge now t.buffer.stamps (t.consumers.lookup now consumer)) := by
  have hmerged : (t.commit now).2.consumers =
      (t.known now).foldl (fun s c => s.compute now c (t.merge now t.buffer.stamps))
        t.consumers := by
    simp [commit, hbuffer, ChangeBuffer.drain]
  have hnodup : (t.known now).Nodup := TtlStore.nodup_toList _
  rw [hmerged, TtlStore.live?_foldl_compute _ _ _ hnodup]
  by_cases hknown : consumer ∈ t.known now
  · rw [if_pos hknown]
  · rw [if_neg hknown]
    have habsent : t.consumers.lookup now consumer = none := by
      rw [Option.eq_none_iff_forall_not_mem]
      intro c hc
      exact hknown (Std.ExtTreeSet.mem_toList.2 (TtlStore.mem_keys.2 ⟨⟨c, hc⟩, rfl⟩))
    rw [habsent]
    rfl

/-- Who is still known after a commit has pending what was pending and what was buffered. -/
theorem lookup_commit {t : ChangeTracker} {now : Instant} {consumer : String} {c' : ChangeSet}
    (h : (t.commit now).2.consumers.lookup now consumer = some c') :
    ∃ c, t.consumers.lookup now consumer = some c ∧ c'.baseline = c.baseline ∧
      ∀ k, k ∈ c'.pending ↔ k ∈ c.pending ∨ t.buffer.HoldsAfter c.baseline k := by
  cases hbuffer : t.buffer.isEmpty with
  | true =>
    have hsame : (t.commit now).2 = t := by simp [commit, hbuffer]
    rw [hsame] at h
    refine ⟨c', h, rfl, fun k => ?_⟩
    exact (or_iff_left (ChangeBuffer.not_holdsAfter_of_isEmpty hbuffer c'.baseline k)).symm
  | false =>
    rw [TtlStore.lookup, live?_commit now hbuffer] at h
    cases hc : t.consumers.lookup now consumer with
    | none =>
      have hlive : t.consumers.live? now consumer = none := TtlStore.lookup_eq_none_iff.1 hc
      simp [hc, merge, TtlStore.decided, hlive] at h
    | some c =>
      rw [hc] at h
      by_cases hremaining : t.remaining now c = 0
      · simp [merge, hremaining, TtlStore.decided] at h
      · have hmerged : c' = { c with pending := c.pending ∪ t.buffer.stamps.after c.baseline } := by
          simpa [merge, hremaining, TtlStore.decided] using h.symm
        subst hmerged
        refine ⟨c, rfl, rfl, fun k => ?_⟩
        rw [Std.ExtTreeSet.mem_union_iff, ChangeBuffer.mem_after]

/-! ## Polls -/

variable {α : Type}

/-- The keys that a poll may serve: what is pending, or everything the filter accepts for a consumer
that is not known. -/
def candidates (t : ChangeTracker) (s : EntityStore α) (now : Instant) (consumer : String)
    (request : ReadRequest) : KeySet :=
  match t.consumers.lookup now consumer with
  | some c => c.pending
  | none => s.keys now request.filter.acceptsKey

/-- The baseline of a consumer after a poll. -/
def baselineFor (t : ChangeTracker) (now : Instant) (consumer : String) : Nat :=
  match t.consumers.lookup now consumer with
  | some c => c.baseline
  | none => t.buffer.sequence

/-- What one poll does: its result, the tracker and the store that it leaves. -/
structure Answered (t : ChangeTracker) (s : EntityStore α) (now : Instant) (consumer : String)
    (request : ReadRequest) (r : ReadResult α) (t' : ChangeTracker) (s' : EntityStore α) :
    Prop where
  /-- Only candidates are consumed, and only those that the filter accepts. -/
  consumed : ∀ k ∈ r.consumed,
    k ∈ t.candidates s now consumer request ∧ request.filter.acceptsKey k = true
  /-- What is served are the entities of the consumed keys, as far as the filter wants them. -/
  served : ∀ k e, (k, e) ∈ r.served ↔
    k ∈ r.consumed ∧ s.get? now k = some e ∧ s.profile.selects request.filter e = true
  /-- The candidates that are not consumed stay pending. -/
  remembered : ∃ pending,
    t' = t.remember now consumer pending (t.baselineFor now consumer) ∧
      ∀ k, k ∈ pending ↔ k ∈ t.candidates s now consumer request ∧ k ∉ r.consumed
  store : s' = s ∨ s' = s.touchAll now r.consumed

/-- Cutting off a page splits the keys that the filter accepts. -/
theorem mem_page {ks page rest : KeySet} {accepts : RecordKey → Bool} {limit : Option Nat}
    (hpage : page = .ofList (Paging.page limit (ks.toList.filter accepts)).1 compare)
    (hrest : rest = (ks.filter fun k => !accepts k).insertMany
      (Paging.page limit (ks.toList.filter accepts)).2) (k : RecordKey) :
    (k ∈ page → k ∈ ks ∧ accepts k = true) ∧ (k ∈ rest ↔ k ∈ ks ∧ k ∉ page) := by
  have happend := Paging.page_append limit (ks.toList.filter accepts)
  generalize Paging.page limit (ks.toList.filter accepts) = cut at hpage hrest happend
  have hnodup : (cut.1 ++ cut.2).Nodup := by
    rw [happend]
    exact (TtlStore.nodup_toList ks).filter _
  have haccepted : k ∈ cut.1 ∨ k ∈ cut.2 ↔ k ∈ ks ∧ accepts k = true := by
    rw [← List.mem_append, happend, List.mem_filter, Std.ExtTreeSet.mem_toList]
  have hmempage : k ∈ page ↔ k ∈ cut.1 := by
    rw [hpage, Std.ExtTreeSet.mem_ofList, List.contains_iff_mem]
  have hmemrest : k ∈ rest ↔ (k ∈ ks ∧ accepts k = false) ∨ k ∈ cut.2 := by
    rw [hrest, KeySet.mem_insertMany, KeySet.mem_filter, Bool.not_eq_true']
  refine ⟨fun hk => haccepted.1 (Or.inl (hmempage.1 hk)), ?_⟩
  rw [hmempage, hmemrest]
  constructor
  · intro h
    rcases h with ⟨hks, hrejected⟩ | hlater
    · refine ⟨hks, fun hfirst => ?_⟩
      have htrue := (haccepted.1 (Or.inl hfirst)).2
      rw [hrejected] at htrue
      exact Bool.false_ne_true htrue
    · exact ⟨(haccepted.1 (Or.inr hlater)).1,
        fun hfirst => (List.nodup_append.1 hnodup).2.2 k hfirst k hlater rfl⟩
  · intro h
    obtain ⟨hks, hnot⟩ := h
    by_cases hk : accepts k = true
    · exact Or.inr ((haccepted.2 ⟨hks, hk⟩).resolve_left hnot)
    · exact Or.inl ⟨hks, Bool.eq_false_iff.2 hk⟩

/-- A consumer that is remembered has the change set it was remembered with, unless there is no
tracking period at all. -/
theorem lookup_remember (t : ChangeTracker) (now : Instant) (poller consumer : String)
    (pending : KeySet) (baseline : Nat) :
    (t.remember now poller pending baseline).consumers.lookup now consumer =
      if poller = consumer then (if t.period = 0 then none else some ⟨pending, now, baseline⟩)
      else t.consumers.lookup now consumer := by
  show ((t.consumers.put now poller ⟨pending, now, baseline⟩ t.period).live? now consumer).map _ = _
  rw [TtlStore.live?_put]
  split
  · split <;> rfl
  · rfl

/-- Serving a page keeps all other candidates pending. -/
theorem serve_answered {t : ChangeTracker} {s : EntityStore α} {now : Instant} {consumer : String}
    {request : ReadRequest} {ks : KeySet} {baseline : Nat} (known : Bool)
    (hks : t.candidates s now consumer request = ks)
    (hbaseline : t.baselineFor now consumer = baseline) :
    Answered t s now consumer request (t.serve s now consumer request ks known baseline).1
      (t.serve s now consumer request ks known baseline).2.1
      (t.serve s now consumer request ks known baseline).2.2 := by
  constructor
  · intro k hk
    rw [hks]
    exact (mem_page rfl rfl k).1 hk
  · intro k e
    show (k, e) ∈ List.filter _ (s.getMany now _) ↔ _
    rw [List.mem_filter, EntityStore.mem_getMany, and_assoc]
    rfl
  · rw [hks, hbaseline]
    exact ⟨_, rfl, fun k => (mem_page rfl rfl k).2⟩
  · exact Or.inr rfl

/-- Every poll serves one page of its candidates, whether its consumer is known or not. An unpaged
poll of a consumer that is not known is answered by a query and seeds nothing, a paged one by seeding
all keys first; that comes to the same, because an unlimited page leaves nothing of a list. -/
theorem read_eq_serve (t : ChangeTracker) (s : EntityStore α) (now : Instant) (consumer : String)
    (request : ReadRequest) :
    t.read s now consumer request =
      t.serve s now consumer request (t.candidates s now consumer request)
        (t.consumers.lookup now consumer).isSome (t.baselineFor now consumer) := by
  unfold read candidates baselineFor
  cases t.consumers.lookup now consumer with
  | some c => rfl
  | none =>
    obtain ⟨filter, maxSize⟩ := request
    cases maxSize with
    | some size => rfl
    | none =>
      have haccepted (k : RecordKey) (hk : k ∈ s.keys now filter.acceptsKey) :
          filter.acceptsKey k = true := (EntityStore.mem_keys.1 hk).2
      have hall : (s.keys now filter.acceptsKey).toList.filter filter.acceptsKey =
          (s.keys now filter.acceptsKey).toList :=
        List.filter_eq_self.2 fun k hk => haccepted k (Std.ExtTreeSet.mem_toList.1 hk)
      have hconsumed : Std.ExtTreeSet.ofList (s.keys now filter.acceptsKey).toList compare =
          s.keys now filter.acceptsKey := by
        refine Std.ExtTreeSet.ext_mem fun k => ?_
        rw [Std.ExtTreeSet.mem_ofList, List.contains_iff_mem, Std.ExtTreeSet.mem_toList]
      have hnone : (s.keys now filter.acceptsKey).filter (fun k => !filter.acceptsKey k) = ∅ := by
        refine Std.ExtTreeSet.ext_mem fun k => ?_
        rw [KeySet.mem_filter]
        constructor
        · intro hk
          rw [haccepted k hk.1] at hk
          exact nomatch hk.2
        · intro hk
          exact absurd hk Std.ExtTreeSet.not_mem_empty
      simp only [serve, Paging.page, hall, hconsumed, hnone, Std.ExtTreeSet.insertMany_nil,
        EntityStore.touchAll_keys]
      rfl

/-- Every poll is answered this way, also the first one of a consumer. -/
theorem read_answered (t : ChangeTracker) (s : EntityStore α) (now : Instant) (consumer : String)
    (request : ReadRequest) :
    Answered t s now consumer request (t.read s now consumer request).1
      (t.read s now consumer request).2.1 (t.read s now consumer request).2.2 := by
  rw [read_eq_serve]
  exact serve_answered _ rfl rfl

/-! ## Steps -/

/-- What an operation on a feed can do to its tracker. -/
inductive Step (t : ChangeTracker) (now : Instant) : ChangeTracker → Prop
  | kept : Step t now t
  | recorded (ks : KeySet) : Step t now (t.recordChange ks)
  | committed : Step t now (t.commit now).2
  | polled (poller : String) (pending : KeySet) (baseline : Nat) :
    Step t now (t.remember now poller pending baseline)
  | looked (asked : String) : Step t now (t.touch now asked)
  | swept : Step t now (t.sweep now)

theorem Step.period_eq {t t' : ChangeTracker} {now : Instant} (h : Step t now t') :
    t'.period = t.period := by
  cases h with
  | committed => exact t.period_commit now
  | _ => rfl

theorem Step.stamped {t t' : ChangeTracker} {now : Instant} (h : Step t now t')
    (hstamped : t.buffer.Stamped) : t'.buffer.Stamped := by
  cases h with
  | recorded ks => exact hstamped.record ks
  | committed =>
    rw [buffer_commit]
    exact ChangeBuffer.stamped_of_empty _
  | _ => exact hstamped

end ChangeTracker

end TransitHub
