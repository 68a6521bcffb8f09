/-
# Keys without a record

A key under which nothing is live stays so until it is renewed, by an item of the key that is not
expired. Nothing else brings a record: not a fingerprint that is still cached, not a change that is
still buffered or pending. And the first item that renews the key is a change, whatever the store
held before.

Clearing a dataset is what makes keys absent. It takes the live records of the dataset away, with
their fingerprints, and touches no slot of any other key.
-/

import TransitHub.Proofs.Feed.Step
import TransitHub.Proofs.Store.Report
import TransitHub.Proofs.Store.Selection

namespace TransitHub

/-- Whether an item renews a key: it has the key in a dataset and is not expired. -/
def Profile.Renews {α : Type} (p : Profile α) (policy : ExpirationPolicy) (wall : Timestamp)
    (dataset : String) (key : RecordKey) (item : α) : Prop :=
  p.key? dataset item = some key ∧ policy.evaluate (p.validityEnd item) wall ≠ .expired

namespace EntityStore

variable {α : Type} {s : EntityStore α} {c : Clock} {dataset : String} {items : List α}
  {key : RecordKey}

/-! ## Batches -/

/-- Nothing becomes of an item for an absent key that it does not renew. -/
theorem upsertOne_of_not_renews {item : α} (habsent : s.get? c.now key = none)
    (hkey : s.profile.key? dataset item = some key)
    (hnot : ¬ s.profile.Renews s.policy c.wall dataset key item) :
    s.upsertOne c key item = (.dropped, s) := by
  have hexpired : s.expiration c item = .expired := by
    by_contra hkept
    exact hnot ⟨hkey, hkept⟩
  rw [upsertOne_of_absent item (Option.map_eq_none_iff.1 habsent), hexpired]

/-- The first item that renews an absent key is a change. -/
theorem upsertOne_of_renews {item : α} (habsent : s.get? c.now key = none)
    (hrenews : s.profile.Renews s.policy c.wall dataset key item) :
    (s.upsertOne c key item).1 = .changed := by
  rw [upsertOne_of_absent item (Option.map_eq_none_iff.1 habsent)]
  cases hexpiration : s.expiration c item with
  | expired => exact absurd hexpiration hrenews.2
  | after ttl => rfl

/-- The verdicts on a batch are those on its first part, and then those on the rest. -/
theorem verdicts_append (s : EntityStore α) (c : Clock) (dataset : String) (items rest : List α) :
    s.verdicts c dataset (items ++ rest) =
      s.verdicts c dataset items ++ (s.upsertAll c dataset items).2.verdicts c dataset rest := by
  induction items generalizing s with
  | nil => rfl
  | cons item more ih =>
    rw [List.cons_append, verdicts, verdicts, store_upsertAll_cons]
    cases s.profile.key? dataset item with
    | none => exact ih s
    | some key => exact congrArg _ (ih _)

/-- Nothing becomes of the items of an absent key in a batch that does not renew it. -/
theorem outcome_of_absent (habsent : s.get? c.now key = none)
    (hspared : ∀ item ∈ items, ¬ s.profile.Renews s.policy c.wall dataset key item) :
    ∀ v ∈ s.verdicts c dataset items, v.key = key → v.outcome = .dropped := by
  induction items generalizing s with
  | nil => exact fun v hv => absurd hv List.not_mem_nil
  | cons item rest ih =>
    have hrest := fun item' hitem' => hspared item' (List.mem_cons_of_mem item hitem')
    rw [verdicts]
    cases hkey : s.profile.key? dataset item with
    | none => exact ih habsent hrest
    | some key' =>
      have hup := upsertOne_upserted s c key' item
      intro v hv hvkey
      by_cases hsame : key' = key
      · subst hsame
        have hdropped := upsertOne_of_not_renews habsent hkey (hspared item List.mem_cons_self)
        dsimp only at hv
        rw [hdropped] at hv
        rcases List.mem_cons.1 hv with rfl | hlater
        · rfl
        · exact ih habsent hrest v hlater hvkey
      · have hstill : (s.upsertOne c key' item).2.get? c.now key = none := by
          rw [hup.get?_eq, if_neg fun hboth => hsame hboth.1]
          exact habsent
        rcases List.mem_cons.1 hv with rfl | hlater
        · exact absurd hvkey hsame
        · refine ih hstill ?_ v hlater hvkey
          rwa [hup.profile_eq, hup.policy_eq]

theorem latest?_of_absent (habsent : s.get? c.now key = none)
    (hspared : ∀ item ∈ items, ¬ s.profile.Renews s.policy c.wall dataset key item)
    {p : Outcome → Bool} (hp : p .dropped = false) : Verdict.latest? p key (s.verdicts c dataset items) = none := by
  refine List.find?_eq_none.2 fun v hv => ?_
  by_cases hkey : v.key = key
  · rw [outcome_of_absent habsent hspared v (List.mem_reverse.1 hv) hkey, hp, Bool.and_false]
    exact Bool.false_ne_true
  · simp [hkey]

/-- A batch that does not renew an absent key leaves it absent. -/
theorem absent_upsertAll (habsent : s.get? c.now key = none)
    (hspared : ∀ item ∈ items, ¬ s.profile.Renews s.policy c.wall dataset key item) :
    (s.upsertAll c dataset items).2.get? c.now key = none := by
  rw [get?_upsertAll, latest?_of_absent habsent hspared rfl]
  exact habsent

/-- The first item of a batch that renews an absent key is a change, and the batch reports the
key. -/
theorem changed_of_renews (habsent : s.get? c.now key = none) {before after : List α} {item : α}
    (hspared : ∀ item ∈ before, ¬ s.profile.Renews s.policy c.wall dataset key item)
    (hrenews : s.profile.Renews s.policy c.wall dataset key item) :
    ((s.upsertAll c dataset before).2.upsertOne c key item).1 = .changed ∧
      key ∈ (s.upsertAll c dataset (before ++ item :: after)).1.changedKeys := by
  have hrenews' : (s.upsertAll c dataset before).2.profile.Renews
      (s.upsertAll c dataset before).2.policy c.wall dataset key item := by
    rwa [profile_upsertAll, policy_upsertAll]
  have hchanged := upsertOne_of_renews (absent_upsertAll habsent hspared) hrenews'
  refine ⟨hchanged, ?_⟩
  have hverdict : ⟨key, item, .changed⟩ ∈ s.verdicts c dataset (before ++ item :: after) := by
    rw [verdicts_append, verdicts, hrenews'.1]
    exact List.mem_append_right _ (hchanged ▸ List.mem_cons_self)
  rw [mem_changedKeys, changed_upsertAll, List.mem_map]
  cases hlatest : Verdict.latest? (· = .changed) key
      (s.verdicts c dataset (before ++ item :: after)) with
  | none => exact absurd (List.find?_eq_none.1 hlatest _ (List.mem_reverse.2 hverdict)) (by simp)
  | some v =>
    have hnil : (([] : List (RecordKey × α)).map (·.1)).Nodup := List.nodup_nil
    refine ⟨(key, v.item), (mem_foldl_noteVerdict hnil _).2 ?_, rfl⟩
    rw [hlatest]

/-! ## Clearing a dataset -/

theorem slot?_foldl_remove (s : EntityStore α) (ks : List RecordKey) {k : RecordKey} (hk : k ∉ ks) :
    (ks.foldl remove s).records.slot? k = s.records.slot? k ∧
      (ks.foldl remove s).checksums.slot? k = s.checksums.slot? k := by
  induction ks generalizing s with
  | nil => exact ⟨rfl, rfl⟩
  | cons key rest ih =>
    obtain ⟨hne, hrest⟩ := not_or.1 (mt List.mem_cons.2 hk)
    obtain ⟨hrecords, hchecksums⟩ := ih (s.remove key) hrest
    refine ⟨hrecords.trans ?_, hchecksums.trans ?_⟩
    · exact (TtlStore.slot?_erase s.records key k).trans (if_neg (Ne.symm hne))
    · exact (TtlStore.slot?_erase s.checksums key k).trans (if_neg (Ne.symm hne))

/-- Clearing a dataset touches no record and no fingerprint of another one. -/
theorem slot?_clearDataset (s : EntityStore α) (now : Instant) {k : RecordKey}
    (hk : k.dataset ≠ dataset) :
    (s.clearDataset now dataset).2.records.slot? k = s.records.slot? k ∧
      (s.clearDataset now dataset).2.checksums.slot? k = s.checksums.slot? k := by
  refine s.slot?_foldl_remove _ fun hmem => hk ?_
  exact of_decide_eq_true (mem_keys.1 (Std.ExtTreeSet.mem_toList.1 hmem)).2

/-- Nothing of a dataset is left when it was cleared. -/
theorem absent_clearDataset (s : EntityStore α) (now : Instant) {k : RecordKey}
    (hk : k.dataset = dataset) : (s.clearDataset now dataset).2.get? now k = none := by
  have hbelongs : k.belongsTo dataset = true := decide_eq_true hk
  rw [get?, TtlStore.lookup, live?_records_clearDataset, if_pos hbelongs]
  rfl

/-- Whether a number is that of the live records whose keys meet a condition. -/
def Counts (s : EntityStore α) (now : Instant) (wanted : RecordKey → Prop) (n : Nat) : Prop :=
  ∃ ks : List RecordKey, ks.Nodup ∧ (∀ k, k ∈ ks ↔ wanted k ∧ ∃ e, s.Stores now k e) ∧ ks.length = n

/-- Clearing a dataset answers how many records it had. -/
theorem counts_clearDataset (s : EntityStore α) (now : Instant) (dataset : String) :
    s.Counts now (fun k => k.dataset = dataset) (s.clearDataset now dataset).1 := by
  refine ⟨(s.keys now fun k => k.belongsTo dataset).toList, TtlStore.nodup_toList _, fun k => ?_,
    Std.ExtTreeSet.length_toList⟩
  rw [Std.ExtTreeSet.mem_toList, mem_keys, and_comm, RecordKey.belongsTo, decide_eq_true_eq]
  simp only [get?_eq_some_iff]

end EntityStore

namespace TimedFeed

variable {α : Type} {s : TimedFeed α} {key : RecordKey}

/-- Whether an operation renews a key. -/
def Renews (s : TimedFeed α) (key : RecordKey) : FeedOp α → Prop
  | .ingest dataset items => ∃ item ∈ items,
    s.feed.store.profile.Renews s.feed.store.policy s.clock.wall dataset key item
  | .ingestJson dataset items => ∃ item ∈ Feed.decodable s.feed.store.profile items,
    s.feed.store.profile.Renews s.feed.store.policy s.clock.wall dataset key item
  | _ => False

/-- What does not renew an absent key leaves it absent. -/
theorem absent_next (habsent : s.get? key = none) {op : FeedOp α} (hnot : ¬ s.Renews key op) :
    (s.next op).get? key = none := by
  cases op with
  | ingest dataset items =>
    exact EntityStore.absent_upsertAll habsent fun item hitem hrenews => hnot ⟨item, hitem, hrenews⟩
  | ingestJson dataset items =>
    exact EntityStore.absent_upsertAll habsent fun item hitem hrenews => hnot ⟨item, hitem, hrenews⟩
  | clearDataset dataset =>
    refine Option.eq_none_iff_forall_ne_some.2 fun e he => ?_
    exact Option.some_ne_none e ((EntityStore.get?_of_clearDataset he).symm.trans habsent)
  | poll poller request => exact (s.get?_poll poller request key).trans habsent
  | sweep => exact (s.feed.store.get?_sweep s.clock.now key).trans habsent
  | pass t =>
    refine Option.eq_none_iff_forall_ne_some.2 fun e he => ?_
    have hbefore := EntityStore.get?_of_later (t.now_le_apply s.clock) he
    exact Option.some_ne_none e (hbefore.symm.trans habsent)
  | _ => exact habsent

@[simp]
theorem policy_next (s : TimedFeed α) (op : FeedOp α) :
    (s.next op).feed.store.policy = s.feed.store.policy := by
  cases op with
  | ingest dataset items => exact s.feed.store.policy_upsertAll s.clock dataset items
  | ingestJson dataset items => exact s.feed.store.policy_upsertAll s.clock dataset _
  | clearDataset dataset => exact s.feed.store.policy_clearDataset s.clock.now dataset
  | poll poller request =>
    rcases s.store_poll poller request with hstore | ⟨ks, hstore⟩
    · rw [hstore]
    · rw [hstore]; rfl
  | _ => rfl

theorem policy_run (s : TimedFeed α) (ops : List (FeedOp α)) :
    (s.run ops).feed.store.policy = s.feed.store.policy :=
  List.foldlRecOn (motive := fun t : TimedFeed α => t.feed.store.policy = s.feed.store.policy)
    ops next rfl fun t ht op _ => (t.policy_next op).trans ht

end TimedFeed

end TransitHub
