/-
# What is read under a key

Every read of a store can be told from `get?`, the live entity of one key: the keys that a read
lists are those with a live entity that pass its test, and the entities are the ones of these keys.
What leaves all live slots of the records alone cannot be noticed by reading.
-/

import TransitHub.Proofs.Store.Liveness
import TransitHub.Store.EntityStore

namespace TransitHub.EntityStore

variable {α : Type}

/-- What is read under a key depends on its live slot only. -/
theorem get?_congr {s s' : EntityStore α} {now : Instant} {k : RecordKey}
    (h : s'.records.live? now k = s.records.live? now k) : s'.get? now k = s.get? now k := by
  rw [get?, get?, TtlStore.lookup_congr h]

/-- What is read later without any change is what is read now. -/
theorem get?_of_later {s : EntityStore α} {now later : Instant} (hle : now ≤ later)
    {k : RecordKey} {e : α} (he : s.get? later k = some e) : s.get? now k = some e := by
  obtain ⟨envelope, hlater, rfl⟩ := Option.map_eq_some_iff.1 he
  exact Option.map_eq_some_iff.2 ⟨envelope, TtlStore.lookup_of_later hle hlater, rfl⟩

theorem get?_touchAll (s : EntityStore α) (now : Instant) (ks : KeySet) (k : RecordKey) :
    (s.touchAll now ks).get? now k = s.get? now k :=
  get?_congr (s.records.live?_touchAll now ks k)

theorem get?_sweep (s : EntityStore α) (now : Instant) (k : RecordKey) :
    (s.sweep now).get? now k = s.get? now k :=
  get?_congr (s.records.live?_sweep now k)

@[simp]
theorem get?_remove (s : EntityStore α) (now : Instant) (key : RecordKey) :
    (s.remove key).get? now key = none := by
  show ((s.records.erase key).lookup now key).map Envelope.value = none
  simp [TtlStore.lookup]

theorem mem_keys {s : EntityStore α} {now : Instant} {p : RecordKey → Bool} {k : RecordKey} :
    k ∈ s.keys now p ↔ (∃ e, s.get? now k = some e) ∧ p k = true := by
  rw [keys, TtlStore.mem_keys]
  simp only [get?, Option.map_eq_some_iff]
  constructor
  · intro h
    obtain ⟨⟨envelope, henvelope⟩, hp⟩ := h
    exact ⟨⟨envelope.value, envelope, henvelope, rfl⟩, hp⟩
  · intro h
    obtain ⟨⟨_, envelope, henvelope, _⟩, hp⟩ := h
    exact ⟨⟨envelope, henvelope⟩, hp⟩

theorem mem_getMany {s : EntityStore α} {now : Instant} {ks : KeySet} {k : RecordKey} {e : α} :
    (k, e) ∈ s.getMany now ks ↔ k ∈ ks ∧ s.get? now k = some e := by
  simp only [getMany, get?, List.mem_map, Option.map_eq_some_iff]
  constructor
  · intro h
    obtain ⟨⟨k', envelope⟩, hvalue, heq⟩ := h
    obtain ⟨rfl, rfl⟩ := Prod.mk.inj heq
    obtain ⟨hk, hlookup⟩ := TtlStore.mem_values.1 hvalue
    exact ⟨hk, envelope, hlookup, rfl⟩
  · intro h
    obtain ⟨hk, envelope, hlookup, rfl⟩ := h
    exact ⟨(k, envelope), TtlStore.mem_values.2 ⟨hk, hlookup⟩, rfl⟩

/-- Reading keys that are listed as live leaves the store as it is. -/
theorem touchAll_keys (s : EntityStore α) (now : Instant) (p : RecordKey → Bool) :
    s.touchAll now (s.keys now p) = s := by
  have hlive : s.records.touchAll now (s.keys now p) = s.records := by
    refine TtlStore.touchAll_of_live fun k hk => ?_
    obtain ⟨⟨v, hv⟩, -⟩ := TtlStore.mem_keys.1 hk
    obtain ⟨slot, hslot, -⟩ := TtlStore.lookup_eq_some_iff.1 hv
    exact ⟨slot, hslot⟩
  rw [touchAll, hlive]

/-- The entities of some keys, one after another. -/
theorem getMany_eq (s : EntityStore α) (now : Instant) (ks : KeySet) :
    s.getMany now ks = ks.toList.filterMap fun k => (s.get? now k).map fun e => (k, e) := by
  simp only [getMany, TtlStore.values, get?, List.map_filterMap, Option.map_map]
  rfl

theorem mem_entries {s : EntityStore α} {now : Instant} {f : EntityFilter} {k : RecordKey}
    {e : α} :
    (k, e) ∈ s.entries now f ↔
      s.get? now k = some e ∧ f.acceptsKey k = true ∧ s.profile.selects f e = true := by
  rw [entries, List.mem_filter, mem_getMany, mem_keys]
  constructor
  · intro h
    obtain ⟨⟨⟨_, haccepts⟩, he⟩, hselects⟩ := h
    exact ⟨he, haccepts, hselects⟩
  · intro h
    obtain ⟨he, haccepts, hselects⟩ := h
    exact ⟨⟨⟨⟨e, he⟩, haccepts⟩, he⟩, hselects⟩

/-- The keys that pass a test are found among all keys. -/
theorem keys_eq_filter (s : EntityStore α) (now : Instant) (p : RecordKey → Bool) :
    s.keys now p = (s.keys now fun _ => true).filter p := by
  apply Std.ExtTreeSet.ext_mem
  intro k
  have hfilter : k ∈ (s.keys now fun _ => true).filter p ↔
      k ∈ (s.keys now fun _ => true) ∧ p k = true := by simp
  rw [hfilter, mem_keys, mem_keys]
  simp only [and_true]

theorem size_eq (s : EntityStore α) (now : Instant) :
    s.size now = (s.keys now fun _ => true).size := by
  rw [← Std.ExtTreeSet.length_toList]
  apply TtlStore.size_eq_length (TtlStore.nodup_toList _)
  intro k
  rw [Std.ExtTreeSet.mem_toList, keys, TtlStore.mem_keys, ← Option.isSome_iff_exists,
    TtlStore.lookup, Option.isSome_map]
  simp only [and_true]

theorem values_getMany (s : EntityStore α) (now : Instant) (ks : KeySet) :
    (s.getMany now ks).map (·.2) = ks.toList.filterMap (s.get? now) := by
  rw [getMany_eq, List.map_filterMap]
  simp only [Option.map_map]
  congr 1
  funext k
  exact Option.map_id' ..

theorem getAll_eq (s : EntityStore α) (now : Instant) (dataset : Option String) :
    s.getAll now dataset =
      (s.keys now fun k => dataset.all k.belongsTo).toList.filterMap (s.get? now) :=
  s.values_getMany now _

theorem query_eq (s : EntityStore α) (now : Instant) (f : EntityFilter) :
    s.query now f =
      ((s.keys now f.acceptsKey).toList.filterMap (s.get? now)).filter (s.profile.selects f) := by
  rw [query, entries, ← values_getMany, List.filter_map]
  rfl

/-! ## Clearing a dataset -/

theorem live?_records_foldl_remove (s : EntityStore α) (now : Instant) (ks : List RecordKey)
    (k : RecordKey) :
    (ks.foldl remove s).records.live? now k =
      if k ∈ ks then none else s.records.live? now k := by
  induction ks generalizing s with
  | nil => rfl
  | cons key rest ih =>
    rw [List.foldl_cons, ih]
    have hremove : (s.remove key).records.live? now k =
        if key = k then none else s.records.live? now k := TtlStore.live?_erase s.records now key k
    rw [hremove]
    by_cases hkey : k = key
    · simp [hkey]
    · simp [hkey, Ne.symm hkey]

/-- Clearing a dataset takes the records of the dataset away and no others. -/
theorem live?_records_clearDataset (s : EntityStore α) (now : Instant) (dataset : String)
    (k : RecordKey) :
    (s.clearDataset now dataset).2.records.live? now k =
      if k.belongsTo dataset then none else s.records.live? now k := by
  have hlisted : k ∈ (s.keys now fun k => k.belongsTo dataset).toList ↔
      (∃ e, s.get? now k = some e) ∧ k.belongsTo dataset = true :=
    Std.ExtTreeSet.mem_toList.trans mem_keys
  show (List.foldl remove s _).records.live? now k = _
  rw [live?_records_foldl_remove]
  cases hlive : s.records.live? now k with
  | none => split <;> split <;> rfl
  | some slot =>
    have hpresent : ∃ e, s.get? now k = some e :=
      ⟨slot.value.value, by rw [get?, TtlStore.lookup, hlive]; rfl⟩
    by_cases hk : k.belongsTo dataset = true
    · rw [if_pos (hlisted.2 ⟨hpresent, hk⟩), if_pos hk]
    · rw [if_neg fun hmem => hk (hlisted.1 hmem).2, if_neg hk]

@[simp]
theorem profile_clearDataset (s : EntityStore α) (now : Instant) (dataset : String) :
    (s.clearDataset now dataset).2.profile = s.profile :=
  List.foldlRecOn (motive := fun t : EntityStore α => t.profile = s.profile) _ _ rfl
    fun _ ht _ _ => ht

@[simp]
theorem policy_clearDataset (s : EntityStore α) (now : Instant) (dataset : String) :
    (s.clearDataset now dataset).2.policy = s.policy :=
  List.foldlRecOn (motive := fun t : EntityStore α => t.policy = s.policy) _ _ rfl
    fun _ ht _ _ => ht

/-- What is left after clearing a dataset was there before. -/
theorem get?_of_clearDataset {s : EntityStore α} {now : Instant} {dataset : String}
    {k : RecordKey} {e : α} (he : (s.clearDataset now dataset).2.get? now k = some e) :
    s.get? now k = some e := by
  have hlive := live?_records_clearDataset s now dataset k
  by_cases hk : k.belongsTo dataset = true
  · rw [if_pos hk] at hlive
    rw [get?, TtlStore.lookup, hlive] at he
    exact absurd he (Option.some_ne_none e).symm
  · rw [if_neg hk] at hlive
    rw [← get?_congr hlive]
    exact he

end TransitHub.EntityStore
