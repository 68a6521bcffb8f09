/-
# Two stores that agree on some datasets

Records of all datasets lie in one map, and so do their fingerprints. Two stores are alike on some
datasets if they hold the same live records and fingerprints there and treat items alike. What they
hold elsewhere, and what either still keeps after its deadline, is left open.

Whatever is read under keys of these datasets is the same in both stores. Ingesting a batch into one
of them, or clearing one, has the same result in both and leaves them alike. What is done to another
dataset in one store only is not noticed: an item is stored under a key of the dataset it was
ingested for, and nothing else is touched.
-/

import Mathlib.Data.List.Basic
import TransitHub.Entity.Kinds
import TransitHub.Proofs.Store.Upsert

namespace TransitHub

/-- Whether items that are ingested for a dataset are stored in datasets of a sort. -/
def Profile.StoresIn {α : Type} (p : Profile α) (dataset : String) (D : String → Prop) : Prop :=
  ∀ item key, p.key? dataset item = some key → D key.dataset

/-- An item is stored in the dataset that it is ingested for. -/
theorem DataKind.dataset_of_key? {k : DataKind} {dataset : String} {e : k.Entity} {key : RecordKey}
    (h : k.profile.key? dataset e = some key) : key.dataset = dataset := by
  have hmap {α : Type} {o : Option α} {f : α → RecordKey} (hf : ∀ a, (f a).dataset = dataset)
      (hmap : o.map f = some key) : key.dataset = dataset := by
    obtain ⟨a, -, rfl⟩ := Option.map_eq_some_iff.1 hmap
    exact hf a
  cases k with
  | situationExchange => exact hmap (fun _ => rfl) h
  | vehicleMonitoring => exact hmap (fun _ => rfl) h
  | estimatedTimetable =>
    obtain ⟨line, -, hline⟩ := Option.bind_eq_some_iff.1 h
    obtain ⟨primary, -, hkey⟩ := Option.bind_eq_some_iff.1 hline
    rw [← Option.some.inj hkey]
  | stopMonitoring =>
    obtain ⟨point, -, hpoint⟩ := Option.bind_eq_some_iff.1 h
    obtain ⟨primary, -, hkey⟩ := Option.bind_eq_some_iff.1 hpoint
    rw [← Option.some.inj hkey]
  | generalMessage => exact hmap (fun _ => rfl) h
  | facilityMonitoring => exact hmap (fun _ => rfl) h

/-- So it is stored in a dataset of the same sort. -/
theorem DataKind.storesIn (k : DataKind) (D : String → Prop) {dataset : String} (h : D dataset) :
    k.profile.StoresIn dataset D := by
  intro item key hkey
  rw [dataset_of_key? hkey]
  exact h

/-- Two sets of keys that agree on what passes a test, and have nothing else, are the same. -/
theorem KeySet.eq_of_mem_iff {ks ks' : KeySet} (h : ∀ k, k ∈ ks ↔ k ∈ ks') : ks = ks' :=
  Std.ExtTreeSet.ext_mem fun {k} => h k

namespace EntityStore

variable {α : Type} {D : String → Prop} {now : Instant} {c : Clock} {s t u : EntityStore α}
  {dataset : String} {key : RecordKey}

/-- Whether two stores hold the same in some datasets and treat items alike. -/
structure AlikeOn (D : String → Prop) (now : Instant) (s t : EntityStore α) : Prop where
  profile : s.profile = t.profile
  expiration : s.expiration = t.expiration
  records : ∀ k, D k.dataset → s.records.live? now k = t.records.live? now k
  checksums : ∀ k, D k.dataset → s.checksums.live? now k = t.checksums.live? now k

namespace AlikeOn

theorem refl (s : EntityStore α) : s.AlikeOn D now s :=
  ⟨rfl, rfl, fun _ _ => rfl, fun _ _ => rfl⟩

theorem symm (h : s.AlikeOn D now t) : t.AlikeOn D now s where
  profile := h.profile.symm
  expiration := h.expiration.symm
  records k hk := (h.records k hk).symm
  checksums k hk := (h.checksums k hk).symm

theorem trans (h : s.AlikeOn D now t) (h' : t.AlikeOn D now u) : s.AlikeOn D now u where
  profile := h.profile.trans h'.profile
  expiration := h.expiration.trans h'.expiration
  records k hk := (h.records k hk).trans (h'.records k hk)
  checksums k hk := (h.checksums k hk).trans (h'.checksums k hk)

theorem later (h : s.AlikeOn D now t) {later : Instant} (hle : now ≤ later) :
    s.AlikeOn D later t where
  profile := h.profile
  expiration := h.expiration
  records k hk := by
    rw [s.records.live?_later hle, t.records.live?_later hle, h.records k hk]
  checksums k hk := by
    rw [s.checksums.live?_later hle, t.checksums.live?_later hle, h.checksums k hk]

end AlikeOn

/-! ## What is not noticed -/

theorem alikeOn_touchAll (s : EntityStore α) (ks : KeySet) :
    s.AlikeOn D now (s.touchAll now ks) where
  profile := rfl
  expiration := rfl
  records k _ := (s.records.live?_touchAll now ks k).symm
  checksums _ _ := rfl

theorem alikeOn_sweep (s : EntityStore α) : s.AlikeOn D now (s.sweep now) where
  profile := rfl
  expiration := rfl
  records k _ := (s.records.live?_sweep now k).symm
  checksums k _ := (s.checksums.live?_sweep now k).symm

/-- A batch for another dataset. -/
theorem alikeOn_upsertAll (hother : s.profile.StoresIn dataset fun d => ¬ D d) (items : List α) :
    s.AlikeOn D c.now (s.upsertAll c dataset items).2 := by
  apply upsertAll_induction (motive := fun _ t => s.AlikeOn D c.now t) s c dataset items (.refl s)
  intro r t item h
  cases hkey : t.profile.key? dataset item with
  | none =>
    rw [upsertNext_of_ignored hkey]
    exact h
  | some key =>
    have hstored := upsertOne_upserted t c key item
    have hne {k : RecordKey} (hk : D k.dataset) : key ≠ k := by
      rintro rfl
      rw [← h.profile] at hkey
      exact hother item key hkey hk
    rw [store_upsertNext hkey]
    exact {
      profile := h.profile.trans hstored.profile_eq.symm
      expiration := h.expiration.trans hstored.expiration_eq.symm
      records := fun k hk =>
        (h.records k hk).trans (hstored.live?_records_of_ne (hne hk)).symm
      checksums := fun k hk =>
        (h.checksums k hk).trans (hstored.live?_checksums_of_ne (hne hk)).symm }

/-- Clearing another dataset. -/
theorem alikeOn_clearDataset (s : EntityStore α) (hother : ¬ D dataset) :
    s.AlikeOn D now (s.clearDataset now dataset).2 := by
  have hlisted (key : RecordKey) (hkey : key ∈ (s.keys now fun k => k.belongsTo dataset).toList) :
      ¬ D key.dataset := by
    rw [Std.ExtTreeSet.mem_toList, mem_keys] at hkey
    rw [of_decide_eq_true hkey.2]
    exact hother
  apply List.foldlRecOn (motive := fun t => s.AlikeOn D now t) _ _ (.refl s)
  intro t h key hkey
  have hne {k : RecordKey} (hk : D k.dataset) : key ≠ k := by
    rintro rfl
    exact hlisted key hkey hk
  refine h.trans ⟨rfl, rfl, fun k hk => ?_, fun k hk => ?_⟩
  · show t.records.live? now k = (t.records.erase key).live? now k
    rw [TtlStore.live?_erase, if_neg (hne hk)]
  · show t.checksums.live? now k = (t.checksums.erase key).live? now k
    rw [TtlStore.live?_erase, if_neg (hne hk)]

@[simp]
theorem profile_upsertNext (s : EntityStore α) (c : Clock) (dataset : String) (r : UpsertResult α)
    (item : α) : (upsertNext c dataset (r, s) item).2.profile = s.profile := by
  cases hkey : s.profile.key? dataset item with
  | none => rw [upsertNext_of_ignored hkey]
  | some key =>
    rw [store_upsertNext hkey]
    exact (upsertOne_upserted s c key item).profile_eq

/-- A batch reports keys of the datasets that it is stored in. -/
theorem storesIn_changedKeys (hstores : s.profile.StoresIn dataset D) {items : List α}
    (hkey : key ∈ (s.upsertAll c dataset items).1.changedKeys) : D key.dataset := by
  have hbatch := upsertAll_induction
    (motive := fun r t => t.profile = s.profile ∧ ∀ k ∈ r.changedKeys, D k.dataset)
    s c dataset items ⟨rfl, fun k hnil => nomatch mem_changedKeys.1 hnil⟩ ?_
  · exact hbatch.2 key hkey
  intro r t item h
  obtain ⟨hprofile, hreported⟩ := h
  refine ⟨(t.profile_upsertNext c dataset r item).trans hprofile, fun k hk => ?_⟩
  cases hitem : t.profile.key? dataset item with
  | none =>
    rw [upsertNext_of_ignored hitem] at hk
    exact hreported k hk
  | some new =>
    rw [mem_changedKeys_upsertNext hitem] at hk
    rcases hk with ⟨-, rfl⟩ | hbefore
    · rw [hprofile] at hitem
      exact hstores item new hitem
    · exact hreported k hbefore

/-! ## The same item on both sides -/

namespace AlikeOn

theorem asked (h : s.AlikeOn D now t) (item : α) :
    (s.asked now key item).AlikeOn D now (t.asked now key item) where
  profile := by simp [h.profile]
  expiration := by simp [h.expiration]
  records k hk := by simp [h.records k hk]
  checksums k hk := by simp [h.checksums k hk]

theorem putRecord (h : s.AlikeOn D c.now t) (item : α) (print : Option Fingerprint)
    (ttl : Duration) :
    (s.putRecord c key item print ttl).AlikeOn D c.now (t.putRecord c key item print ttl) where
  profile := by simp [h.profile]
  expiration := by simp [h.expiration]
  records k hk := by simp [h.records k hk]
  checksums k hk := by simp [h.checksums k hk]

theorem remove (h : s.AlikeOn D now t) (key : RecordKey) :
    (s.remove key).AlikeOn D now (t.remove key) where
  profile := h.profile
  expiration := h.expiration
  records k hk := by
    show (s.records.erase key).live? now k = (t.records.erase key).live? now k
    rw [TtlStore.live?_erase, TtlStore.live?_erase, h.records k hk]
  checksums k hk := by
    show (s.checksums.erase key).live? now k = (t.checksums.erase key).live? now k
    rw [TtlStore.live?_erase, TtlStore.live?_erase, h.checksums k hk]

/-- An item goes the same way in both stores. -/
theorem upsertOne (h : s.AlikeOn D c.now t) (hkey : D key.dataset) (item : α) :
    (s.upsertOne c key item).1 = (t.upsertOne c key item).1 ∧
      (s.upsertOne c key item).2.AlikeOn D c.now (t.upsertOne c key item).2 := by
  have hlookup : s.records.lookup c.now key = t.records.lookup c.now key :=
    TtlStore.lookup_congr (h.records key hkey)
  have hprint : s.print? item = t.print? item := by rw [print?, print?, h.profile]
  have hexpiration : s.expiration c item = t.expiration c item := by rw [h.expiration]
  cases hrecord : t.records.lookup c.now key with
  | none =>
    rw [upsertOne_of_absent item (hlookup.trans hrecord), upsertOne_of_absent item hrecord,
      hexpiration]
    cases t.expiration c item with
    | expired => exact ⟨rfl, h⟩
    | after ttl =>
      rw [hprint]
      exact ⟨rfl, h.putRecord item _ ttl⟩
  | some stored =>
    have hrepeats : s.repeats c.now key item = t.repeats c.now key item := by
      rw [repeats, repeats, hprint, TtlStore.lookup_congr (h.checksums key hkey)]
    have houtdated : s.outdatedBy c.now key item stored.value =
        t.outdatedBy c.now key item stored.value := by
      rw [outdatedBy, outdatedBy, hrepeats, h.profile]
    rw [upsertOne_of_present item (hlookup.trans hrecord), upsertOne_of_present item hrecord,
      houtdated, hexpiration, hrepeats, hprint]
    cases t.outdatedBy c.now key item stored.value with
    | true => exact ⟨rfl, h.asked item⟩
    | false =>
      cases t.expiration c item with
      | expired => exact ⟨rfl, (h.asked item).remove key⟩
      | after ttl => exact ⟨rfl, (h.asked item).putRecord item _ ttl⟩

theorem upsertNext (h : s.AlikeOn D c.now t) (hstores : s.profile.StoresIn dataset D)
    (r : UpsertResult α) (item : α) :
    (EntityStore.upsertNext c dataset (r, s) item).1 =
        (EntityStore.upsertNext c dataset (r, t) item).1 ∧
      (EntityStore.upsertNext c dataset (r, s) item).2.AlikeOn D c.now
        (EntityStore.upsertNext c dataset (r, t) item).2 := by
  cases hkey : t.profile.key? dataset item with
  | none =>
    have hkey' : s.profile.key? dataset item = none := by rw [h.profile, hkey]
    rw [upsertNext_of_ignored hkey, upsertNext_of_ignored hkey']
    exact ⟨rfl, h⟩
  | some key =>
    have hkey' : s.profile.key? dataset item = some key := by rw [h.profile, hkey]
    obtain ⟨houtcome, hafter⟩ := h.upsertOne (hstores item key hkey') item
    rw [store_upsertNext hkey, store_upsertNext hkey']
    refine ⟨?_, hafter⟩
    simp only [EntityStore.upsertNext, hkey, houtcome, h.profile]

/-- A batch has the same result in both stores. -/
theorem upsertAll (h : s.AlikeOn D c.now t) (hstores : s.profile.StoresIn dataset D)
    (items : List α) :
    (s.upsertAll c dataset items).1 = (t.upsertAll c dataset items).1 ∧
      (s.upsertAll c dataset items).2.AlikeOn D c.now (t.upsertAll c dataset items).2 := by
  unfold EntityStore.upsertAll
  generalize (⟨{ total := items.length }, [], []⟩ : UpsertResult α) = r
  induction items generalizing r s t with
  | nil => exact ⟨rfl, h⟩
  | cons item rest ih =>
    have hprofile := s.profile_upsertNext c dataset r item
    obtain ⟨hresult, hafter⟩ := h.upsertNext hstores r item
    rw [List.foldl_cons, List.foldl_cons]
    generalize EntityStore.upsertNext c dataset (r, s) item = next at *
    generalize EntityStore.upsertNext c dataset (r, t) item = next' at *
    obtain ⟨r', s'⟩ := next
    obtain ⟨_, t'⟩ := next'
    obtain rfl : r' = _ := hresult
    have hstores' : s'.profile.StoresIn dataset D := by
      rwa [hprofile]
    exact ih hafter hstores' r'

theorem foldl_remove (h : s.AlikeOn D now t) (ks : List RecordKey) :
    (ks.foldl EntityStore.remove s).AlikeOn D now (ks.foldl EntityStore.remove t) := by
  induction ks generalizing s t with
  | nil => exact h
  | cons key rest ih => exact ih (h.remove key)

end AlikeOn

/-! ## Reading -/

namespace AlikeOn

variable (h : s.AlikeOn D now t)

include h

theorem get?_eq {k : RecordKey} (hk : D k.dataset) : s.get? now k = t.get? now k :=
  get?_congr (h.records k hk)

/-- The keys that pass a test which only keys of these datasets pass. -/
theorem keys_eq {p : RecordKey → Bool} (hp : ∀ k, p k = true → D k.dataset) :
    s.keys now p = t.keys now p := by
  apply KeySet.eq_of_mem_iff
  intro k
  rw [mem_keys, mem_keys]
  apply and_congr_left
  intro hk
  rw [h.get?_eq (hp k hk)]

theorem getMany_eq {ks : KeySet} (hks : ∀ k ∈ ks, D k.dataset) :
    s.getMany now ks = t.getMany now ks := by
  rw [EntityStore.getMany_eq, EntityStore.getMany_eq]
  apply List.filterMap_congr
  intro k hk
  rw [h.get?_eq (hks k (Std.ExtTreeSet.mem_toList.1 hk))]

/-- Clearing one of these datasets drops as many records in both stores. -/
theorem clearDataset (hdataset : D dataset) :
    (s.clearDataset now dataset).1 = (t.clearDataset now dataset).1 ∧
      (s.clearDataset now dataset).2.AlikeOn D now (t.clearDataset now dataset).2 := by
  have hkeys : (s.keys now fun k => k.belongsTo dataset) =
      t.keys now fun k => k.belongsTo dataset := by
    apply h.keys_eq
    intro k hk
    rw [of_decide_eq_true hk]
    exact hdataset
  unfold EntityStore.clearDataset
  rw [hkeys]
  exact ⟨rfl, h.foldl_remove _⟩

theorem getAll_eq {dataset : Option String} (hdataset : ∀ d, dataset.all (d = ·) = true → D d) :
    s.getAll now dataset = t.getAll now dataset := by
  have hp (k : RecordKey) (hk : dataset.all k.belongsTo = true) : D k.dataset :=
    hdataset k.dataset hk
  rw [getAll, getAll, h.keys_eq hp, h.getMany_eq fun k hk => hp k (mem_keys.1 hk).2]

theorem query_eq {f : EntityFilter} (hf : ∀ d, f.acceptsDataset d = true → D d) :
    s.query now f = t.query now f := by
  have hp (k : RecordKey) (hk : f.acceptsKey k = true) : D k.dataset := hf k.dataset hk
  rw [query, query, entries, entries, h.keys_eq hp,
    h.getMany_eq fun k hk => hp k (mem_keys.1 hk).2, h.profile]

end AlikeOn

end EntityStore

end TransitHub
