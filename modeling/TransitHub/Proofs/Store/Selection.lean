/-
# What a query selects

A query lists the live records that its filter admits, each of them once and in the order of their
keys. Both conditions are spelled out here without the reads that compute them. Whether a record is
live can be told from its slot, and whether a filter admits it from the sets that the filter has: a
set that is absent or empty admits everything, a set of datasets is compared with the dataset of the
key, and any other set with the values that the entity carries.

Listing everything, listing one dataset and counting are queries as well.
-/

import Mathlib.Data.List.Nodup
import Mathlib.Data.String.Basic
import TransitHub.Entity.Kinds
import TransitHub.Proofs.EntityFilter
import TransitHub.Proofs.Store.Reads
import TransitHub.Proofs.Store.Validity
import TransitHub.Proofs.Tracking.Pages

namespace TransitHub

/-! ## The order of keys -/

namespace RecordKey

variable {k k' : RecordKey}

/-- Whether a key comes before another one. The first field in which they differ decides, and it is
less where it is absent. -/
def Before (k k' : RecordKey) : Prop :=
  k.dataset < k'.dataset ∨ k.dataset = k'.dataset ∧
    (k.line < k'.line ∨ k.line = k'.line ∧
      (k.primary < k'.primary ∨ k.primary = k'.primary ∧
        (k.stop < k'.stop ∨ k.stop = k'.stop ∧
          (k.journey < k'.journey ∨ k.journey = k'.journey ∧
            k.discriminator < k'.discriminator))))

theorem compare_string_eq_lt {a b : String} : compare a b = .lt ↔ a < b := compare_lt_iff_lt

/-- An absent field is less than any present one. -/
theorem compare_option_eq_lt {a b : Option String} : compare a b = .lt ↔ a < b := by
  cases a with
  | none =>
    cases b with
    | none => exact iff_of_false (fun h => nomatch h) (fun h => nomatch h)
    | some b => exact iff_of_true rfl Option.none_lt_some
  | some a =>
    cases b with
    | none => exact iff_of_false (fun h => nomatch h) (fun h => nomatch h)
    | some b => exact compare_string_eq_lt.trans Option.some_lt_some.symm

/-- Keys are sorted by their fields. -/
theorem compare_eq_lt : compare k k' = .lt ↔ k.Before k' := by
  have hfields : compare k k' = (compare k.dataset k'.dataset).then
      ((compare k.line k'.line).then ((compare k.primary k'.primary).then
        ((compare k.stop k'.stop).then ((compare k.journey k'.journey).then
          (compare k.discriminator k'.discriminator))))) := rfl
  simp only [hfields, Ordering.then_eq_lt, Std.LawfulEqOrd.compare_eq_iff_eq,
    compare_string_eq_lt, compare_option_eq_lt, Before]

end RecordKey

/-! ## What a filter admits -/

namespace EntityFilter

variable {f : EntityFilter}

/-- Whether the sets of a filter admit a record of a dataset that carries some values. -/
structure Admits (f : EntityFilter) (dataset : String) (carried : Dimension → List String) :
    Prop where
  wanted : ∀ included, f.dimensions[Dimension.datasetId]? = some included → included ≠ ∅ →
    dataset ∈ included
  not_excluded : ∀ excluded, f.dimensions[Dimension.excludedDatasetIds]? = some excluded →
    dataset ∉ excluded
  carries : ∀ d wanted, d ≠ .datasetId → d ≠ .excludedDatasetIds →
    f.dimensions[d]? = some wanted → wanted ≠ ∅ → ∃ v ∈ carried d, v ∈ wanted

theorem values?_eq_some_iff {d : Dimension} {values : StringSet} :
    f.values? d = some values ↔ f.dimensions[d]? = some values ∧ values ≠ ∅ := by
  rw [values?, Option.filter_eq_some_iff, Bool.not_eq_true', Std.ExtTreeSet.isEmpty_eq_false_iff]

theorem isKeyLevel_eq_false_iff {d : Dimension} :
    d.isKeyLevel = false ↔ d ≠ .datasetId ∧ d ≠ .excludedDatasetIds := by
  cases d <;> decide

/-- The two tests of a filter together decide what it admits. -/
theorem admits_iff {dataset : String} {carried : Dimension → List String} :
    f.Admits dataset carried ↔
      f.acceptsDataset dataset = true ∧ f.acceptsValues carried = true := by
  simp only [acceptsDataset_iff, acceptsValues_iff, values?_eq_some_iff, isKeyLevel_eq_false_iff]
  constructor
  · intro h
    refine ⟨⟨fun included hincluded => h.wanted included hincluded.1 hincluded.2,
      fun excluded hexcluded => h.not_excluded excluded hexcluded.1⟩, ?_⟩
    intro d wanted hlevel hwanted
    exact h.carries d wanted hlevel.1 hlevel.2 hwanted.1 hwanted.2
  · intro h
    obtain ⟨⟨hincluded, hexcluded⟩, hcarries⟩ := h
    refine ⟨fun included hsome hne => hincluded included ⟨hsome, hne⟩, ?_, ?_⟩
    · intro excluded hsome hmem
      have hne : excluded ≠ ∅ := fun hempty => Std.ExtTreeSet.not_mem_empty (hempty ▸ hmem)
      exact hexcluded excluded ⟨hsome, hne⟩ hmem
    · intro d wanted hdataset hexcluding hsome hne
      exact hcarries d wanted ⟨hdataset, hexcluding⟩ ⟨hsome, hne⟩

theorem admits_empty (dataset : String) (carried : Dimension → List String) :
    Admits .empty dataset carried := by
  have hempty : empty.isEmpty = true := by decide
  exact admits_iff.2 ⟨acceptsDataset_of_isEmpty hempty dataset, acceptsValues_of_isEmpty hempty _⟩

/-- The filter that wants one dataset admits all that belongs to it. -/
theorem admits_forDataset {wanted dataset : String} {carried : Dimension → List String} :
    (forDataset wanted).Admits dataset carried ↔ dataset = wanted := by
  have hempty : empty.isEmpty = true := by decide
  have hnone := isEmpty_iff.1 hempty
  rw [admits_iff, forDataset, acceptsDataset_adding, acceptsValues_adding _ rfl,
    acceptsValues_of_isEmpty hempty, hnone, hnone]
  simp

end EntityFilter

/-! ## Listings -/

namespace EntityStore

variable {α : Type} {s : EntityStore α} {now : Instant}

/-- Whether an entity is stored under a key with a deadline that has not come. -/
def Stores (s : EntityStore α) (now : Instant) (k : RecordKey) (e : α) : Prop :=
  ∃ slot, s.records.slot? k = some slot ∧ now < slot.deadline ∧ slot.value.value = e

/-- Whether some entities are those of the live records that meet a condition, each record listed
once and after the records whose keys come before its own. -/
def Lists (s : EntityStore α) (now : Instant) (wanted : RecordKey → α → Prop) (es : List α) :
    Prop :=
  ∃ records : List (RecordKey × α), es = records.map (·.2) ∧
    (records.map (·.1)).Pairwise RecordKey.Before ∧
    ∀ k e, (k, e) ∈ records ↔ s.Stores now k e ∧ wanted k e

theorem get?_eq_some_iff {k : RecordKey} {e : α} : s.get? now k = some e ↔ s.Stores now k e := by
  simp only [get?, TtlStore.lookup, TtlStore.live?, Option.map_map, Option.map_eq_some_iff,
    Option.filter_eq_some_iff, Stores, Slot.isLive, decide_eq_true_eq, Function.comp_apply]
  exact exists_congr fun slot => and_assoc

/-- Reading some keys lists those that are live in their order. -/
theorem before_getMany (s : EntityStore α) (now : Instant) (ks : KeySet) :
    ((s.getMany now ks).map (·.1)).Pairwise RecordKey.Before := by
  have hlisted : (s.getMany now ks).map (·.1) =
      ks.toList.filter fun k => (s.get? now k).isSome := by
    rw [getMany_eq, List.map_filterMap, ← List.filterMap_eq_filter]
    refine congrArg (List.filterMap · ks.toList) (funext fun k => ?_)
    cases hk : s.get? now k with
    | none => simp [Option.guard, hk]
    | some e => simp [Option.guard, hk]
  rw [hlisted]
  exact ((ascending_toList ks).filter _).imp RecordKey.compare_eq_lt.1

/-- A query lists what its filter admits. -/
theorem lists_query (s : EntityStore α) (now : Instant) (f : EntityFilter) :
    s.Lists now (fun k e => f.Admits k.dataset (s.profile.carried e)) (s.query now f) := by
  refine ⟨s.entries now f, rfl, (s.before_getMany now _).sublist (List.filter_sublist.map _), ?_⟩
  intro k e
  show (k, e) ∈ s.entries now f ↔ s.Stores now k e ∧ f.Admits k.dataset (s.profile.carried e)
  rw [mem_entries, get?_eq_some_iff, EntityFilter.admits_iff]
  rfl

/-- Listing everything or one dataset lists just that. -/
theorem lists_getAll (s : EntityStore α) (now : Instant) (dataset : Option String) :
    s.Lists now (fun k _ => ∀ d ∈ dataset, k.dataset = d) (s.getAll now dataset) := by
  refine ⟨_, rfl, s.before_getMany now _, fun k e => ?_⟩
  rw [mem_getMany, mem_keys, get?_eq_some_iff, Option.all_eq_true]
  simp only [RecordKey.belongsTo, decide_eq_true_eq]
  constructor
  · intro h
    exact ⟨h.2, h.1.2⟩
  · intro h
    exact ⟨⟨⟨e, get?_eq_some_iff.2 h.1⟩, h.2⟩, h.1⟩

/-- No key is listed twice. -/
theorem nodup_of_before {ks : List RecordKey} (h : ks.Pairwise RecordKey.Before) : ks.Nodup :=
  Ascending.nodup (h.imp RecordKey.compare_eq_lt.2)

/-- Two listings for one condition are the same. -/
theorem Lists.unique {wanted wanted' : RecordKey → α → Prop} {es es' : List α}
    (h : s.Lists now wanted es) (h' : s.Lists now wanted' es')
    (hwanted : ∀ k e, wanted k e ↔ wanted' k e) : es = es' := by
  obtain ⟨records, rfl, hsorted, hmem⟩ := h
  obtain ⟨records', rfl, hsorted', hmem'⟩ := h'
  have hperm : records.Perm records' := by
    refine (List.perm_ext_iff_of_nodup (List.Nodup.of_map _ (nodup_of_before hsorted))
      (List.Nodup.of_map _ (nodup_of_before hsorted'))).2 fun r => ?_
    rw [hmem r.1 r.2, hmem' r.1 r.2, hwanted]
  have heq : records = records' := by
    refine hperm.eq_of_pairwise (fun r r' _ _ hlt hgt => ?_) (List.pairwise_map.1 hsorted)
      (List.pairwise_map.1 hsorted')
    exact absurd (RecordKey.compare_eq_lt.2 hgt)
      (Std.OrientedCmp.not_lt_of_lt (RecordKey.compare_eq_lt.2 hlt))
  rw [heq]

/-- A listing of all records is as long as the store counts. -/
theorem Lists.size_eq {wanted : RecordKey → α → Prop} {es : List α} (h : s.Lists now wanted es)
    (hall : ∀ k e, wanted k e) : s.size now = es.length := by
  obtain ⟨records, rfl, hsorted, hmem⟩ := h
  have hlength : (records.map (·.2)).length = (records.map (·.1)).length := by
    rw [List.length_map, List.length_map]
  rw [hlength]
  refine TtlStore.size_eq_length (nodup_of_before hsorted) fun k => ?_
  rw [Option.isSome_iff_exists, List.mem_map]
  constructor
  · intro hk
    obtain ⟨⟨_, e⟩, hlisted, rfl⟩ := hk
    obtain ⟨⟨slot, hslot, hlive, -⟩, -⟩ := (hmem _ e).1 hlisted
    exact ⟨slot, TtlStore.live?_eq_some_iff.2 ⟨hslot, decide_eq_true hlive⟩⟩
  · intro hk
    obtain ⟨slot, hslot⟩ := hk
    obtain ⟨hstored, hlive⟩ := TtlStore.live?_eq_some_iff.1 hslot
    exact ⟨(k, slot.value.value), (hmem k _).2 ⟨⟨slot, hstored, of_decide_eq_true hlive, rfl⟩,
      hall k _⟩, rfl⟩

end EntityStore

end TransitHub
