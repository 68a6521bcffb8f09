/-
# What a filter accepts

The tests of a filter as statements about its sets. The two dataset dimensions and the dimensions
that are decided by values do not depend on each other, so widening a dataset dimension leaves the
test of values as it is.
-/

import TransitHub.EntityFilter

namespace TransitHub

theorem Dimension.mem_all (d : Dimension) : d ∈ Dimension.all := by
  cases d <;> decide

namespace EntityFilter

variable {f : EntityFilter}

theorem isEmpty_iff : f.isEmpty = true ↔ ∀ d, f.values? d = none := by
  rw [isEmpty, List.all_eq_true]
  constructor
  · intro h d
    exact Option.isNone_iff_eq_none.1 (h d d.mem_all)
  · intro h d _
    rw [h d]
    rfl

/-- A dataset is accepted if it is wanted, where some are, and if it is not excluded. -/
theorem acceptsDataset_iff {dataset : String} :
    f.acceptsDataset dataset = true ↔
      (∀ included, f.values? .datasetId = some included → dataset ∈ included) ∧
        ∀ excluded, f.values? .excludedDatasetIds = some excluded → dataset ∉ excluded := by
  unfold acceptsDataset
  cases f.values? .datasetId <;> cases f.values? .excludedDatasetIds <;>
    simp [← Std.ExtTreeSet.contains_iff_mem]

/-- An entity is accepted if it carries a wanted value in every dimension where some are wanted. -/
theorem acceptsValues_iff {carried : Dimension → List String} :
    f.acceptsValues carried = true ↔
      ∀ d wanted, d.isKeyLevel = false → f.values? d = some wanted →
        ∃ v ∈ carried d, v ∈ wanted := by
  rw [acceptsValues, List.all_eq_true]
  constructor
  · intro h d wanted hlevel hwanted
    have hd := h d d.mem_all
    rw [hlevel, hwanted, Bool.false_or] at hd
    exact List.any_eq_true.1 hd
  · intro h d _
    cases hlevel : d.isKeyLevel with
    | true => rfl
    | false =>
      rw [Bool.false_or]
      cases hwanted : f.values? d with
      | none => rfl
      | some wanted => exact List.any_eq_true.2 (h d wanted hlevel hwanted)

theorem acceptsDataset_of_isEmpty (h : f.isEmpty = true) (dataset : String) :
    f.acceptsDataset dataset = true := by
  have hnone := isEmpty_iff.1 h
  rw [acceptsDataset_iff]
  constructor
  · intro included hincluded
    rw [hnone] at hincluded
    exact absurd hincluded (Option.some_ne_none included).symm
  · intro excluded hexcluded
    rw [hnone] at hexcluded
    exact absurd hexcluded (Option.some_ne_none excluded).symm

theorem acceptsValues_of_isEmpty (h : f.isEmpty = true) (carried : Dimension → List String) :
    f.acceptsValues carried = true := by
  rw [acceptsValues_iff]
  intro d wanted _ hwanted
  rw [isEmpty_iff.1 h d] at hwanted
  exact absurd hwanted (Option.some_ne_none wanted).symm

/-! ## Wanting more -/

theorem isEmpty_eq_false_of_mem {values : StringSet} {v : String} (hv : v ∈ values) :
    values.isEmpty = false := by
  rw [Std.ExtTreeSet.isEmpty_eq_false_iff]
  rintro rfl
  exact Std.ExtTreeSet.not_mem_empty hv

theorem values?_adding_of_ne {d d' : Dimension} (values : List String) (hne : d ≠ d') :
    (f.adding d values).values? d' = f.values? d' := by
  have hcompare : compare d d' ≠ .eq := fun h => hne (Std.LawfulEqOrd.eq_of_compare h)
  rw [values?, values?, adding, Std.ExtTreeMap.getElem?_insert, if_neg hcompare]

/-- Adding a value to a dimension keeps the values that are wanted there already. -/
theorem values?_adding_self (f : EntityFilter) (d : Dimension) (value : String) :
    ∃ wanted, (f.adding d [value]).values? d = some wanted ∧
      ∀ v, v ∈ wanted ↔ v = value ∨ ∃ before, f.values? d = some before ∧ v ∈ before := by
  have hmem (before : StringSet) (v : String) :
      v ∈ before.insertMany [value] ↔ v = value ∨ v ∈ before := by
    rw [Std.ExtTreeSet.mem_insertMany_list, List.contains_iff_mem, List.mem_singleton, or_comm]
  have hvalues : (f.adding d [value]).values? d =
      some ((f.dimensions[d]?.getD ∅).insertMany [value]) := by
    have hsome : ((f.dimensions[d]?.getD ∅).insertMany [value]).isEmpty = false :=
      isEmpty_eq_false_of_mem ((hmem _ value).2 (Or.inl rfl))
    rw [values?, adding, Std.ExtTreeMap.getElem?_insert_self]
    exact Option.filter_eq_some_iff.2 ⟨rfl, by rw [hsome]; rfl⟩
  refine ⟨_, hvalues, fun v => ?_⟩
  rw [hmem, values?]
  refine or_congr_right ?_
  simp only [Option.filter_eq_some_iff]
  constructor
  · intro hv
    cases hbefore : f.dimensions[d]? with
    | none =>
      rw [hbefore] at hv
      exact absurd hv Std.ExtTreeSet.not_mem_empty
    | some before =>
      rw [hbefore] at hv
      have hsome : before.isEmpty = false := isEmpty_eq_false_of_mem hv
      exact ⟨before, ⟨rfl, by rw [hsome]; rfl⟩, hv⟩
  · intro h
    obtain ⟨before, ⟨hbefore, -⟩, hv⟩ := h
    rw [hbefore]
    exact hv

/-- With one more dataset wanted, a filter accepts this dataset and those that were wanted. -/
theorem acceptsDataset_adding {scope dataset : String} :
    (f.adding .datasetId [scope]).acceptsDataset dataset = true ↔
      (dataset = scope ∨
        ∃ included, f.values? .datasetId = some included ∧ dataset ∈ included) ∧
      ∀ excluded, f.values? .excludedDatasetIds = some excluded → dataset ∉ excluded := by
  obtain ⟨wanted, hwanted, hmem⟩ := f.values?_adding_self .datasetId scope
  have hexcluded : (f.adding .datasetId [scope]).values? .excludedDatasetIds =
      f.values? .excludedDatasetIds := values?_adding_of_ne [scope] (by decide)
  rw [acceptsDataset_iff, hwanted, hexcluded]
  refine and_congr_left' ?_
  constructor
  · intro h
    exact (hmem dataset).1 (h wanted rfl)
  · intro h included hincluded
    rw [← Option.some.inj hincluded]
    exact (hmem dataset).2 h

theorem acceptsValues_adding {d : Dimension} (values : List String) (hlevel : d.isKeyLevel = true)
    (carried : Dimension → List String) :
    (f.adding d values).acceptsValues carried = f.acceptsValues carried := by
  rw [Bool.eq_iff_iff, acceptsValues_iff, acceptsValues_iff]
  refine forall_congr' fun d' => forall_congr' fun wanted => imp_congr_right fun hvalue => ?_
  have hne : d ≠ d' := by
    rintro rfl
    rw [hlevel] at hvalue
    exact Bool.false_ne_true hvalue.symm
  rw [values?_adding_of_ne values hne]

end EntityFilter

end TransitHub
