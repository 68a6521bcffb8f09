/-
# What a new subscription is sent, and what it is sent later

A subscription is sent the current state when it is accepted, and changes from then on. Both select
by the scope of the subscription, by the dataset dimensions of its filter and by the other
dimensions, but not in the same way. A change must lie in the scope and be accepted by the filter.
The snapshot is a query, whose filter is the one of the subscription with the scope as one more
wanted dataset; where the filter already wants datasets, this widens it.

So the two differ exactly for a scoped subscription whose filter wants datasets, at the datasets
that are the scope or wanted but not both: the snapshot has the records of all these, and no change
of any of them is ever pushed.
-/

import TransitHub.Hub.Basic
import TransitHub.Proofs.EntityFilter
import TransitHub.Proofs.Store.Reads

namespace TransitHub

/-- Whether a changed entity of a kind is pushed to a subscription. -/
def Subscription.takes {α : Type} (s : Subscription) (kind : DataKind) (p : Profile α)
    (k : RecordKey) (e : α) : Bool :=
  s.concerns kind k.dataset && s.filter.acceptsDataset k.dataset && p.selects s.filter e

/-- The scope and the wanted datasets of a subscription disagree about a dataset. -/
def Subscription.Disputes (s : Subscription) (dataset : String) : Prop :=
  ∃ scope included, s.dataset = some scope ∧ s.filter.values? .datasetId = some included ∧
    ¬ (dataset = scope ↔ dataset ∈ included)

/-- No excluded dataset. -/
def Subscription.Admits (s : Subscription) (dataset : String) : Prop :=
  ∀ excluded, s.filter.values? .excludedDatasetIds = some excluded → dataset ∉ excluded

theorem Subscription.takes_iff {α : Type} {s : Subscription} {p : Profile α} {k : RecordKey}
    {e : α} :
    s.takes s.kind p k e = true ↔
      ((s.dataset = none ∨ s.dataset = some k.dataset) ∧
        ∀ included, s.filter.values? .datasetId = some included → k.dataset ∈ included) ∧
      s.Admits k.dataset ∧ p.selects s.filter e = true := by
  have hscope : s.concerns s.kind k.dataset = true ↔
      s.dataset = none ∨ s.dataset = some k.dataset := by
    cases hscope : s.dataset <;> simp [concerns, hscope]
  rw [takes, Bool.and_eq_true, Bool.and_eq_true, hscope, EntityFilter.acceptsDataset_iff]
  constructor
  · intro h
    obtain ⟨⟨hscope, hwanted, hadmits⟩, hselects⟩ := h
    exact ⟨⟨hscope, hwanted⟩, hadmits, hselects⟩
  · intro h
    obtain ⟨⟨hscope, hwanted⟩, hadmits, hselects⟩ := h
    exact ⟨⟨hscope, hwanted, hadmits⟩, hselects⟩

namespace Hub

/-- The records of a kind that a subscription is sent at the start. -/
def snapshotRecords (h : Hub) (kind : DataKind) (s : Subscription) :
    List (RecordKey × kind.Entity) :=
  (h.feeds.get kind).store.entries h.now (snapshotFilter s)

theorem snapshot_eq (h : Hub) (kind : DataKind) (s : Subscription) :
    h.snapshot kind s = (h.snapshotRecords kind s).map (·.2) := rfl

/-- The scope counts as one more wanted dataset. -/
theorem acceptsDataset_snapshotFilter {s : Subscription} {dataset : String} :
    (snapshotFilter s).acceptsDataset dataset = true ↔
      ((s.dataset = none ∧ s.filter.values? .datasetId = none) ∨ s.dataset = some dataset ∨
        ∃ included, s.filter.values? .datasetId = some included ∧ dataset ∈ included) ∧
      s.Admits dataset := by
  unfold snapshotFilter
  cases hscope : s.dataset with
  | none =>
    rw [EntityFilter.acceptsDataset_iff]
    refine and_congr_left' ?_
    cases hvalues : s.filter.values? .datasetId with
    | none => simp
    | some included => simp
  | some scope =>
    rw [EntityFilter.acceptsDataset_adding]
    refine and_congr_left' ?_
    simp [eq_comm]

theorem selects_snapshotFilter {α : Type} (p : Profile α) (s : Subscription) (e : α) :
    p.selects (snapshotFilter s) e = p.selects s.filter e := by
  unfold snapshotFilter
  split
  · exact EntityFilter.acceptsValues_adding _ rfl _
  · rfl

theorem mem_snapshotRecords {h : Hub} {kind : DataKind} {s : Subscription} {k : RecordKey}
    {e : kind.Entity} (hlive : (h.feeds.get kind).store.get? h.now k = some e) :
    (k, e) ∈ h.snapshotRecords kind s ↔
      ((s.dataset = none ∧ s.filter.values? .datasetId = none) ∨ s.dataset = some k.dataset ∨
        ∃ included, s.filter.values? .datasetId = some included ∧ k.dataset ∈ included) ∧
      s.Admits k.dataset ∧ (h.feeds.get kind).store.profile.selects s.filter e = true := by
  rw [snapshotRecords, EntityStore.mem_entries, selects_snapshotFilter, EntityFilter.acceptsKey,
    acceptsDataset_snapshotFilter, and_assoc, and_iff_right hlive]

/-- The snapshot misses no live record that the subscription would take as a change. -/
theorem mem_snapshotRecords_of_takes {h : Hub} {kind : DataKind} {s : Subscription} {k : RecordKey}
    {e : kind.Entity} (hkind : s.kind = kind)
    (hlive : (h.feeds.get kind).store.get? h.now k = some e)
    (htakes : s.takes kind (h.feeds.get kind).store.profile k e = true) :
    (k, e) ∈ h.snapshotRecords kind s := by
  subst hkind
  obtain ⟨⟨hscope, hwanted⟩, hrest⟩ := Subscription.takes_iff.1 htakes
  refine (mem_snapshotRecords hlive).2 ⟨?_, hrest⟩
  rcases hscope with hglobal | hscope
  · cases hvalues : s.filter.values? .datasetId with
    | none => exact Or.inl ⟨hglobal, rfl⟩
    | some included => exact Or.inr (Or.inr ⟨included, rfl, hwanted included hvalues⟩)
  · exact Or.inr (Or.inl hscope)

/-- The snapshot of the kind of a subscription has a live record exactly if the record, as a change,
would be pushed, except where scope and wanted datasets dispute its dataset and nothing else speaks
against it; there the two always differ. -/
theorem snapshot_agrees_iff (h : Hub) {kind : DataKind} {s : Subscription} (hkind : s.kind = kind)
    {k : RecordKey} {e : kind.Entity}
    (hlive : (h.feeds.get kind).store.get? h.now k = some e) :
    ((k, e) ∈ h.snapshotRecords kind s ↔
        s.takes kind (h.feeds.get kind).store.profile k e = true) ↔
      ¬ (s.Disputes k.dataset ∧ s.Admits k.dataset ∧
        (h.feeds.get kind).store.profile.selects s.filter e = true) := by
  subst hkind
  rw [mem_snapshotRecords hlive, Subscription.takes_iff]
  -- Exclusions and values are tested alike, so only the wanted datasets are left to compare.
  by_cases hrest : s.Admits k.dataset ∧
      (h.feeds.get s.kind).store.profile.selects s.filter e = true
  · rw [and_iff_left hrest, and_iff_left hrest, and_iff_left hrest, Subscription.Disputes]
    cases s.dataset with
    | none => cases s.filter.values? .datasetId <;> simp
    | some scope =>
      cases s.filter.values? .datasetId with
      | none => simp
      | some included =>
        by_cases hscope : scope = k.dataset <;> by_cases hwanted : k.dataset ∈ included <;>
          simp [hscope, hwanted, Ne.symm]
  · have hnone (p : Prop) : ¬ (p ∧ s.Admits k.dataset ∧
        (h.feeds.get s.kind).store.profile.selects s.filter e = true) := fun hp => hrest hp.2
    simp [hnone]

/-- A subscription to dataset B, whose filter wants A and B, is sent a situation of A at the start,
though no change of A concerns it. -/
theorem snapshot_leaves_scope :
    let h := ((Hub.new .default (.json "hub") ⟨.epoch, 0⟩).ingest .situationExchange "A"
      [{ number := some "s" }]).2
    let s : Subscription := {
      id := "sub", kind := .situationExchange, address := "http://consumer/push"
      dataset := some "B", filter := EntityFilter.empty.adding .datasetId ["A", "B"]
      heartbeatMillis := 0, termination := none, valueAdapters := [], updateMillis := none
      requestor := none, createdAt := .epoch }
    let k : RecordKey := { dataset := "A", primary := "s" }
    (h.feeds.get .situationExchange).store.get? h.now k = some { number := some "s" } ∧
      (k, { number := some "s" }) ∈ h.snapshotRecords .situationExchange s ∧
      s.takes .situationExchange Situation.profile k { number := some "s" } = false := by
  intro h s k
  have hlive : (h.feeds.get .situationExchange).store.get? h.now k =
      some { number := some "s" } := by decide +kernel
  refine ⟨hlive, EntityStore.mem_entries.2 ⟨hlive, ?_, ?_⟩, ?_⟩
  · decide +kernel
  · decide +kernel
  · decide +kernel

/-- A subscription to dataset B without a filter is sent a situation of B, now and later. -/
theorem snapshot_agrees_without_filter :
    let h := ((Hub.new .default (.json "hub") ⟨.epoch, 0⟩).ingest .situationExchange "B"
      [{ number := some "s" }]).2
    let s : Subscription := {
      id := "sub", kind := .situationExchange, address := "http://consumer/push"
      dataset := some "B", filter := .empty
      heartbeatMillis := 0, termination := none, valueAdapters := [], updateMillis := none
      requestor := none, createdAt := .epoch }
    let k : RecordKey := { dataset := "B", primary := "s" }
    (k, { number := some "s" }) ∈ h.snapshotRecords .situationExchange s ↔
      s.takes .situationExchange (h.feeds.get .situationExchange).store.profile k
        { number := some "s" } = true := by
  intro h s k
  have hkind : s.kind = .situationExchange := rfl
  refine (snapshot_agrees_iff h hkind (by decide +kernel)).2 ?_
  rintro ⟨⟨_, _, -, hincluded, -⟩, -⟩
  have hnone : s.filter.values? .datasetId = none := by decide +kernel
  rw [hnone] at hincluded
  exact absurd hincluded (Option.some_ne_none _).symm

end Hub

end TransitHub
