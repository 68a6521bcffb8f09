/-
# Entity filters

A filter is a conjunction of sets, one for each dimension that it constrains. A dimension without a
set, or with an empty one, accepts everything. The two dataset dimensions are decided by the key of
a record, all others by the values that an entity carries in the dimension: it must carry at least
one that is wanted.
-/

import TransitHub.DataKind
import TransitHub.RecordKey

namespace TransitHub

/-- Sets of wanted values by dimension. -/
structure EntityFilter where
  dimensions : Std.ExtTreeMap Dimension StringSet compare := ∅

namespace EntityFilter

def empty : EntityFilter := {}

/-- The wanted values of a dimension; none when the dimension accepts everything. -/
def values? (f : EntityFilter) (d : Dimension) : Option StringSet :=
  f.dimensions[d]?.filter fun s => !s.isEmpty

/-- The filter with further values wanted in a dimension. -/
def adding (f : EntityFilter) (d : Dimension) (values : List String) : EntityFilter :=
  ⟨f.dimensions.insert d ((f.dimensions[d]?.getD ∅).insertMany values)⟩

/-- The filter that wants one dataset. -/
def forDataset (dataset : String) : EntityFilter := empty.adding .datasetId [dataset]

/-- Whether no dimension is constrained. -/
def isEmpty (f : EntityFilter) : Bool := Dimension.all.all fun d => (f.values? d).isNone

/-- Whether a dimension that is decided by values is constrained. -/
def hasValueDimensions (f : EntityFilter) : Bool :=
  Dimension.all.any fun d => !d.isKeyLevel && (f.values? d).isSome

/-- Whether the two dataset dimensions accept a dataset. -/
def acceptsDataset (f : EntityFilter) (dataset : String) : Bool :=
  (match f.values? .datasetId with
    | some included => included.contains dataset
    | none => true) &&
  (match f.values? .excludedDatasetIds with
    | some excluded => !excluded.contains dataset
    | none => true)

/-- Whether the two dataset dimensions accept a record. -/
def acceptsKey (f : EntityFilter) (k : RecordKey) : Bool := f.acceptsDataset k.dataset

/-- Whether the other dimensions accept an entity that carries the values of `carried`. -/
def acceptsValues (f : EntityFilter) (carried : Dimension → List String) : Bool :=
  Dimension.all.all fun d => d.isKeyLevel ||
    match f.values? d with
    | some wanted => (carried d).any wanted.contains
    | none => true

/-- The constrained and unconstrained sets that are present, in order. -/
def entries (f : EntityFilter) : List (Dimension × List String) :=
  f.dimensions.toList.map fun (d, s) => (d, s.toList)

def toJson (f : EntityFilter) : Json :=
  .object (f.entries.map fun (d, vs) => (d.name, .strings vs))

/-- The filter with the given sets; of two for one dimension the last counts. -/
def ofEntries (es : List (Dimension × List String)) : EntityFilter :=
  ⟨es.foldl (fun m e => m.insert e.1 (.ofList e.2 compare)) ∅⟩

def decoder {δ : Type} [Document δ] : Decoder δ EntityFilter := fun d =>
  (Decoder.keyed Dimension.table (Decoder.list Decoder.string) d).map ofEntries

end EntityFilter

end TransitHub
