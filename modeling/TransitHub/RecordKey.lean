/-
# Record keys

The identity of one logical entity inside a dataset: a primary key and up to four discriminators.
Keys are ordered field by field in the order of the structure, an absent field before any present
one, so a sorted map of keys lists datasets one after another.
-/

import Std.Data.ExtTreeMap
import Std.Data.ExtTreeSet
import TransitHub.Decode.Record

namespace TransitHub

/-- The identity of a record. -/
@[ext] structure RecordKey where
  dataset : String
  line : Option String := none
  primary : String
  stop : Option String := none
  journey : Option String := none
  discriminator : Option String := none
deriving DecidableEq

namespace RecordKey

instance : Ord RecordKey where
  compare := compareLex (compareOn dataset) (compareLex (compareOn line)
    (compareLex (compareOn primary) (compareLex (compareOn stop)
      (compareLex (compareOn journey) (compareOn discriminator)))))

instance : Std.TransOrd RecordKey :=
  inferInstanceAs (Std.TransCmp (compareLex (compareOn dataset) (compareLex (compareOn line)
    (compareLex (compareOn primary) (compareLex (compareOn stop)
      (compareLex (compareOn journey) (compareOn discriminator)))))))

instance : Std.LawfulEqOrd RecordKey where
  eq_of_compare {a b} h := by
    have h : compareLex (compareOn dataset) (compareLex (compareOn line)
      (compareLex (compareOn primary) (compareLex (compareOn stop)
        (compareLex (compareOn journey) (compareOn discriminator))))) a b = .eq := h
    simp only [compareLex_eq_eq, compareOn, Std.LawfulEqOrd.compare_eq_iff_eq] at h
    obtain ⟨h1, h2, h3, h4, h5, h6⟩ := h
    exact RecordKey.ext h1 h2 h3 h4 h5 h6

/-- Whether the key belongs to a dataset. -/
def belongsTo (k : RecordKey) (dataset : String) : Bool := k.dataset = dataset

/-- The key in one line: dataset and primary key, then the discriminators that are present. -/
def text (k : RecordKey) : String :=
  k.dataset ++ ":" ++ k.primary ++
    String.join ([k.line, k.stop, k.journey, k.discriminator].map fun part =>
      match part with
      | none => ""
      | some s => ":" ++ s)

def fields : List String :=
  ["dataset_id", "line_ref", "primary_key", "stop_ref", "vehicle_journey_ref", "discriminator"]

def toJson (k : RecordKey) : Json :=
  .record fields [.string k.dataset, .ofOption .string k.line, .string k.primary,
    .ofOption .string k.stop, .ofOption .string k.journey, .ofOption .string k.discriminator]

def decoder : Decoder Json RecordKey := Record.read false fields fun r =>
  RecordKey.mk <$> r.field "dataset_id" Decoder.string <*> r.nullable "line_ref" Decoder.string
    <*> r.field "primary_key" Decoder.string <*> r.nullable "stop_ref" Decoder.string
    <*> r.nullable "vehicle_journey_ref" Decoder.string
    <*> r.nullable "discriminator" Decoder.string

end RecordKey

/-- A set of record keys. -/
abbrev KeySet := Std.ExtTreeSet RecordKey compare

/-- A set of strings. -/
abbrev StringSet := Std.ExtTreeSet String compare

end TransitHub
