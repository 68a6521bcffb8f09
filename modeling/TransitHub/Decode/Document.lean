/-
# Documents that typed values are read from

JSON values and JSON5 documents are read by the same decoders. `Document` says what the forms
share: a view of the outermost layer, and the few points on which they differ. In JSON a count is
an integer, an enumeration written as an object has one key with value `null`, and an array that
stands for a record may not be longer than the record. In JSON5 any number is a count, only the
first key of such an object counts, and further elements are not looked at. A JSON5 text that may
hold one of several shapes is examined as a whole first, and then follows the stricter rules.
-/

import TransitHub.Decode.Error
import TransitHub.Json5.Basic
import TransitHub.Time.Written

namespace TransitHub

/-- The outermost layer of a document. A string or a key may have escapes that denote no text. -/
inductive View (δ : Type)
  | null
  | boolean (b : Bool)
  | number
  | string (content : Option String)
  | array (xs : List δ)
  | object (members : List (Json5.Key × δ))

/-- A form of document that typed values can be read from. -/
class Document (δ : Type) where
  view : δ → View δ
  /-- An unsigned 64-bit count. -/
  count : δ → Except DecodeError UInt64
  /-- The name that an object standing for an enumeration chooses, and whether the value beside
  the name is acceptable. -/
  choice : List (Json5.Key × δ) → Option (String × Bool)
  /-- Whether an array that stands for a record may be longer than the record. -/
  allowsExcess : Bool

instance : Document Json where
  view
    | .null => .null
    | .boolean b => .boolean b
    | .integer _ => .number
    | .double _ => .number
    | .string s => .string (some s)
    | .array xs => .array xs
    | .object ms => .object (ms.map fun m => (⟨some m.1, true⟩, m.2))
  count
    | .integer n => if Json.fitsCount n then .ok (.ofNat n.toNat) else .error .mismatch
    | _ => .error .mismatch
  choice
    | [(key, value)] =>
      key.name.map fun name => (name, match value with | .null => true | _ => false)
    | _ => none
  allowsExcess := false

instance : Document Json5 where
  view
    | .null => .null
    | .boolean b => .boolean b
    | .number _ => .number
    | .string s => .string s
    | .array xs => .array xs
    | .object ms => .object ms
  count
    | .number literal => match Json5.reading? literal with
      | some r => .ok (.ofNat r.count)
      | none => .error .mismatch
    | _ => .error .mismatch
  choice
    | (key, _) :: _ => key.name.map fun name => (name, true)
    | [] => none
  allowsExcess := true

/-- A JSON5 document that is examined as a whole before it is read. It is read as JSON is, except
that every key counts as quoted and equal keys are still there. -/
structure Buffered where
  document : Json5

instance : Document Buffered where
  view d := match d.document with
    | .null => .null
    | .boolean b => .boolean b
    | .number _ => .number
    | .string s => .string s
    | .array xs => .array (xs.map Buffered.mk)
    | .object ms => .object (ms.map fun m => (⟨m.1.name, true⟩, ⟨m.2⟩))
  count d := match d.document with
    | .number literal => match Json5.untypedNumber? literal with
      | some (.integer n) => if 0 ≤ n then .ok (.ofNat n.toNat) else .error .mismatch
      | _ => .error .mismatch
    | _ => .error .mismatch
  choice
    | [(key, value)] =>
      key.name.map fun name => (name, match value.document with | .null => true | _ => false)
    | _ => none
  allowsExcess := false

/-- A timestamp as a JSON value. -/
def Timestamp.toJson (t : Timestamp) : Json := .string t.text

/-- A way to read a value of type `α` from a document. -/
abbrev Decoder (δ α : Type) := δ → Except DecodeError α

namespace Decoder

variable {δ α : Type} [Document δ]

def string : Decoder δ String := fun d =>
  match Document.view d with
  | .string (some s) => .ok s
  | _ => .error .mismatch

def boolean : Decoder δ Bool := fun d =>
  match Document.view d with
  | .boolean b => .ok b
  | _ => .error .mismatch

/-- An unsigned 64-bit count. -/
def count : Decoder δ UInt64 := Document.count

/-- A value that may be `null`. -/
def nullable (dec : Decoder δ α) : Decoder δ (Option α) := fun d =>
  match Document.view d with
  | .null => .ok none
  | _ => (dec d).map some

/-- The elements of a list, read from the front. -/
def elements (dec : Decoder δ α) : List δ → Except DecodeError (List α)
  | [] => .ok []
  | d :: ds => do
    let a ← dec d
    let as ← elements dec ds
    return a :: as

/-- A list. -/
def list (dec : Decoder δ α) : Decoder δ (List α) := fun d =>
  match Document.view d with
  | .array xs => elements dec xs
  | _ => .error .mismatch

/-- A timestamp, written as a string. -/
def timestamp : Decoder δ Timestamp := fun d => do
  match Timestamp.read? (← string d) with
  | some t => .ok t
  | none => .error .mismatch

/-- The value with the given name among the named values of an enumeration. -/
def variant (table : List (String × α)) (name : String) : Except DecodeError α :=
  match table.lookup name with
  | some a => .ok a
  | none => .error (.unknownVariant name (table.map (·.1)))

/-- An enumeration: the name of one of its values, or an object that chooses that name. -/
def enumeration (table : List (String × α)) : Decoder δ α := fun d =>
  match Document.view d with
  | .string (some name) => variant table name
  | .object ms =>
    match Document.choice ms with
    | some (name, acceptable) => do
      let a ← variant table name
      if acceptable then .ok a else .error .mismatch
    | none => .error .mismatch
  | _ => .error .mismatch

/-- An object whose keys are values of an enumeration, as pairs in the order of the document. Such a
key must be quoted. -/
def keyed {κ : Type} (table : List (String × κ)) (dec : Decoder δ α) : Decoder δ (List (κ × α)) :=
  fun d =>
    match Document.view d with
    | .object ms => members ms
    | _ => .error .mismatch
where
  /-- The members that remain. -/
  members : List (Json5.Key × δ) → Except DecodeError (List (κ × α))
    | [] => .ok []
    | (⟨some name, true⟩, d) :: ms => do
      let k ← variant table name
      let a ← dec d
      let rest ← members ms
      return (k, a) :: rest
    | _ :: _ => .error .mismatch

/-- A signed 64-bit integer. -/
def integer : Decoder Json Int64
  | .integer n => if Json.fitsSigned n then .ok (.ofInt n) else .error .mismatch
  | _ => .error .mismatch

/-- An unsigned 32-bit integer. -/
def word : Decoder Json UInt32
  | .integer n => if Json.fitsWord n then .ok (.ofNat n.toNat) else .error .mismatch
  | _ => .error .mismatch

/-- A double; an integer stands for the nearest one. -/
def double : Decoder Json Binary64
  | .double x => .ok x
  | .integer n => match Binary64.ofInt? n with
    | some x => .ok x
    | none => .error .mismatch
  | _ => .error .mismatch

end Decoder

end TransitHub
