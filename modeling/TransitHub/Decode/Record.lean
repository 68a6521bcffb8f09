/-
# Reading records

A record is written as an object, or as an array of its fields in their order. `Record` is what is
there: each value with its place. Fields are asked for by name and may be missing in three ways:
a required field is a fault, a defaulted field takes its default, and a field that is merely
nullable is `null` in an object but must have its element in an array.

Reading an object that was written from a record gives each field the value that was written.
-/

import TransitHub.Decode.Document

namespace TransitHub

/-- The values present in a record. -/
structure Record (δ : Type) where
  /-- Each value with its place and the name of its field. -/
  cells : List (Nat × String × δ)
  /-- The place of what is missing: after everything that is there. -/
  size : Nat
  /-- Whether the record was written as an array. -/
  positional : Bool

namespace Record

variable {δ α : Type}

/-- The value of a field and its place, if it is there. -/
def find? (r : Record δ) (name : String) : Option (Nat × δ) :=
  (r.cells.find? fun c => c.2.1 = name).map fun c => (c.1, c.2.2)

def field (r : Record δ) (name : String) (dec : Decoder δ α) : Ranked α :=
  match r.find? name with
  | some (place, d) => .ofExcept place (dec d)
  | none => .fault r.size (if r.positional then .mismatch else .missingField name)

/-- A field with a default. -/
def defaulted (r : Record δ) (name : String) (default : α) (dec : Decoder δ α) : Ranked α :=
  match r.find? name with
  | some (place, d) => .ofExcept place (dec d)
  | none => .ok default

/-- A field that is `null` when it is missing from an object. -/
def nullable [Document δ] (r : Record δ) (name : String) (dec : Decoder δ α) : Ranked (Option α) :=
  match r.find? name with
  | some (place, d) => .ofExcept place (Decoder.nullable dec d)
  | none => if r.positional then .fault r.size .mismatch else .ok none

/-- An optional field whose default is `null`. -/
def optional [Document δ] (r : Record δ) (name : String) (dec : Decoder δ α) : Ranked (Option α) :=
  r.defaulted name none (Decoder.nullable dec)

/-- A list whose default is empty. -/
def list [Document δ] (r : Record δ) (name : String) (dec : Decoder δ α) : Ranked (List α) :=
  r.defaulted name [] (Decoder.list dec)

/-- The members of an object from a place on as cells, and the first fault among their keys. -/
def ofMembers (strict : Bool) (fields : List String) (place : Nat) (seen : List String) :
    List (Json5.Key × δ) → List (Nat × String × δ) × Ranked Unit
  | [] => ([], .ok ())
  | (key, d) :: ms =>
    match key.name with
    | none => ([], .fault place .mismatch)
    | some name =>
      if fields.contains name then
        if seen.contains name then ([], .fault place (.duplicateField name))
        else
          let (cells, check) := ofMembers strict fields (place + 1) (name :: seen) ms
          ((place, name, d) :: cells, check)
      else if strict then ([], .fault place (.unknownField name fields))
      else ofMembers strict fields (place + 1) seen ms

/-- The elements of an array as cells, in the order of the fields. -/
def ofElements (fields : List String) (xs : List δ) : List (Nat × String × δ) :=
  (List.range fields.length).zip (fields.zip xs)

/-- Read a record with the given fields. A strict record refuses members it does not have. -/
def read [Document δ] (strict : Bool) (fields : List String) (body : Record δ → Ranked α) :
    Decoder δ α := fun d =>
  match Document.view d with
  | .object ms =>
    let (cells, check) := ofMembers strict fields 0 [] ms
    (check.after (body ⟨cells, ms.length, false⟩)).toExcept
  | .array xs =>
    let check : Ranked Unit :=
      if fields.length < xs.length ∧ Document.allowsExcess δ = false then
        .fault fields.length .mismatch
      else .ok ()
    (check.after (body ⟨ofElements fields xs, xs.length, true⟩)).toExcept
  | _ => .error .mismatch

end Record

end TransitHub
