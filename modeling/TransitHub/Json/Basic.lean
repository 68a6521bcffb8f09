/-
# JSON values

The documents that entities, requests and push bodies are exchanged in. Integers and doubles are
different values: a count is never written as a double, and reading keeps the difference. Members
of an object keep the order in which they were put.
-/

import TransitHub.Number.Binary64

namespace TransitHub

/-- A JSON value. -/
inductive Json
  | null
  | boolean (b : Bool)
  | integer (n : Int)
  | double (x : Binary64)
  | string (s : String)
  | array (xs : List Json)
  | object (members : List (String × Json))

namespace Json

instance : Inhabited Json := ⟨null⟩

/-- Whether an integer is an unsigned 32-bit word. -/
def fitsWord (n : Int) : Bool := 0 ≤ n && n < 4294967296

/-- Whether an integer is an unsigned 64-bit count. -/
def fitsCount (n : Int) : Bool := 0 ≤ n && n < 18446744073709551616

/-- Whether an integer is a signed integer of 64 bits. -/
def fitsSigned (n : Int) : Bool := -9223372036854775808 ≤ n && n < 9223372036854775808

def natural (n : Nat) : Json := integer n

/-- A 32-bit count. -/
def word (n : UInt32) : Json := integer n.toNat

/-- A 64-bit count. -/
def count (n : UInt64) : Json := integer n.toNat

/-- A signed 64-bit integer. -/
def signed (n : Int64) : Json := integer n.toInt

/-- An optional value, `null` when there is none. -/
def ofOption {α : Type} (f : α → Json) : Option α → Json
  | none => null
  | some a => f a

def ofList {α : Type} (f : α → Json) (xs : List α) : Json := array (xs.map f)

def strings (xs : List String) : Json := ofList string xs

/-- An object from field names and the values of those fields, in the same order. -/
def record (names : List String) (values : List Json) : Json := object (names.zip values)

/-- The members of an object; other values have none. -/
def members : Json → List (String × Json)
  | object ms => ms
  | _ => []

end Json

end TransitHub
