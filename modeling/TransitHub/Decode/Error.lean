/-
# Faults of a document

Why a document does not have the shape that a type asks for. Five causes have a wording that
callers are shown; every other mismatch is a fault without one.

A document is read from its front, so of two faults the one that comes first wins. `Ranked` keeps
the place of a fault among the members of its record and combines results by that place, whatever
the order in which the fields are asked for.
-/

namespace TransitHub

/-- Why a document does not have the shape of a type. -/
inductive DecodeError
  /-- A member that the record does not have, and the members it has. -/
  | unknownField (name : String) (expected : List String)
  | missingField (name : String)
  | duplicateField (name : String)
  /-- A name that the enumeration does not have, and the names it has. -/
  | unknownVariant (name : String) (expected : List String)
  /-- Any other difference of shape. -/
  | mismatch
deriving DecidableEq

namespace DecodeError

/-- A name between grave accents. -/
def named (name : String) : String := "\u0060" ++ name ++ "\u0060"

/-- The names that would have been accepted, in words. -/
def alternatives : List String → String
  | [] => "there are no fields"
  | [a] => "expected " ++ named a
  | [a, b] => "expected " ++ named a ++ " or " ++ named b
  | names => "expected one of " ++ String.intercalate ", " (names.map named)

/-- The wording of a fault, for the causes that have one. -/
def message? : DecodeError → Option String
  | unknownField name expected =>
    some ("unknown field " ++ named name ++ ", " ++ alternatives expected)
  | missingField name => some ("missing field " ++ named name)
  | duplicateField name => some ("duplicate field " ++ named name)
  | unknownVariant name expected =>
    some ("unknown variant " ++ named name ++ ", " ++ alternatives expected)
  | mismatch => none

end DecodeError

/-- A value, or the first fault and its place. -/
inductive Ranked (α : Type)
  | ok (a : α)
  | fault (place : Nat) (e : DecodeError)

namespace Ranked

variable {α β : Type}

/-- The result of reading what stands at a place. -/
def ofExcept (place : Nat) : Except DecodeError α → Ranked α
  | .ok a => ok a
  | .error e => fault place e

/-- Forget the place. -/
def toExcept : Ranked α → Except DecodeError α
  | ok a => .ok a
  | fault _ e => .error e

/-- Apply one result to another; of two faults the one at the smaller place remains. -/
def andMap : Ranked (α → β) → Ranked α → Ranked β
  | ok f, ok a => ok (f a)
  | ok _, fault p e => fault p e
  | fault p e, ok _ => fault p e
  | fault p e, fault q e' => if q < p then fault q e' else fault p e

/-- The second result, unless the first is a fault at a smaller or equal place. -/
def after (check : Ranked Unit) (r : Ranked α) : Ranked α :=
  andMap (match check with | ok _ => ok id | fault p e => fault p e) r

instance : Applicative Ranked where
  pure := ok
  seq f a := andMap f (a ())

@[simp] theorem ofExcept_ok (place : Nat) (a : α) : ofExcept place (.ok a) = ok a := rfl
@[simp] theorem toExcept_ok (a : α) : (ok a).toExcept = .ok a := rfl
@[simp] theorem map_ok (f : α → β) (a : α) : f <$> ok a = ok (f a) := rfl
@[simp] theorem seq_ok (f : α → β) (a : α) : ok f <*> ok a = ok (f a) := rfl
@[simp] theorem andMap_ok (f : α → β) (a : α) : andMap (ok f) (ok a) = ok (f a) := rfl
@[simp] theorem after_ok (u : Unit) (a : α) : after (ok u) (ok a) = ok a := rfl

end Ranked

end TransitHub
