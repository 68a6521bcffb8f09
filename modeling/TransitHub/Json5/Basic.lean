/-
# JSON5 documents

A JSON5 text as a tree of literals. Keys keep whether they were quoted, equal keys are all kept, and
a number is its literal: a count takes any number and drops its fraction, an untyped value tells
integers from doubles by how they are written. What is not wanted is never examined, so a literal
out of range is a fault only where it is read.
-/

import TransitHub.Json.Basic
import TransitHub.Json5.Token

namespace TransitHub

/-- A key of a JSON5 object. Without a name its escapes denote no text. -/
structure Json5.Key where
  name : Option String
  quoted : Bool

/-- A JSON5 document. -/
inductive Json5
  | null
  | boolean (b : Bool)
  | number (literal : String)
  | string (content : Option String)
  | array (xs : List Json5)
  | object (members : List (Json5.Key × Json5))

namespace Json5

instance : Inhabited Json5 := ⟨null⟩

/-- What a number literal denotes: a finite double, an infinity, or no number. -/
inductive Reading
  | finite (x : Binary64)
  | infinite (negative : Bool)
  | nan

/-- Digits with an optional point and exponent, as the digits and a power of ten. -/
def decimalParts (cs : List Char) : Nat × Int :=
  let whole := cs.takeWhile Decimal.isDigit
  let rest := cs.drop whole.length
  let (after, rest) := match rest with
    | '.' :: rest =>
      let ds := rest.takeWhile Decimal.isDigit
      (ds, rest.drop ds.length)
    | rest => ([], rest)
  let exponent : Int := match rest with
    | _ :: '-' :: ds => -(Decimal.value ds : Int)
    | _ :: '+' :: ds => Decimal.value ds
    | _ :: ds => Decimal.value ds
    | [] => 0
  (Decimal.value (whole ++ after), exponent - after.length)

/-- Whether an unsigned literal is hexadecimal. -/
def isHex (cs : List Char) : Bool :=
  match cs with
  | '0' :: x :: _ :: _ => x = 'x' || x = 'X'
  | _ => false

/-- A hexadecimal literal of at most 32 bits. -/
def hexLiteral? (cs : List Char) : Option Nat :=
  (hexNumber? (cs.drop 2)).bind fun n => if n < UInt32.size then some n else none

/-- A literal read as a double. Hexadecimal literals carry no sign, infinity and the undefined
number no plus, and a finite literal must not overflow. -/
def reading? (literal : String) : Option Reading :=
  match literal.toList with
  | '-' :: cs => match cs with
    | 'I' :: _ => some (.infinite true)
    | 'N' :: _ => some .nan
    | cs => if isHex cs then none else decimal true cs
  | '+' :: cs => match cs with
    | 'I' :: _ => none
    | 'N' :: _ => none
    | cs => if isHex cs then none else decimal false cs
  | 'I' :: _ => some (.infinite false)
  | 'N' :: _ => some .nan
  | cs =>
    if isHex cs then (hexLiteral? cs).bind fun n => (Binary64.ofInt? n).map .finite
    else decimal false cs
where
  decimal (negative : Bool) (cs : List Char) : Option Reading :=
    let (digits, exponent) := decimalParts cs
    (Binary64.ofDecimal? negative digits exponent).map .finite

/-- A reading as an unsigned 64-bit count: the fraction is dropped and the ends are clamped. -/
def Reading.count : Reading → Nat
  | .finite x => min x.truncate.toNat (UInt64.size - 1)
  | .infinite true => 0
  | .infinite false => UInt64.size - 1
  | .nan => 0

/-- Literals without point and exponent are integers; hexadecimal digits are no exponent. -/
def isIntegral (cs : List Char) : Bool :=
  !cs.contains '.' && (isHex cs || (!cs.contains 'e' && !cs.contains 'E'))

/-- A number as an untyped value: an integer of 64 bits or a double; what is not finite is
`null`. -/
def untypedNumber? (literal : String) : Option Json :=
  match literal.toList with
  | 'I' :: _ => some .null
  | 'N' :: _ => some .null
  | '-' :: 'I' :: _ => some .null
  | '-' :: 'N' :: _ => some .null
  | cs =>
    if isIntegral cs then
      let n? : Option Int := match cs with
        | '-' :: ds => if ds.all Decimal.isDigit then some (-(Decimal.value ds : Int)) else none
        | '+' :: ds => if ds.all Decimal.isDigit then some (Decimal.value ds : Int) else none
        | ds => if isHex ds then (hexLiteral? ds).map Int.ofNat else some (Decimal.value ds : Int)
      n?.bind fun n => if Json.fitsSigned n then some (.integer n) else none
    else
      match reading? literal with
      | some (.finite x) => some (.double x)
      | _ => none

/-- A number by the rules of JSON: integers of 64 bits, signed or not, are exact, every other
number is the nearest double, and so is minus zero. -/
def strictNumber? (literal : String) : Option Json :=
  let cs := literal.toList
  let exact : Option Int :=
    if isIntegral cs then
      match cs with
      | '-' :: ds => if Decimal.value ds = 0 then none else some (-(Decimal.value ds : Int))
      | ds => some (Decimal.value ds : Int)
    else none
  match exact with
  | some n => if Json.fitsSigned n || Json.fitsCount n then some (.integer n) else asDouble
  | none => asDouble
where
  asDouble : Option Json :=
    match reading? literal with
    | some (.finite x) => some (.double x)
    | _ => none

/-- A member put into an object: the last of equal names wins, and names ascend. -/
def putMember (name : String) (value : Json) (ms : List (String × Json)) : List (String × Json) :=
  let before := ms.takeWhile (·.1 < name)
  match ms.dropWhile (·.1 < name) with
  | [] => before ++ [(name, value)]
  | m :: after => if m.1 = name then before ++ (name, value) :: after
    else before ++ (name, value) :: m :: after

mutual

/-- The document as a JSON value, its numbers read by `number`. -/
def toJsonWith? (number : String → Option Json) : Json5 → Option Json
  | null => some .null
  | boolean b => some (.boolean b)
  | .number literal => number literal
  | string content => content.map .string
  | array xs => (elementsWith? number xs).map .array
  | object ms => (membersWith? number [] ms).map .object

/-- The elements of an array as JSON values. -/
def elementsWith? (number : String → Option Json) : List Json5 → Option (List Json)
  | [] => some []
  | x :: xs => do
    let y ← toJsonWith? number x
    let ys ← elementsWith? number xs
    return y :: ys

/-- The members of an object as JSON members, added to those before them. -/
def membersWith? (number : String → Option Json) (before : List (String × Json)) :
    List (Json5.Key × Json5) → Option (List (String × Json))
  | [] => some before
  | (key, x) :: ms => do
    let name ← key.name
    let y ← toJsonWith? number x
    membersWith? number (putMember name y before) ms

end

/-- The document as an untyped JSON value. -/
def untyped? (d : Json5) : Option Json := d.toJsonWith? untypedNumber?

end Json5

end TransitHub
