/-
# The shortest decimal that reads back

A positive double stands for all reals that round to it: an interval whose ends belong to it
exactly when its significand is even. On the grid of decimals with a given number of digits only
the two neighbours of the double can lie in the interval, so the first grid, counted from one
digit, with a neighbour inside it gives the fewest digits; of two such neighbours the nearer is
taken, and the even one of two equally near.

The text is positional from 0.00001 up to, and not including, ten quadrillions, with `.0` after an
integral value; outside that range it has an exponent with its sign.
-/

import TransitHub.Number.Binary64
import TransitHub.Text.Decimal

namespace TransitHub.Binary64

/-- Compares `a` times `10 ^ s` with `b` times `2 ^ p`, exactly. -/
def compareScaled (a : Nat) (s : Int) (b : Nat) (p : Int) : Ordering :=
  compare ((a * Decimal.tenTo s.toNat) <<< (-p).toNat) ((b * Decimal.tenTo (-s).toNat) <<< p.toNat)

/-- Whether the decimal `a` times `10 ^ s` rounds to the positive double `x`. -/
def holds (x : Binary64) (a : Nat) (s : Int) : Bool :=
  let m := x.significand
  let p := x.power - 2
  let below := if x.fraction = 0 ∧ 1 < x.exponent then 1 else 2
  let low := compareScaled a s (4 * m - below) p
  let high := compareScaled a s (4 * m + 2) p
  if m % 2 = 0 then low != .lt && high != .gt else low == .gt && high == .lt

/-- The integer part of a positive double divided by `10 ^ s`. -/
def quotient (x : Binary64) (s : Int) : Nat :=
  ((x.significand * Decimal.tenTo (-s).toNat) <<< x.power.toNat) /
    (Decimal.tenTo s.toNat <<< (-x.power).toNat)

/-- How many digits the integer part of a positive double has; zero or negative below one. -/
def magnitude (x : Binary64) : Int :=
  let guess := ((x.power + (Nat.log2 x.significand : Int)) * 30103) / 100000
  if x.quotient (guess + 1) ≠ 0 then guess + 2
  else if x.quotient guess ≠ 0 then guess + 1
  else guess

/-- The decimals with `n` digits that round to `x`: at most the two neighbours, the nearer first. -/
def candidate? (x : Binary64) (n : Nat) : Option (Nat × Int) :=
  let s := x.magnitude - n
  let a := x.quotient s
  match x.holds a s, x.holds (a + 1) s with
  | true, false => some (a, s)
  | false, true => some (a + 1, s)
  | false, false => none
  | true, true =>
    match compareScaled (2 * a + 1) s (2 * x.significand) x.power with
    | .gt => some (a, s)
    | .lt => some (a + 1, s)
    | .eq => some (if a % 2 = 0 then a else a + 1, s)

/-- The shortest decimal that rounds to a positive double, as digits and a power of ten. -/
def shortest (x : Binary64) : Nat × Int :=
  ((List.range 17).findSome? fun n => x.candidate? (n + 1)).getD (x.quotient (x.magnitude - 17), 0)

/-- Digits without zeros at the end, and how many were there. -/
def withoutTrailingZeros (ds : List Char) : List Char × Nat :=
  let kept := (ds.reverse.dropWhile (· = '0')).reverse
  (kept, ds.length - kept.length)

/-- The text of a positive double: `digits` are its significant digits, and `point` is the number of
them before the decimal point. -/
def layOut (digits : List Char) (point : Int) : List Char :=
  if -5 < point ∧ point ≤ 16 then
    if point ≤ 0 then '0' :: '.' :: (List.replicate (-point).toNat '0' ++ digits)
    else
      let whole := point.toNat
      let padded := digits ++ List.replicate (whole - digits.length) '0'
      let after := padded.drop whole
      padded.take whole ++ '.' :: (if after.isEmpty then ['0'] else after)
  else
    let exponent := point - 1
    let mantissa := digits.take 1 ++ (if digits.length ≤ 1 then [] else '.' :: digits.drop 1)
    mantissa ++ 'e' :: (if exponent < 0 then '-' else '+') :: Decimal.digits exponent.natAbs

def chars (x : Binary64) : List Char :=
  let sign := if x.negative then ['-'] else []
  if x.significand = 0 then sign ++ ['0', '.', '0']
  else
    let (d, s) := x.shortest
    let (ds, zeros) := withoutTrailingZeros (Decimal.digits d)
    sign ++ layOut ds (ds.length + zeros + s)

end TransitHub.Binary64
