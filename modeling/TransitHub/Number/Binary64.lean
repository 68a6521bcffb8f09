/-
# Finite double-precision numbers

A finite IEEE double is a sign, an eleven-bit exponent and a fifty-two-bit fraction. Infinities and
NaN are not members of the type: every document that holds a number holds a finite one. Rounding
is to the nearest double, ties to the even significand, done on exact ratios of naturals; a ratio
too large for the format has no double.
-/

import TransitHub.Text.Decimal

namespace TransitHub

/-- A finite double-precision number; positive and negative zero differ. -/
structure Binary64 where
  negative : Bool
  /-- The biased exponent. -/
  exponent : Nat
  fraction : Nat
  exponent_lt : exponent < 2047
  fraction_lt : fraction < 4503599627370496
deriving DecidableEq

namespace Binary64

/-- Zero with the given sign. -/
def zero (negative : Bool) : Binary64 := ⟨negative, 0, 0, by decide, by decide⟩

/-- The integer significand: a double is its significand times a power of two. -/
def significand (x : Binary64) : Nat :=
  if x.exponent = 0 then x.fraction else 4503599627370496 + x.fraction

/-- The power of two that the significand is multiplied by. -/
def power (x : Binary64) : Int := (max x.exponent 1 : Nat) - 1075

/-- The quotient rounded to the nearest natural, a half to the even one. -/
def nearest (num den : Nat) : Nat :=
  let q := num / den
  let r := num % den
  if 2 * r < den ∨ (2 * r = den ∧ q % 2 = 0) then q else q + 1

/-- Numerator and denominator of a ratio divided by a power of two. -/
def scaled (num den : Nat) (p : Int) : Nat × Nat :=
  if 0 ≤ p then (num, den <<< p.toNat) else (num <<< (-p).toNat, den)

/-- The largest power of two not above a positive ratio. -/
def binade (num den : Nat) : Int :=
  let guess := (Nat.log2 num : Int) - Nat.log2 den
  let (n, d) := scaled num den guess
  if n < d then guess - 1 else guess

/-- The double nearest to a ratio, if it is not too large. -/
def ofRatio? (negative : Bool) (num den : Nat) : Option Binary64 :=
  if num = 0 then some (zero negative)
  else
    let p := max (binade num den - 52) (-1074)
    let (n, d) := scaled num den p
    let m := nearest n d
    let (m, p) := if m = 9007199254740992 then (4503599627370496, p + 1) else (m, p)
    let (e, f) := if m < 4503599627370496 then (0, m) else ((p + 1075).toNat, m - 4503599627370496)
    if h : e < 2047 ∧ f < 4503599627370496 then some ⟨negative, e, f, h.1, h.2⟩ else none

/-- The double nearest to `digits` times a power of ten, if it is not too large. -/
def ofDecimal? (negative : Bool) (digits : Nat) (exponent : Int) : Option Binary64 :=
  let size := ((Nat.toDigits 10 digits).length : Int) + exponent
  if digits = 0 ∨ size < -400 then some (zero negative)
  else if 400 < size then none
  else if 0 ≤ exponent then ofRatio? negative (digits * Decimal.tenTo exponent.toNat) 1
  else ofRatio? negative digits (Decimal.tenTo (-exponent).toNat)

/-- The double nearest to an integer, if it is not too large; zero is positive. -/
def ofInt? (n : Int) : Option Binary64 := ofRatio? (decide (n < 0)) n.natAbs 1

/-- The integer part, towards zero. -/
def truncate (x : Binary64) : Int :=
  let size : Nat :=
    if 0 ≤ x.power then x.significand <<< x.power.toNat
    else x.significand >>> (-x.power).toNat
  if x.negative then -size else size

end Binary64

end TransitHub
