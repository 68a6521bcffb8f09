/-
# Decimal digits

Digit strings are lists of characters, so that what is written and what is read back can be
compared by induction. `padded` writes at least a given number of digits; `value` reads any
run of digits, leading zeros included.
-/

namespace TransitHub.Decimal

/-- The digits of a natural number, most significant first; zero is one digit. -/
def digits (n : Nat) : List Char := Nat.toDigits 10 n

/-- The digits of `n`, with leading zeros up to `width` characters. -/
def padded (width n : Nat) : List Char :=
  List.replicate (width - (digits n).length) '0' ++ digits n

/-- The number that a run of digits denotes. -/
def value (cs : List Char) : Nat :=
  cs.foldl (fun v c => 10 * v + (c.toNat - '0'.toNat)) 0

def tenTo (n : Nat) : Nat := Nat.pow 10 n

/-- A natural number as text. -/
def text (n : Nat) : String := String.ofList (digits n)

/-- The characters `0` to `9`. -/
def isDigit (c : Char) : Bool := '0' ≤ c && c ≤ '9'

/-- The digits at the front of a text and what follows them. -/
def span (cs : List Char) : List Char × List Char :=
  (cs.takeWhile isDigit, cs.dropWhile isDigit)

theorem isDigit_digits {n : Nat} : ∀ c ∈ digits n, isDigit c = true := by
  intro c hc
  have hdigit : c.isDigit = true := Nat.isDigit_of_mem_toDigits (by decide) (by decide) hc
  simpa [Char.isDigit, isDigit, Char.le_def] using hdigit

theorem isDigit_padded {width n : Nat} : ∀ c ∈ padded width n, isDigit c = true := by
  intro c hc
  rcases List.mem_append.1 hc with hzero | hdigit
  · rw [(List.mem_replicate.1 hzero).2]
    rfl
  · exact isDigit_digits c hdigit

/-- Reading the digits of a number gives it back. -/
theorem value_digits (n : Nat) : value (digits n) = n :=
  Nat.ofDigitChars_toDigits (by decide) (by decide)

theorem digits_inj {n n' : Nat} (h : digits n = digits n') : n = n' := by
  rw [← value_digits n, h, value_digits]

/-- Leading zeros do not count. -/
theorem value_padded (width n : Nat) : value (padded width n) = n := by
  have hzeros (k : Nat) : value (List.replicate k '0' ++ digits n) = value (digits n) := by
    induction k with
    | zero => rfl
    | succ k ih => exact ih
  rw [padded, hzeros, value_digits]

theorem length_padded {width n : Nat} (hwidth : 0 < width) (h : n < tenTo width) :
    (padded width n).length = width := by
  have hlength : (digits n).length ≤ width :=
    (Nat.length_toDigits_le_iff (by decide) hwidth).2 h
  rw [padded, List.length_append, List.length_replicate]
  omega

theorem padded_ne_nil (width n : Nat) : padded width n ≠ [] :=
  List.append_ne_nil_of_right_ne_nil _ Nat.toDigits_ne_nil

end TransitHub.Decimal
