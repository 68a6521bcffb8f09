/-
# Points of the wall clock

A timestamp is a day, a second of that day and a nanosecond, in universal time. A leap second is
kept as the second before it with a nanosecond count of one milliard or more, so it sorts after
that second and before the next minute. Timestamps exist from the first day of year -262143 to
the last day of year 262142.

`since` is the signed distance of two timestamps and `plus` moves one; both are in nanoseconds.
Away from leap seconds they agree with arithmetic on `nanos`, the count from 1970.
-/

import TransitHub.Time.Span

namespace TransitHub

/-- A point of the wall clock in universal time. -/
@[ext] structure Timestamp where
  /-- Days from 1970-01-01. -/
  day : Int
  /-- Second of the day, leap seconds not counted. -/
  second : Nat
  /-- Nanosecond of the second; one milliard or more in a leap second. -/
  nano : Nat
  first_le : -96465292 ≤ day := by omega
  le_last : day ≤ 95026236 := by omega
  second_lt : second < 86400 := by omega
  nano_lt : nano < 2000000000 := by omega
  /-- A leap second follows the last second of a minute. -/
  leap_at_59 : nano < 1000000000 ∨ second % 60 = 59 := by omega
deriving DecidableEq

namespace Timestamp

/-- The start of 1970. -/
def epoch : Timestamp where
  day := 0
  second := 0
  nano := 0
  first_le := by decide
  le_last := by decide
  second_lt := by decide
  nano_lt := by decide
  leap_at_59 := by decide

/-- The last nanosecond that is no leap second. -/
def last : Timestamp := { day := 95026236, second := 86399, nano := 999999999 }

/-- Whether the timestamp lies in a leap second. -/
def isLeap (t : Timestamp) : Bool := 1000000000 ≤ t.nano

/-- Timestamps are ordered by day, then second, then nanosecond. -/
def le (a b : Timestamp) : Prop :=
  a.day < b.day ∨ a.day = b.day ∧ (a.second < b.second ∨ a.second = b.second ∧ a.nano ≤ b.nano)

instance : LE Timestamp := ⟨le⟩

instance : LT Timestamp := ⟨fun a b => ¬ b ≤ a⟩

instance (a b : Timestamp) : Decidable (a ≤ b) := by
  unfold LE.le instLE le; infer_instance

instance (a b : Timestamp) : Decidable (a < b) :=
  inferInstanceAs (Decidable (¬ b ≤ a))

theorem le_iff {a b : Timestamp} : a ≤ b ↔ a.day < b.day ∨ a.day = b.day ∧
    (a.second < b.second ∨ a.second = b.second ∧ a.nano ≤ b.nano) := Iff.rfl

theorem lt_iff_not_le {a b : Timestamp} : a < b ↔ ¬ b ≤ a := Iff.rfl

theorem le_refl (a : Timestamp) : a ≤ a := by rw [le_iff]; omega

theorem le_trans {a b c : Timestamp} (h : a ≤ b) (h' : b ≤ c) : a ≤ c := by
  rw [le_iff] at *; omega

theorem le_total (a b : Timestamp) : a ≤ b ∨ b ≤ a := by
  rw [le_iff, le_iff]; omega

theorem le_antisymm {a b : Timestamp} (h : a ≤ b) (h' : b ≤ a) : a = b := by
  rw [le_iff] at *; ext <;> omega

/-- The later of two timestamps. -/
def max (a b : Timestamp) : Timestamp := if a ≤ b then b else a

/-- The latest of some timestamps, if there is any. -/
def latest (ts : List Timestamp) : Option Timestamp :=
  ts.foldl (fun acc t => some (match acc with | none => t | some a => a.max t)) none

/-- Nanoseconds from the start of 1970, a leap second counted on top of the second before it. -/
def nanos (t : Timestamp) : Int := (t.day * 86400 + t.second) * 1000000000 + t.nano

/-- The timestamp a number of nanoseconds after 1970, if it lies in range; never a leap second. -/
def ofNanos? (n : Int) : Option Timestamp :=
  let day := n / 86400000000000
  let ofDay := n % 86400000000000
  if h : -96465292 ≤ day ∧ day ≤ 95026236 then
    some { day, second := (ofDay / 1000000000).toNat, nano := (ofDay % 1000000000).toNat
           first_le := h.1, le_last := h.2 }
  else none

/-- Seconds by which a leap second passed between two times of day moves their distance. -/
def leapBetween (a b : Timestamp) : Int :=
  if b.second < a.second then (if b.isLeap then 1 else 0)
  else if a.second < b.second then (if a.isLeap then -1 else 0)
  else 0

/-- The signed time from `earlier` to `t` in nanoseconds. -/
def since (t earlier : Timestamp) : Int :=
  t.nanos - earlier.nanos + t.leapBetween earlier * 1000000000

/-- `t` moved by `d` nanoseconds, if the result lies in range. Moving within a leap second stays
in it; moving out of it forgets it. -/
def plus? (t : Timestamp) (d : Int) : Option Timestamp :=
  if hleap : t.isLeap = false then ofNanos? (t.nanos + d)
  else if hout : 1000000000 ≤ d ∨ (0 < d ∧ 2000000000 ≤ t.nano + d) then
    ofNanos? (t.nanos - 1000000000 + d)
  else if hback : d ≤ -1000000000 then ofNanos? (t.nanos + d)
  else
    some { t with
      nano := (t.nano + d).toNat
      nano_lt := by have := t.nano_lt; omega
      leap_at_59 := by have := t.leap_at_59; simp [isLeap] at hleap; omega }

/-- Moving the wall clock, which stops at its limits. -/
def advance (t : Timestamp) (d : Int) : Timestamp := (t.plus? d).getD t

end Timestamp

/-- Both clocks at one moment. They stand still while an operation runs. -/
structure Clock where
  /-- The wall clock. -/
  wall : Timestamp
  /-- The monotonic clock. -/
  now : Instant

/-- Both clocks `d` later. -/
def Clock.advance (c : Clock) (d : Duration) : Clock := ⟨c.wall.advance d, c.now + d⟩

end TransitHub
