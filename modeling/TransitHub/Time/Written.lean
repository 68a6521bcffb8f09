/-
# Written timestamps

A timestamp is written `2024-05-01T12:00:00Z`. The fraction has three, six or nine digits, the
fewest that are exact, and is left out when it is zero; a leap second has second 60; a year outside
0 to 9999 carries its sign.

Reading is more liberal than writing: one or two digits for each part, blanks before each part and
each separator, a blank or a small `t` between date and time, any fraction, and an offset from
universal time. A date must exist, and both the local and the universal day must be in range.
-/

import TransitHub.Text.Blank
import TransitHub.Time.Calendar
import TransitHub.Time.Timestamp

namespace TransitHub.Timestamp

open Text (skipBlank)

/-- A year: four digits, or a sign and at least four digits outside 0 to 9999. -/
def writtenYear (y : Int) : List Char :=
  if 0 ≤ y ∧ y ≤ 9999 then Decimal.padded 4 y.natAbs
  else (if y < 0 then '-' else '+') :: Decimal.padded 4 y.natAbs

/-- Nanoseconds as a fraction of three, six or nine digits; nothing for none. -/
def writtenFraction (n : Nat) : List Char :=
  if n = 0 then []
  else if n % 1000000 = 0 then '.' :: Decimal.padded 3 (n / 1000000)
  else if n % 1000 = 0 then '.' :: Decimal.padded 6 (n / 1000)
  else '.' :: Decimal.padded 9 n

/-- The date, as year, month and day. -/
def writtenDate (t : Timestamp) : List Char :=
  let d := Date.ofDayNumber t.day
  writtenYear d.year ++ '-' :: Decimal.padded 2 d.month ++ '-' :: Decimal.padded 2 d.day

/-- The time of day with its fraction; a leap second is second 60. -/
def writtenTime (t : Timestamp) : List Char :=
  let leap := if t.isLeap then 1 else 0
  Decimal.padded 2 (t.second / 3600) ++ ':' :: Decimal.padded 2 (t.second / 60 % 60) ++
    ':' :: Decimal.padded 2 (t.second % 60 + leap) ++ writtenFraction (t.nano % 1000000000)

/-- Date and time joined by `T` and closed by `Z`: the form used in documents. -/
def text (t : Timestamp) : String :=
  String.ofList (t.writtenDate ++ 'T' :: t.writtenTime ++ ['Z'])

/-- The form used for response timestamps, with the offset written as digits. -/
def offsetText (t : Timestamp) : String :=
  String.ofList (t.writtenDate ++ 'T' :: t.writtenTime) ++ "+00:00"

/-- The form used in sentences. -/
def sentenceText (t : Timestamp) : String :=
  String.ofList (t.writtenDate ++ ' ' :: t.writtenTime) ++ " UTC"

/-- Between one and `most` digits, read as a number; blanks may stand before them. -/
def readNumber (most : Nat) (cs : List Char) : Option (Nat × List Char) :=
  let cs := skipBlank cs
  let ds := (cs.take most).takeWhile Decimal.isDigit
  if ds.isEmpty then none else some (Decimal.value ds, cs.drop ds.length)

/-- A year: up to four digits, or a sign and any number of digits. -/
def readYear (cs : List Char) : Option (Int × List Char) :=
  match skipBlank cs with
  | '-' :: rest => signed (-1) rest
  | '+' :: rest => signed 1 rest
  | rest => (readNumber 4 rest).map fun (n, rest) => ((n : Int), rest)
where
  signed (sign : Int) (rest : List Char) : Option (Int × List Char) :=
    let ds := rest.takeWhile Decimal.isDigit
    if ds.isEmpty then none else some (sign * Decimal.value ds, rest.drop ds.length)

/-- The character `c`, with blanks allowed before it. -/
def expect (c : Char) (cs : List Char) : Option (List Char) :=
  match skipBlank cs with
  | [] => none
  | d :: rest => if d = c then some rest else none

/-- A fraction of a second in nanoseconds; digits past the ninth are read and dropped. -/
def readFraction (cs : List Char) : Option (Nat × List Char) :=
  match cs with
  | '.' :: rest =>
    let ds := rest.takeWhile Decimal.isDigit
    if ds.isEmpty then none
    else
      let kept := ds.take 9
      some (Decimal.value kept * Decimal.tenTo (9 - kept.length), rest.drop ds.length)
  | rest => some (0, rest)

def readTwo (cs : List Char) : Option (Nat × List Char) :=
  match cs with
  | a :: b :: rest =>
    if Decimal.isDigit a && Decimal.isDigit b then some (Decimal.value [a, b], rest) else none
  | _ => none

/-- An offset from universal time in seconds: `Z`, `UTC`, or a sign, hours and minutes. -/
def readOffset (cs : List Char) : Option (Int × List Char) :=
  match skipBlank cs with
  | 'Z' :: rest => some (0, rest)
  | 'z' :: rest => some (0, rest)
  | '+' :: rest => digits 1 rest
  | '-' :: rest => digits (-1) rest
  | '\u2212' :: rest => digits (-1) rest
  | u :: t :: c :: rest =>
    if u.toUpper = 'U' ∧ t.toUpper = 'T' ∧ c.toUpper = 'C' then some (0, rest) else none
  | _ => none
where
  digits (sign : Int) (rest : List Char) : Option (Int × List Char) := do
    let (hours, rest) ← readTwo rest
    let (minutes, rest) ← readTwo (rest.dropWhile fun c => c = ':' || Text.isBlank c)
    if hours < 24 ∧ minutes < 60 then some (sign * (hours * 3600 + minutes * 60 : Nat), rest)
    else none

/-- The timestamp with these parts, if they are within their bounds. -/
def ofParts? (day : Int) (second nano : Nat) : Option Timestamp :=
  if h : (-96465292 ≤ day ∧ day ≤ 95026236) ∧ second < 86400 ∧ nano < 2000000000 ∧
      (nano < 1000000000 ∨ second % 60 = 59) then
    some { day, second, nano
           first_le := h.1.1, le_last := h.1.2, second_lt := h.2.1, nano_lt := h.2.2.1
           leap_at_59 := h.2.2.2 }
  else none

/-- The timestamp with a local date and time of day and an offset from universal time. -/
def ofLocal? (date : Date) (hour minute second nano : Nat) (offset : Int) : Option Timestamp :=
  if date.isValid ∧ hour < 24 ∧ minute < 60 ∧ second ≤ 60 then
    let leap := if second = 60 then 1 else 0
    let ofDay := hour * 3600 + minute * 60 + (second - leap)
    (ofParts? date.dayNumber ofDay (nano + leap * 1000000000)).bind fun t =>
      let total := t.day * 86400 + t.second - offset
      ofParts? (total / 86400) (total % 86400).toNat t.nano
  else none

/-- Read a timestamp that fills the whole text, blanks at its ends apart. -/
def read? (s : String) : Option Timestamp := do
  let (year, rest) ← readYear s.toList
  let rest ← expect '-' rest
  let (month, rest) ← readNumber 2 rest
  let rest ← expect '-' rest
  let (day, rest) ← readNumber 2 rest
  let rest ← match rest with
    | 'T' :: rest => some rest
    | 't' :: rest => some rest
    | ' ' :: rest => some rest
    | _ => none
  let (hour, rest) ← readNumber 2 rest
  let rest ← expect ':' rest
  let (minute, rest) ← readNumber 2 rest
  let rest ← expect ':' rest
  let (second, rest) ← readNumber 2 rest
  let (nano, rest) ← readFraction rest
  let (offset, rest) ← readOffset rest
  if (skipBlank rest).isEmpty then ofLocal? ⟨year, month, day⟩ hour minute second nano offset
  else none

end TransitHub.Timestamp
