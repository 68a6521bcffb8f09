/-
# The proleptic Gregorian calendar

Days are numbered from 1970-01-01. A year is counted from March, so that the leap day is its
last, and years are grouped in eras of 400, which all have the same number of days. A written
date is valid exactly when the day it numbers is written in the same way, so February 30 is
refused without a table of month lengths.
-/

namespace TransitHub

/-- A day as it is written: year, month 1 to 12, day of the month. -/
structure Date where
  year : Int
  month : Nat
  day : Nat
deriving DecidableEq

namespace Date

/-- Years from March to February: January and February belong to the year before. -/
def marchYear (d : Date) : Int := if d.month ≤ 2 then d.year - 1 else d.year

/-- Months from March: March is 0 and February is 11. -/
def marchMonth (d : Date) : Int := if d.month ≤ 2 then (d.month : Int) + 9 else (d.month : Int) - 3

/-- The number of days from 1970-01-01 to this date. -/
def dayNumber (d : Date) : Int :=
  let era := d.marchYear / 400
  let yearOfEra := d.marchYear % 400
  let dayOfYear := (153 * d.marchMonth + 2) / 5 + (d.day : Int) - 1
  era * 146097 + (yearOfEra * 365 + yearOfEra / 4 - yearOfEra / 100 + dayOfYear) - 719468

/-- The date of the day with the given number. An era is three centuries of 36524 days and one of
36525, a century is quartets of 1461 days, and a quartet is three years of 365 days and one of
366. -/
def ofDayNumber (n : Int) : Date :=
  let era := (n + 719468) / 146097
  let dayOfEra := (n + 719468) % 146097
  let century := min (dayOfEra / 36524) 3
  let dayOfCentury := dayOfEra - 36524 * century
  let quartet := dayOfCentury / 1461
  let dayOfQuartet := dayOfCentury - 1461 * quartet
  let year := min (dayOfQuartet / 365) 3
  let dayOfYear := dayOfQuartet - 365 * year
  let month := (5 * dayOfYear + 2) / 153
  let day := (dayOfYear - (153 * month + 2) / 5 + 1).toNat
  let marchYear := era * 400 + century * 100 + quartet * 4 + year
  if month < 10 then ⟨marchYear, (month + 3).toNat, day⟩
  else ⟨marchYear + 1, (month - 9).toNat, day⟩

/-- A date is valid when the day it numbers is written in the same way. -/
def isValid (d : Date) : Bool := 1 ≤ d.month && d.month ≤ 12 && ofDayNumber d.dayNumber = d

/-- Numbering the date of a day gives that day back. -/
theorem dayNumber_ofDayNumber (n : Int) : (ofDayNumber n).dayNumber = n := by
  simp only [ofDayNumber]
  generalize hera : (n + 719468) / 146097 = era
  generalize hdoe : (n + 719468) % 146097 = doe
  generalize hc : min (doe / 36524) 3 = century
  generalize hdoc : doe - 36524 * century = doc
  generalize hq : doc / 1461 = quartet
  generalize hdoq : doc - 1461 * quartet = doq
  generalize hy : min (doq / 365) 3 = year
  generalize hdoy : doq - 365 * year = doy
  generalize hm : (5 * doy + 2) / 153 = m
  have hn : n = era * 146097 + doe - 719468 := by omega
  have hcentury : 0 ≤ century ∧ century ≤ 3 ∧ 0 ≤ doc ∧ doc ≤ 36524 := by omega
  have hquartet : 0 ≤ quartet ∧ quartet ≤ 24 ∧ 0 ≤ doq ∧ doq ≤ 1460 := by omega
  have hyear : 0 ≤ year ∧ year ≤ 3 ∧ 0 ≤ doy ∧ doy ≤ 365 := by omega
  have hmonth : 0 ≤ m ∧ m < 12 := by omega
  have hday : 0 ≤ doy - (153 * m + 2) / 5 := by omega
  have hfour : (era * 400 + century * 100 + quartet * 4 + year) / 400 = era := by omega
  have hyoe : (era * 400 + century * 100 + quartet * 4 + year) % 400 =
      century * 100 + quartet * 4 + year := by omega
  have hquarter : (century * 100 + quartet * 4 + year) / 4 = century * 25 + quartet := by omega
  have hhundred : (century * 100 + quartet * 4 + year) / 100 = century := by omega
  split
  · simp only [dayNumber, marchYear, marchMonth]
    rw [if_neg (by omega), if_neg (by omega), hfour, hyoe, hquarter, hhundred]
    rw [show (((m + 3).toNat : Int) - 3) = m by omega]
    omega
  · simp only [dayNumber, marchYear, marchMonth]
    rw [if_pos (by omega), if_pos (by omega), Int.add_sub_cancel, hfour, hyoe, hquarter, hhundred]
    rw [show (((m - 9).toNat : Int) + 9) = m by omega]
    omega

/-- The month of a day is one of twelve, and its day has at most two digits. -/
theorem ofDayNumber_bounds (n : Int) :
    1 ≤ (ofDayNumber n).month ∧ (ofDayNumber n).month ≤ 12 ∧ (ofDayNumber n).day < 100 := by
  simp only [ofDayNumber]
  generalize hdoe : (n + 719468) % 146097 = doe
  generalize hc : min (doe / 36524) 3 = century
  generalize hdoc : doe - 36524 * century = doc
  generalize hq : doc / 1461 = quartet
  generalize hdoq : doc - 1461 * quartet = doq
  generalize hy : min (doq / 365) 3 = year
  generalize hdoy : doq - 365 * year = doy
  generalize hm : (5 * doy + 2) / 153 = m
  have hcentury : 0 ≤ doc ∧ doc ≤ 36524 := by omega
  have hquartet : 0 ≤ doq ∧ doq ≤ 1460 := by omega
  have hyear : 0 ≤ doy ∧ doy ≤ 365 := by omega
  split <;> refine ⟨?_, ?_, ?_⟩ <;> dsimp only <;> omega

end Date

end TransitHub
