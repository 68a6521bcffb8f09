/-
# Reading back what was written

A timestamp is read back from its text as it was, whatever its year and also in a leap second. Each
part of the text is read by itself, up to what follows it: a number of fixed width by its digits, a
year by its sign or its four digits, a fraction by the number of its digits. So different timestamps
have different texts.
-/

import TransitHub.Time.Written

namespace TransitHub.Timestamp

open Decimal (padded tenTo)
open Text (isBlank skipBlank)

/-! ## Numbers -/

theorem isBlank_of_isDigit {c : Char} (h : Decimal.isDigit c = true) : isBlank c = false := by
  simp only [Decimal.isDigit, Bool.and_eq_true, decide_eq_true_eq, Char.le_def,
    UInt32.le_iff_toNat_le] at h
  have hlow : 48 ≤ c.toNat := h.1
  have hhigh : c.toNat ≤ 57 := h.2
  simp only [isBlank, Bool.or_eq_false_iff, Bool.and_eq_false_iff, decide_eq_false_iff_not]
  omega

theorem skipBlank_padded (width n : Nat) (rest : List Char) :
    skipBlank (padded width n ++ rest) = padded width n ++ rest := by
  obtain ⟨c, cs, hcs⟩ := List.exists_cons_of_ne_nil (Decimal.padded_ne_nil width n)
  have hdigit := Decimal.isDigit_padded c (hcs ▸ List.mem_cons_self)
  rw [hcs, List.cons_append, skipBlank, List.dropWhile_cons_of_neg]
  rw [isBlank_of_isDigit hdigit]
  exact Bool.false_ne_true

theorem takeWhile_padded (width n : Nat) :
    (padded width n).takeWhile Decimal.isDigit = padded width n := by
  rw [← List.append_nil (padded width n), List.takeWhile_append_of_pos Decimal.isDigit_padded,
    List.takeWhile_nil]

/-- A run of digits ends where something else follows. -/
theorem takeWhile_padded_append {width n : Nat} {c : Char} (hc : Decimal.isDigit c = false)
    (rest : List Char) :
    (padded width n ++ c :: rest).takeWhile Decimal.isDigit = padded width n := by
  rw [List.takeWhile_append_of_pos Decimal.isDigit_padded,
    List.takeWhile_cons_of_neg (by rw [hc]; exact Bool.false_ne_true), List.append_nil]

theorem readNumber_padded {width n : Nat} (hwidth : 0 < width) (h : n < tenTo width)
    (rest : List Char) : readNumber width (padded width n ++ rest) = some (n, rest) := by
  have htake : (padded width n ++ rest).take width = padded width n :=
    List.take_left' (Decimal.length_padded hwidth h)
  have hnonempty : (padded width n).isEmpty = false :=
    List.isEmpty_eq_false_iff.2 (Decimal.padded_ne_nil width n)
  unfold readNumber
  dsimp only
  rw [skipBlank_padded, htake, takeWhile_padded, hnonempty, Decimal.value_padded, List.drop_left]
  rfl

theorem readYear_writtenYear (y : Int) (rest : List Char) :
    readYear (writtenYear y ++ '-' :: rest) = some (y, '-' :: rest) := by
  have hsigned (sign : Int) (n : Nat) :
      readYear.signed sign (padded 4 n ++ '-' :: rest) = some (sign * n, '-' :: rest) := by
    have hnonempty : (padded 4 n).isEmpty = false :=
      List.isEmpty_eq_false_iff.2 (Decimal.padded_ne_nil 4 n)
    unfold readYear.signed
    dsimp only
    rw [takeWhile_padded_append rfl, hnonempty, Decimal.value_padded, List.drop_left]
    rfl
  unfold writtenYear
  split
  · next hplain =>
    have hbound : y.natAbs < tenTo 4 := by
      show y.natAbs < 10000
      omega
    have hread := readNumber_padded (by decide) hbound ('-' :: rest)
    obtain ⟨c, cs, hcs⟩ := List.exists_cons_of_ne_nil (Decimal.padded_ne_nil 4 y.natAbs)
    have hdigit := Decimal.isDigit_padded c (hcs ▸ List.mem_cons_self)
    unfold readYear
    rw [skipBlank_padded]
    rw [hcs] at hread ⊢
    split
    · next heq =>
      rw [(List.cons.inj heq).1] at hdigit
      exact absurd hdigit (by decide)
    · next heq =>
      rw [(List.cons.inj heq).1] at hdigit
      exact absurd hdigit (by decide)
    · rw [hread]
      simp only [Option.map_some, Option.some.injEq, Prod.mk.injEq, and_true]
      omega
  · next hplain =>
    split
    · next hneg =>
      refine (hsigned (-1) _).trans ?_
      simp only [Option.some.injEq, Prod.mk.injEq, and_true]
      omega
    · next hpos =>
      refine (hsigned 1 _).trans ?_
      simp only [Option.some.injEq, Prod.mk.injEq, and_true]
      omega

theorem readFraction_cons (rest : List Char) :
    readFraction ('.' :: rest) =
      let ds := rest.takeWhile Decimal.isDigit
      if ds.isEmpty then none
      else some (Decimal.value (ds.take 9) * tenTo (9 - (ds.take 9).length), rest.drop ds.length) :=
  rfl

/-- A fraction is read back from the digits that are written of it. -/
theorem readFraction_writtenFraction {n : Nat} (h : n < 1000000000) (rest : List Char) :
    readFraction (writtenFraction n ++ 'Z' :: rest) = some (n, 'Z' :: rest) := by
  have hdigits {width m : Nat} (hwidth : 0 < width) (hle : width ≤ 9) (hm : m < tenTo width) :
      readFraction ('.' :: (padded width m ++ 'Z' :: rest)) =
        some (m * tenTo (9 - width), 'Z' :: rest) := by
    have hlength := Decimal.length_padded hwidth hm
    have hnonempty : (padded width m).isEmpty = false :=
      List.isEmpty_eq_false_iff.2 (Decimal.padded_ne_nil width m)
    have hall : (padded width m).take 9 = padded width m := List.take_of_length_le (by omega)
    rw [readFraction_cons, takeWhile_padded_append rfl]
    dsimp only
    rw [hnonempty, hall, Decimal.value_padded, List.drop_left, hlength]
    rfl
  unfold writtenFraction
  split
  · next hnone => rw [hnone]; rfl
  · split
    · next hmillis =>
      have hm : n / 1000000 < tenTo 3 := by
        show n / 1000000 < 1000
        omega
      refine (hdigits (by decide) (by decide) hm).trans ?_
      rw [show n / 1000000 * tenTo (9 - 3) = n from
        Nat.div_mul_cancel (Nat.dvd_of_mod_eq_zero hmillis)]
    · split
      · next hmicros =>
        have hm : n / 1000 < tenTo 6 := by
          show n / 1000 < 1000000
          omega
        refine (hdigits (by decide) (by decide) hm).trans ?_
        rw [show n / 1000 * tenTo (9 - 6) = n from
          Nat.div_mul_cancel (Nat.dvd_of_mod_eq_zero hmicros)]
      · refine (hdigits (by decide) (Nat.le_refl 9) h).trans ?_
        rw [show n * tenTo (9 - 9) = n from Nat.mul_one n]

/-! ## Whole timestamps -/

theorem expect_cons {c : Char} (hc : Text.isBlank c = false) (rest : List Char) :
    expect c (c :: rest) = some rest := by
  have hskip : Text.skipBlank (c :: rest) = c :: rest :=
    List.dropWhile_cons_of_neg (by rw [hc]; exact Bool.false_ne_true)
  unfold expect
  rw [hskip]
  simp

theorem ofParts?_parts (t : Timestamp) : ofParts? t.day t.second t.nano = some t :=
  dif_pos ⟨⟨t.first_le, t.le_last⟩, t.second_lt, t.nano_lt, t.leap_at_59⟩

/-- The local parts of a timestamp in universal time are its own, a leap second being second 60. -/
theorem ofLocal?_parts (t : Timestamp) :
    ofLocal? (.ofDayNumber t.day) (t.second / 3600) (t.second / 60 % 60)
      (t.second % 60 + if t.isLeap then 1 else 0) (t.nano % 1000000000) 0 = some t := by
  have hday := Date.dayNumber_ofDayNumber t.day
  have hvalid : (Date.ofDayNumber t.day).isValid = true := by
    rw [Date.isValid, hday]
    simp [Date.ofDayNumber_bounds t.day]
  have hsecond := t.second_lt
  have hnano := t.nano_lt
  have hleap := t.leap_at_59
  generalize hcount : (if t.isLeap then 1 else 0 : Nat) = leap
  have hover : leap = 1 ∧ 1000000000 ≤ t.nano ∨ leap = 0 ∧ t.nano < 1000000000 := by
    by_cases hpast : 1000000000 ≤ t.nano
    · exact Or.inl ⟨by rw [← hcount, isLeap, decide_eq_true hpast]; rfl, hpast⟩
    · exact Or.inr ⟨by rw [← hcount, isLeap, decide_eq_false hpast]; rfl, by omega⟩
  have hsixty : (if t.second % 60 + leap = 60 then 1 else 0 : Nat) = leap := by
    split <;> omega
  have hofDay : t.second / 3600 * 3600 + t.second / 60 % 60 * 60 + (t.second % 60 + leap - leap) =
      t.second := by omega
  have hnanos : t.nano % 1000000000 + leap * 1000000000 = t.nano := by omega
  have hfloor : (t.day * 86400 + (t.second : Int) - 0) / 86400 = t.day := by omega
  have hrest : ((t.day * 86400 + (t.second : Int) - 0) % 86400).toNat = t.second := by omega
  unfold ofLocal?
  rw [if_pos ⟨hvalid, by omega, by omega, by omega⟩]
  dsimp only
  rw [hsixty, hofDay, hnanos, hday, ofParts?_parts, Option.bind_some, hfloor, hrest, ofParts?_parts]

/-- A timestamp is read back from its text as it was. -/
theorem read?_text (t : Timestamp) : read? t.text = some t := by
  obtain ⟨-, hmonth, hday⟩ := Date.ofDayNumber_bounds t.day
  have htext : t.text.toList = writtenYear (Date.ofDayNumber t.day).year ++ '-' ::
      (padded 2 (Date.ofDayNumber t.day).month ++ '-' ::
        (padded 2 (Date.ofDayNumber t.day).day ++ 'T' ::
          (padded 2 (t.second / 3600) ++ ':' :: (padded 2 (t.second / 60 % 60) ++ ':' ::
            (padded 2 (t.second % 60 + if t.isLeap then 1 else 0) ++
              (writtenFraction (t.nano % 1000000000) ++ ['Z'])))))) := by
    simp [text, writtenDate, writtenTime]
  have hnumber {n : Nat} (h : n < 100) (rest : List Char) :
      readNumber 2 (padded 2 n ++ rest) = some (n, rest) := readNumber_padded (by decide) h rest
  have hsecond := t.second_lt
  have hmonth' := hnumber (n := (Date.ofDayNumber t.day).month) (by omega)
  have hhour := hnumber (n := t.second / 3600) (by omega)
  have hminute := hnumber (n := t.second / 60 % 60) (by omega)
  have hsecond' := hnumber (n := t.second % 60 + if t.isLeap then 1 else 0) (by split <;> omega)
  have hfraction := readFraction_writtenFraction (Nat.mod_lt t.nano (by decide : 0 < 1000000000)) []
  have hend : readOffset ['Z'] = some (0, []) := rfl
  unfold read?
  rw [htext]
  simp only [Option.bind_eq_bind, Option.bind_some, readYear_writtenYear, expect_cons (c := '-') rfl,
    hmonth', hnumber hday, hhour, expect_cons (c := ':') rfl, hminute, hsecond', hfraction, hend]
  exact ofLocal?_parts t

/-- Different timestamps are written differently. -/
theorem text_inj {t t' : Timestamp} (h : t.text = t'.text) : t = t' := by
  have hread := congrArg read? h
  rw [read?_text, read?_text] at hread
  exact Option.some.inj hread

end TransitHub.Timestamp
