/-
# Reading compact text back

A reader for the text that the printer writes, and for nothing more lenient: there are no blanks in
it, and a number is the longest run of characters that numbers are written with. How a fraction
becomes a double is left to `round`, which gets the sign, the digits and a power of ten.

The printer and this reader are a lawful codec. What is read is what was printed, with its members
in the same order, and every double as `round` reads its digits. Fuel is spent on every value and on
every element; the length of the text bounds both.
-/

import TransitHub.Json5.Basic
import TransitHub.Proofs.Json.Exchange
import TransitHub.Proofs.Json.Text

namespace TransitHub.Json

/-- A way to round digits times a power of ten to a double. -/
abbrev Rounding := (negative : Bool) → (digits : Nat) → (exponent : Int) → Binary64

variable {round : Rounding} {fuel : Nat}

/-! ## The reader -/

/-- What follows a character at the front of a text. -/
def after? (c : Char) : List Char → Option (List Char)
  | [] => none
  | c' :: r => if c' = c then some r else none

/-- What follows the comma before all but the first of a list. -/
def next? (first : Bool) (cs : List Char) : Option (List Char) :=
  if first then some cs else after? ',' cs

/-- A value of which there is one text, at the front of a text. -/
def readWord (j : Json) (cs : List Char) : Option (Json × List Char) :=
  if j.chars <+: cs then some (j, cs.drop j.chars.length) else none

/-- The characters of a number without its sign. -/
def unsigned (cs : List Char) : List Char := (after? '-' cs).getD cs

/-- A run of numerals as a double. -/
def roundedChars (round : Rounding) (cs : List Char) : Binary64 :=
  let (digits, exponent) := Json5.decimalParts (unsigned cs)
  round (cs.head? = some '-') digits exponent

/-- A run of numerals as a number: a double if it has a point or an exponent. -/
def readNumerals (round : Rounding) (cs : List Char) : Json :=
  if '.' ∈ cs ∨ 'e' ∈ cs then double (roundedChars round cs)
  else if cs.head? = some '-' then integer (-(Decimal.value (unsigned cs) : Int))
  else integer (Decimal.value cs)

/-- The characters up to the closing quote. -/
def readQuoted : (fuel : Nat) → List Char → Option (List Char × List Char)
  | 0, _ => none
  | fuel + 1, cs =>
    match unescape cs with
    | none => (after? '"' cs).map ([], ·)
    | some (c, r) => (readQuoted fuel r).map (Prod.map (c :: ·) id)

mutual

/-- The value at the front of a text, and what follows it. -/
def readValue (round : Rounding) : (fuel : Nat) → List Char → Option (Json × List Char)
  | 0, _ => none
  | fuel + 1, cs =>
    match cs.head?.bind Shape.ofFirst with
    | none => none
    | some .null => readWord null cs
    | some (.boolean b) => readWord (boolean b) cs
    | some .number => some (readNumerals round (cs.takeWhile isNumeral), cs.dropWhile isNumeral)
    | some .string => (readQuoted fuel cs.tail).map (Prod.map (string ∘ String.ofList) id)
    | some .array => (readElements round true fuel cs.tail).map (Prod.map array id)
    | some .object => (readMembers round true fuel cs.tail).map (Prod.map object id)

/-- The elements up to the closing bracket. -/
def readElements (round : Rounding) (first : Bool) :
    (fuel : Nat) → List Char → Option (List Json × List Char)
  | 0, _ => none
  | fuel + 1, cs =>
    match after? ']' cs with
    | some r => some ([], r)
    | none => do
      let cs ← next? first cs
      let (x, cs) ← readValue round fuel cs
      let (xs, cs) ← readElements round false fuel cs
      return (x :: xs, cs)

/-- The members up to the closing brace. -/
def readMembers (round : Rounding) (first : Bool) :
    (fuel : Nat) → List Char → Option (List (String × Json) × List Char)
  | 0, _ => none
  | fuel + 1, cs =>
    match after? '\x7d' cs with
    | some r => some ([], r)
    | none => do
      let cs ← next? first cs
      let cs ← after? '"' cs
      let (name, cs) ← readQuoted fuel cs
      let cs ← after? ':' cs
      let (x, cs) ← readValue round fuel cs
      let (ms, cs) ← readMembers round false fuel cs
      return ((String.ofList name, x) :: ms, cs)

end

/-- The document that a text is, if there is nothing after it. -/
def readCompact? (round : Rounding) (text : String) : Option Json :=
  match readValue round (2 * text.length + 1) text.toList with
  | some (j, []) => some j
  | _ => none

/-- Rounding in steps: the digits and the power of ten become doubles first, and what these make is
rounded again. Most doubles come back, but not all. A number too large for a double is read as
zero. -/
def Rounding.stepwise : Rounding := fun negative digits exponent =>
  let rounded (n : Nat) : Nat := (((Binary64.ofInt? n).map Binary64.truncate).getD 0).toNat
  let scale := rounded (Decimal.tenTo exponent.natAbs)
  let nearest? :=
    if 0 ≤ exponent then Binary64.ofRatio? negative (rounded digits * scale) 1
    else Binary64.ofRatio? negative (rounded digits) scale
  nearest?.getD (.zero negative)

/-- Compact text, with a way to round. -/
def Codec.compact (round : Rounding) : Codec where
  write := text
  read := readCompact? round

/-! ## Numbers and strings -/

theorem after?_cons (c : Char) (r : List Char) : after? c (c :: r) = some r := if_pos rfl

theorem after?_cons_of_ne {c c' : Char} (h : c' ≠ c) (r : List Char) : after? c (c' :: r) = none :=
  if_neg h

theorem next?_append (first : Bool) (r : List Char) :
    next? first ((if first then [] else [',']) ++ r) = some r := by
  cases first <;> rfl

theorem readWord_append (j : Json) (r : List Char) : readWord j (j.chars ++ r) = some (j, r) := by
  rw [readWord, if_pos (List.prefix_append _ _), List.drop_left]

theorem readNumerals_integer (n : Int) : readNumerals round (integerChars n) = integer n := by
  have hfree {c : Char} (hc : Decimal.isDigit c = false) (m : Nat) : c ∉ Decimal.digits m :=
    fun hmem => absurd (Decimal.isDigit_digits c hmem) (by rw [hc]; exact Bool.false_ne_true)
  have hpoint : '.' ∉ Decimal.digits n.natAbs := hfree rfl _
  have hexponent : 'e' ∉ Decimal.digits n.natAbs := hfree rfl _
  have hplain : (Decimal.digits n.natAbs).head? ≠ some '-' := fun hhead =>
    hfree (c := '-') rfl _ (List.mem_of_mem_head? hhead)
  unfold integerChars
  split
  · have hvalue : unsigned ('-' :: Decimal.digits n.natAbs) = Decimal.digits n.natAbs := by
      rw [unsigned, after?_cons, Option.getD_some]
    rw [readNumerals, if_neg (by simp [hpoint, hexponent]), List.head?_cons, if_pos rfl, hvalue,
      Decimal.value_digits]
    congr 1
    omega
  · rw [readNumerals, if_neg (by simp [hpoint, hexponent]), if_neg hplain, Decimal.value_digits]
    congr 1
    omega

theorem point_or_exponent (x : Binary64) : '.' ∈ x.chars ∨ 'e' ∈ x.chars := by
  have hlayOut (ds : List Char) (point : Int) :
      '.' ∈ Binary64.layOut ds point ∨ 'e' ∈ Binary64.layOut ds point := by
    unfold Binary64.layOut
    dsimp only
    split
    · split <;> simp
    · simp
  unfold Binary64.chars
  dsimp only
  split
  · simp
  · simp only [List.mem_append]
    exact (hlayOut _ _).imp Or.inr Or.inr

theorem readNumerals_double (x : Binary64) :
    readNumerals round x.chars = double (roundedChars round x.chars) :=
  if_pos (point_or_exponent x)

theorem readQuoted_escaped (cs r : List Char) :
    ∀ fuel, (cs.flatMap escaped ++ '"' :: r).length < fuel →
      readQuoted fuel (cs.flatMap escaped ++ '"' :: r) = some (cs, r) := by
  induction cs with
  | nil =>
    intro fuel hfuel
    obtain ⟨fuel, rfl⟩ := Nat.exists_eq_add_of_lt hfuel
    rfl
  | cons c cs ih =>
    intro fuel hfuel
    have hlength : 1 ≤ (escaped c).length := by
      unfold escaped
      repeat' split
      all_goals simp
    rw [List.flatMap_cons, List.append_assoc] at hfuel ⊢
    obtain ⟨fuel, rfl⟩ : ∃ n, fuel = n + 1 := ⟨fuel - 1, by omega⟩
    rw [readQuoted, unescape_escaped]
    rw [List.length_append] at hfuel
    simp only [ih fuel (by omega)]
    rfl

/-! ## Values -/

/-- What the reader makes of a double. -/
def rereadBy (round : Rounding) (x : Binary64) : Binary64 := roundedChars round x.chars

/-- An element or the end of a list, as the first character tells. -/
theorem after?_chars (j : Json) {c : Char} (hc : Shape.ofFirst c = none) (r : List Char) :
    after? c (j.chars ++ r) = none := by
  obtain ⟨c', cs, hcs, hshape⟩ := first_chars j
  have hne : c' ≠ c := by
    rintro rfl
    exact absurd (hc.symm.trans hshape) (by simp)
  rw [hcs]
  exact after?_cons_of_ne hne _

theorem readValue_numerals {j : Json} (hshape : j.shape = .number) {r : List Char} (hr : Ends r) :
    readValue round (fuel + 1) (j.chars ++ r) = some (readNumerals round j.chars, r) := by
  obtain ⟨c, cs, hcs, hfirst⟩ := first_chars j
  have hall := isNumeral_chars hshape
  have hrun : (j.chars ++ r).takeWhile isNumeral = j.chars := by
    rw [List.takeWhile_append_of_pos hall, hr, List.append_nil]
  have hrest : (j.chars ++ r).dropWhile isNumeral = r := by
    have hwhole := List.takeWhile_append_dropWhile (p := isNumeral) (l := j.chars ++ r)
    rw [hrun] at hwhole
    exact List.append_cancel_left hwhole
  have hhead : (j.chars ++ r).head?.bind Shape.ofFirst = some .number := by
    rw [hcs, ← hshape]
    exact hfirst
  rw [readValue, hhead, hrun, hrest]

mutual

/-- The reader takes a value as far as it goes. -/
theorem readValue_chars (j : Json) (fuel : Nat) (r : List Char) (hr : Ends r)
    (hfuel : 2 * (j.chars ++ r).length < fuel) :
    readValue round fuel (j.chars ++ r) = some (j.withDoubles (rereadBy round), r) := by
  obtain ⟨fuel, rfl⟩ : ∃ n, fuel = n + 1 := ⟨fuel - 1, by omega⟩
  match j with
  | null => exact readWord_append null r
  | boolean true => exact readWord_append (boolean true) r
  | boolean false => exact readWord_append (boolean false) r
  | integer n =>
    rw [readValue_numerals rfl hr]
    exact congrArg (fun j => some (j, r)) (readNumerals_integer n)
  | double x =>
    rw [readValue_numerals rfl hr]
    exact congrArg (fun j => some (j, r)) (readNumerals_double x)
  | string s =>
    have hquoted : (string s).chars ++ r = '"' :: (s.toList.flatMap escaped ++ '"' :: r) := by
      simp [chars, quoted]
    rw [hquoted, List.length_cons] at hfuel
    have hread : readQuoted fuel (s.toList.flatMap escaped ++ '"' :: r) = some (s.toList, r) :=
      readQuoted_escaped s.toList r fuel (by omega)
    rw [hquoted]
    show (readQuoted fuel (s.toList.flatMap escaped ++ '"' :: r)).map _ = _
    rw [hread, Option.map_some, Prod.map, Function.comp, String.ofList_toList]
    rfl
  | array xs =>
    have hopen : (array xs).chars ++ r = '[' :: (elementChars true xs ++ r) := rfl
    rw [hopen, List.length_cons] at hfuel
    show (readElements round true fuel (elementChars true xs ++ r)).map _ = _
    rw [readElements_chars true xs fuel r (by omega)]
    rfl
  | object ms =>
    have hopen : (object ms).chars ++ r = '\x7b' :: (memberChars true ms ++ r) := rfl
    rw [hopen, List.length_cons] at hfuel
    show (readMembers round true fuel (memberChars true ms ++ r)).map _ = _
    rw [readMembers_chars true ms fuel r (by omega)]
    rfl

theorem readElements_chars (first : Bool) (xs : List Json) (fuel : Nat) (r : List Char)
    (hfuel : 2 * (elementChars first xs ++ r).length + 1 < fuel) :
    readElements round first fuel (elementChars first xs ++ r) =
      some (elementsWithDoubles (rereadBy round) xs, r) := by
  obtain ⟨fuel, rfl⟩ : ∃ n, fuel = n + 1 := ⟨fuel - 1, by omega⟩
  match xs with
  | [] => rfl
  | x :: xs =>
    rw [elementChars_cons] at hfuel ⊢
    have hpositive : 0 < x.chars.length := by
      obtain ⟨c, cs, hcs, -⟩ := first_chars x
      rw [hcs]
      exact Nat.zero_lt_succ _
    have hmore : after? ']' ((if first then [] else [',']) ++
        (x.chars ++ (elementChars false xs ++ r))) = none := by
      cases first with
      | true => exact after?_chars x rfl _
      | false => rfl
    simp only [List.length_append] at hfuel
    have hvalue := readValue_chars x fuel (elementChars false xs ++ r) (ends_elements xs r)
      (by simp only [List.length_append]; omega)
    have helements := readElements_chars false xs fuel r
      (by simp only [List.length_append]; omega)
    rw [readElements, hmore]
    simp only [Option.bind_eq_bind, next?_append, Option.bind_some, hvalue, helements]
    rfl

theorem readMembers_chars (first : Bool) (ms : List (String × Json)) (fuel : Nat) (r : List Char)
    (hfuel : 2 * (memberChars first ms ++ r).length + 1 < fuel) :
    readMembers round first fuel (memberChars first ms ++ r) =
      some (membersWithDoubles (rereadBy round) ms, r) := by
  obtain ⟨fuel, rfl⟩ : ∃ n, fuel = n + 1 := ⟨fuel - 1, by omega⟩
  match ms with
  | [] => rfl
  | (k, x) :: ms =>
    rw [memberChars_cons] at hfuel ⊢
    have hquoted (r : List Char) :
        quoted k ++ r = '"' :: (k.toList.flatMap escaped ++ '"' :: r) := by
      simp [quoted]
    have hmore (r : List Char) :
        after? '\x7d' ((if first then [] else [',']) ++ (quoted k ++ r)) = none := by
      cases first <;> rfl
    rw [readMembers, hmore]
    rw [hquoted] at hfuel ⊢
    simp only [List.length_append, List.length_cons] at hfuel
    have hname := readQuoted_escaped k.toList (':' :: (x.chars ++ (memberChars false ms ++ r))) fuel
      (by simp only [List.length_append, List.length_cons]; omega)
    have hvalue := readValue_chars x fuel (memberChars false ms ++ r) (ends_members ms r)
      (by simp only [List.length_append]; omega)
    have hmembers := readMembers_chars false ms fuel r
      (by simp only [List.length_append]; omega)
    simp only [Option.bind_eq_bind, next?_append, after?_cons, Option.bind_some, hname, hvalue,
      hmembers, String.ofList_toList]
    rfl

end

/-- What is printed is read, with the doubles that `round` makes of their digits. -/
theorem read_compact (round : Rounding) (j : Json) :
    (Codec.compact round).read ((Codec.compact round).write j) =
      some (j.withDoubles (rereadBy round)) := by
  have hvalue : readValue round (2 * j.chars.length + 1) (j.chars ++ []) =
      some (j.withDoubles (rereadBy round), []) :=
    readValue_chars j _ [] rfl (by rw [List.append_nil]; exact Nat.lt_succ_self _)
  rw [List.append_nil] at hvalue
  show readCompact? round (text j) = _
  rw [readCompact?, text, String.toList_ofList, String.length_ofList, hvalue]

/-- The printer and the reader are lawful. -/
theorem lawful_compact (round : Rounding) : (Codec.compact round).Lawful (rereadBy round) :=
  fun j _ => ⟨_, read_compact round j, .same _⟩

-- A lawful codec need not give back every double.
example : ((Codec.compact .stepwise).read "[12.249739506519093,181.5,-0.0]").map text =
    some "[12.249739506519091,181.5,-0.0]" := by decide +kernel

end TransitHub.Json
