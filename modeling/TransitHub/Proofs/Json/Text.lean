/-
# JSON text tells values apart

A fingerprint is a text, so what it says of an entity is what can be read off the text. The text of
a value ends where something follows that no number goes on with, and its first character tells what
sort of value it is. So values are compared with what follows them, one part after another: a quoted
string by what its characters were escaped from, a number by its run of characters, arrays and
objects element by element.

Two texts that agree agree part by part. What a part tells is left to `Spells`: a writer spells out
a view of what it writes. Most writers spell out all of it; a double is only known by its digits.
-/

import TransitHub.Json.Printer

namespace TransitHub.Json

/-! ## Quoted strings -/

/-- The value of a hexadecimal digit in lower case. -/
def hexValue (c : Char) : Nat := if c.isDigit then c.toNat - 48 else c.toNat - 87

theorem hexValue_hexDigit : ∀ n < 16, hexValue (hexDigit n) = n := by decide

/-- The first character of a quoted text before it was escaped, and what follows it there. -/
def unescape : List Char → Option (Char × List Char)
  | '\\' :: 'u' :: '0' :: '0' :: high :: low :: r =>
    some (Char.ofNat (16 * hexValue high + hexValue low), r)
  | '\\' :: 'n' :: r => some ('\n', r)
  | '\\' :: 'r' :: r => some ('\r', r)
  | '\\' :: 't' :: r => some ('\t', r)
  | '\\' :: 'b' :: r => some ('\x08', r)
  | '\\' :: 'f' :: r => some ('\x0c', r)
  | '\\' :: c :: r => some (c, r)
  | '"' :: _ => none
  | c :: r => some (c, r)
  | [] => none

theorem unescape_escaped (c : Char) (r : List Char) : unescape (escaped c ++ r) = some (c, r) := by
  unfold escaped
  -- Each character with a letter of its own is read back from that letter.
  iterate 7 (split; · next h => subst h; rfl)
  split
  · next hlow =>
    have hhigh : c.toNat / 16 < 16 := by omega
    have hrest : c.toNat % 16 < 16 := by omega
    have hwhole : 16 * (c.toNat / 16) + c.toNat % 16 = c.toNat := Nat.div_add_mod _ _
    show some (Char.ofNat (16 * hexValue (hexDigit _) + hexValue (hexDigit _)), r) = _
    rw [hexValue_hexDigit _ hhigh, hexValue_hexDigit _ hrest, hwhole, Char.ofNat_toNat]
  · show unescape (c :: r) = _
    unfold unescape
    split <;> simp_all

theorem escaped_append_inj {c c' : Char} {r r' : List Char}
    (h : escaped c ++ r = escaped c' ++ r') : c = c' ∧ r = r' := by
  have hread := congrArg unescape h
  rw [unescape_escaped, unescape_escaped] at hread
  exact Prod.mk.inj (Option.some.inj hread)

/-- The characters of a string end at the closing quote. -/
theorem escapedAll_append_inj {cs cs' r r' : List Char}
    (h : cs.flatMap escaped ++ '"' :: r = cs'.flatMap escaped ++ '"' :: r') : cs = cs' ∧ r = r' := by
  have hnone (c : Char) (cs r r' : List Char) : '"' :: r' ≠ (c :: cs).flatMap escaped ++ r := by
    intro heq
    rw [List.flatMap_cons, List.append_assoc] at heq
    have hread := congrArg unescape heq
    rw [unescape_escaped] at hread
    exact nomatch hread
  induction cs generalizing cs' with
  | nil =>
    cases cs' with
    | nil => exact ⟨rfl, (List.cons.inj h).2⟩
    | cons c' cs' => exact absurd h (hnone _ _ _ _)
  | cons c cs ih =>
    cases cs' with
    | nil => exact absurd h.symm (hnone _ _ _ _)
    | cons c' cs' =>
      rw [List.flatMap_cons, List.flatMap_cons, List.append_assoc, List.append_assoc] at h
      obtain ⟨rfl, hrest⟩ := escaped_append_inj h
      obtain ⟨rfl, hr⟩ := ih hrest
      exact ⟨rfl, hr⟩

theorem quoted_append_inj {s s' : String} {r r' : List Char}
    (h : quoted s ++ r = quoted s' ++ r') : s = s' ∧ r = r' := by
  have hopen (s : String) (r : List Char) :
      quoted s ++ r = '"' :: (s.toList.flatMap escaped ++ '"' :: r) := by simp [quoted]
  rw [hopen, hopen] at h
  obtain ⟨hs, hr⟩ := escapedAll_append_inj (List.cons.inj h).2
  exact ⟨String.toList_inj.1 hs, hr⟩

/-! ## Numbers -/

/-- The characters that numbers are written with. -/
def isNumeral (c : Char) : Bool := Decimal.isDigit c || c = '-' || c = '+' || c = '.' || c = 'e'

/-- What follows a value: no number goes on with it. -/
def Ends (r : List Char) : Prop := r.takeWhile isNumeral = []

theorem ends_cons {c : Char} (hc : isNumeral c = false) (r : List Char) : Ends (c :: r) :=
  List.takeWhile_cons_of_neg (by rw [hc]; exact Bool.false_ne_true)

/-- A run of numerals ends where something else follows. -/
theorem numerals_append_inj {cs cs' r r' : List Char} (hcs : ∀ c ∈ cs, isNumeral c = true)
    (hcs' : ∀ c ∈ cs', isNumeral c = true) (hr : Ends r) (hr' : Ends r')
    (h : cs ++ r = cs' ++ r') : cs = cs' ∧ r = r' := by
  have hrun := congrArg (List.takeWhile isNumeral) h
  rw [List.takeWhile_append_of_pos hcs, List.takeWhile_append_of_pos hcs', hr, hr',
    List.append_nil, List.append_nil] at hrun
  rw [hrun] at h
  exact ⟨hrun, List.append_cancel_left h⟩

theorem isNumeral_digits {n : Nat} : ∀ c ∈ Decimal.digits n, isNumeral c = true := by
  intro c hc
  rw [isNumeral, Decimal.isDigit_digits c hc]
  rfl

theorem integerChars_inj {n n' : Int} (h : integerChars n = integerChars n') : n = n' := by
  have hsign (n : Nat) (cs : List Char) : '-' :: cs ≠ Decimal.digits n := by
    intro heq
    have hdigit := Decimal.isDigit_digits '-' (heq ▸ List.mem_cons_self)
    exact absurd hdigit (by decide)
  unfold integerChars at h
  split at h
  · split at h
    · have hsize := Decimal.digits_inj (List.cons.inj h).2
      omega
    · exact absurd h (hsign _ _)
  · split at h
    · exact absurd h.symm (hsign _ _)
    · have hsize := Decimal.digits_inj h
      omega

theorem isNumeral_integerChars {n : Int} : ∀ c ∈ integerChars n, isNumeral c = true := by
  unfold integerChars
  split
  · intro c hc
    rcases List.mem_cons.1 hc with rfl | hdigit
    · rfl
    · exact isNumeral_digits c hdigit
  · exact isNumeral_digits

theorem isNumeral_layOut {digits : List Char} (hdigits : ∀ c ∈ digits, isNumeral c = true)
    (point : Int) : ∀ c ∈ Binary64.layOut digits point, isNumeral c = true := by
  have hzeros (n : Nat) : ∀ c ∈ List.replicate n '0', isNumeral c = true :=
    fun c hc => (List.mem_replicate.1 hc).2 ▸ rfl
  unfold Binary64.layOut
  dsimp only
  split
  · split
    · simp only [List.forall_mem_cons, List.forall_mem_append]
      exact ⟨rfl, rfl, hzeros _, hdigits⟩
    · have hpadded : ∀ c ∈ digits ++ List.replicate (point.toNat - digits.length) '0',
          isNumeral c = true := List.forall_mem_append.2 ⟨hdigits, hzeros _⟩
      simp only [List.forall_mem_append, List.forall_mem_cons]
      refine ⟨fun c hc => hpadded c (List.mem_of_mem_take hc), rfl, ?_⟩
      split
      · exact hzeros 1
      · exact fun c hc => hpadded c (List.mem_of_mem_drop hc)
  · simp only [List.forall_mem_append, List.forall_mem_cons]
    refine ⟨⟨fun c hc => hdigits c (List.mem_of_mem_take hc), ?_⟩, rfl, ?_, isNumeral_digits⟩
    · split
      · exact fun _ hc => nomatch hc
      · exact List.forall_mem_cons.2 ⟨rfl, fun c hc => hdigits c (List.mem_of_mem_drop hc)⟩
    · split <;> rfl

theorem isNumeral_double (x : Binary64) : ∀ c ∈ x.chars, isNumeral c = true := by
  have hkept (ds : List Char) : ∀ c ∈ (Binary64.withoutTrailingZeros ds).1, c ∈ ds :=
    fun c hc => List.mem_reverse.1 ((List.dropWhile_sublist _).subset (List.mem_reverse.1 hc))
  have hsign : ∀ c ∈ (if x.negative then ['-'] else []), isNumeral c = true := by
    split
    · exact List.forall_mem_singleton.2 rfl
    · nofun
  unfold Binary64.chars
  dsimp only
  split
  · exact List.forall_mem_append.2 ⟨hsign, List.all_eq_true.1 rfl⟩
  · refine List.forall_mem_append.2 ⟨hsign, isNumeral_layOut (fun c hc => ?_) _⟩
    exact isNumeral_digits c (hkept _ c hc)

theorem layOut_ne_nil (digits : List Char) (point : Int) : Binary64.layOut digits point ≠ [] := by
  unfold Binary64.layOut
  dsimp only
  split
  · split <;> simp
  · simp

theorem double_ne_nil (x : Binary64) : x.chars ≠ [] := by
  unfold Binary64.chars
  dsimp only
  split
  · simp
  · simp [layOut_ne_nil]

theorem integerChars_ne_nil (n : Int) : integerChars n ≠ [] := by
  unfold integerChars
  split
  · exact List.cons_ne_nil _ _
  · exact Nat.toDigits_ne_nil

/-! ## Values -/

/-- The sorts of values that the first character of a text tells apart. -/
inductive Shape
  | null
  | boolean (b : Bool)
  | number
  | string
  | array
  | object

def shape : Json → Shape
  | null => .null
  | boolean b => .boolean b
  | integer _ => .number
  | double _ => .number
  | string _ => .string
  | array _ => .array
  | object _ => .object

/-- The sort of value that begins with a character. -/
def Shape.ofFirst (c : Char) : Option Shape :=
  if c = 'n' then some .null
  else if c = 't' then some (.boolean true)
  else if c = 'f' then some (.boolean false)
  else if c = '"' then some .string
  else if c = '[' then some .array
  else if c = '\x7b' then some .object
  else if isNumeral c then some .number
  else none

theorem Shape.ofFirst_numeral {c : Char} (hc : isNumeral c = true) : ofFirst c = some .number := by
  have hne (c' : Char) (hc' : isNumeral c' = false) : c ≠ c' := by
    rintro rfl
    exact absurd hc (by rw [hc']; exact Bool.false_ne_true)
  unfold ofFirst
  rw [if_neg (hne _ rfl), if_neg (hne _ rfl), if_neg (hne _ rfl), if_neg (hne _ rfl),
    if_neg (hne _ rfl), if_neg (hne _ rfl), if_pos hc]

/-- A number is written with numerals only. -/
theorem isNumeral_chars {j : Json} (h : j.shape = .number) : ∀ c ∈ j.chars, isNumeral c = true := by
  cases j with
  | integer n => exact isNumeral_integerChars
  | double x => exact isNumeral_double x
  | _ => exact nomatch h

theorem first_chars (j : Json) :
    ∃ c cs, j.chars = c :: cs ∧ Shape.ofFirst c = some j.shape := by
  have hnumber (hshape : j.shape = .number) (hne : j.chars ≠ []) :
      ∃ c cs, j.chars = c :: cs ∧ Shape.ofFirst c = some j.shape := by
    obtain ⟨c, cs, hcs⟩ := List.exists_cons_of_ne_nil hne
    have hnumeral := isNumeral_chars hshape c (hcs ▸ List.mem_cons_self)
    exact ⟨c, cs, hcs, hshape ▸ Shape.ofFirst_numeral hnumeral⟩
  cases j with
  | null => exact ⟨_, _, rfl, rfl⟩
  | boolean b => cases b <;> exact ⟨_, _, rfl, rfl⟩
  | integer n => exact hnumber rfl (integerChars_ne_nil n)
  | double x => exact hnumber rfl (double_ne_nil x)
  | string s => exact ⟨_, _, rfl, rfl⟩
  | array xs => exact ⟨_, _, rfl, rfl⟩
  | object ms => exact ⟨_, _, rfl, rfl⟩

/-- Values whose texts begin alike are of one sort. -/
theorem shape_eq {j j' : Json} {r r' : List Char} (h : j.chars ++ r = j'.chars ++ r') :
    j.shape = j'.shape := by
  obtain ⟨c, cs, hcs, hshape⟩ := first_chars j
  obtain ⟨c', cs', hcs', hshape'⟩ := first_chars j'
  rw [hcs, hcs'] at h
  rw [(List.cons.inj h).1, hshape'] at hshape
  exact (Option.some.inj hshape).symm

/-- No value begins with a character that begins none. -/
theorem chars_ne_cons (j : Json) {c : Char} (hc : Shape.ofFirst c = none)
    (r r' : List Char) : j.chars ++ r ≠ c :: r' := by
  obtain ⟨c', cs', hcs', hshape'⟩ := first_chars j
  rw [hcs']
  intro heq
  rw [(List.cons.inj heq).1, hc] at hshape'
  exact nomatch hshape'

theorem ends_elements (xs : List Json) (r : List Char) : Ends (elementChars false xs ++ r) := by
  cases xs <;> exact ends_cons rfl _

theorem ends_members (ms : List (String × Json)) (r : List Char) :
    Ends (memberChars false ms ++ r) := by
  cases ms <;> exact ends_cons rfl _

theorem elementChars_cons (first : Bool) (x : Json) (xs : List Json) (r : List Char) :
    elementChars first (x :: xs) ++ r =
      (if first then [] else [',']) ++ (x.chars ++ (elementChars false xs ++ r)) := by
  rw [elementChars, List.append_assoc, List.append_assoc]

theorem memberChars_cons (first : Bool) (k : String) (x : Json) (ms : List (String × Json))
    (r : List Char) :
    memberChars first ((k, x) :: ms) ++ r =
      (if first then [] else [',']) ++
        (quoted k ++ ':' :: (x.chars ++ (memberChars false ms ++ r))) := by
  simp [memberChars]

/-- An array that is not over does not close. -/
theorem elementChars_cons_ne (first : Bool) (x : Json) (xs : List Json) (r r' : List Char) :
    elementChars first (x :: xs) ++ r ≠ elementChars first [] ++ r' := by
  rw [elementChars_cons]
  cases first with
  | true => exact chars_ne_cons x rfl _ _
  | false => exact fun h => nomatch (List.cons.inj h).1

theorem memberChars_cons_ne (first : Bool) (k : String) (x : Json) (ms : List (String × Json))
    (r r' : List Char) : memberChars first ((k, x) :: ms) ++ r ≠ memberChars first [] ++ r' := by
  rw [memberChars_cons]
  cases first <;> exact fun h => nomatch (List.cons.inj h).1

/-- The names of members with the texts of their values. -/
def spelled (ms : List (String × Json)) : List (String × List Char) :=
  ms.map fun m => (m.1, m.2.chars)

theorem elementChars_congr (first : Bool) {xs xs' : List Json}
    (h : xs.map chars = xs'.map chars) : elementChars first xs = elementChars first xs' := by
  induction xs generalizing first xs' with
  | nil => rw [List.map_eq_nil_iff.1 h.symm]
  | cons x xs ih =>
    cases xs' with
    | nil => exact nomatch h
    | cons x' xs' =>
      obtain ⟨hx, hxs⟩ := List.cons.inj h
      rw [elementChars, elementChars, hx, ih false hxs]

theorem memberChars_congr (first : Bool) {ms ms' : List (String × Json)}
    (h : spelled ms = spelled ms') : memberChars first ms = memberChars first ms' := by
  induction ms generalizing first ms' with
  | nil => rw [List.map_eq_nil_iff.1 h.symm]
  | cons m ms ih =>
    cases ms' with
    | nil => exact nomatch h
    | cons m' ms' =>
      obtain ⟨hm, hms⟩ := List.cons.inj h
      obtain ⟨hname, hx⟩ := Prod.mk.inj hm
      rw [memberChars, memberChars, hname, hx, ih false hms]

mutual

/-- A text tells where the value that it begins with ends. -/
theorem chars_append_inj (j j' : Json) (r r' : List Char) (hr : Ends r) (hr' : Ends r')
    (h : j.chars ++ r = j'.chars ++ r') : j.chars = j'.chars ∧ r = r' := by
  have hshape := shape_eq h
  have hnumber (hj : j.shape = .number) : j.chars = j'.chars ∧ r = r' :=
    numerals_append_inj (isNumeral_chars hj) (isNumeral_chars (hshape ▸ hj)) hr hr' h
  match j with
  | null =>
    cases j' with
    | null => exact ⟨rfl, List.append_cancel_left h⟩
    | _ => exact nomatch hshape
  | boolean b =>
    cases j' with
    | boolean b' =>
      obtain rfl := Shape.boolean.inj hshape
      exact ⟨rfl, List.append_cancel_left h⟩
    | _ => exact nomatch hshape
  | integer n => exact hnumber rfl
  | double x => exact hnumber rfl
  | string s =>
    cases j' with
    | string s' =>
      obtain ⟨rfl, hrest⟩ := quoted_append_inj h
      exact ⟨rfl, hrest⟩
    | _ => exact nomatch hshape
  | array xs =>
    cases j' with
    | array xs' =>
      obtain ⟨hxs, hrest⟩ := elements_append_inj true xs xs' r r' (List.cons.inj h).2
      exact ⟨congrArg ('[' :: ·) (elementChars_congr true hxs), hrest⟩
    | _ => exact nomatch hshape
  | object ms =>
    cases j' with
    | object ms' =>
      obtain ⟨hms, hrest⟩ := members_append_inj true ms ms' r r' (List.cons.inj h).2
      exact ⟨congrArg ('\x7b' :: ·) (memberChars_congr true hms), hrest⟩
    | _ => exact nomatch hshape

theorem elements_append_inj (first : Bool) (xs xs' : List Json) (r r' : List Char)
    (h : elementChars first xs ++ r = elementChars first xs' ++ r') :
    xs.map chars = xs'.map chars ∧ r = r' := by
  match xs, xs' with
  | [], [] => exact ⟨rfl, (List.cons.inj h).2⟩
  | [], x' :: xs' => exact absurd h.symm (elementChars_cons_ne first x' xs' r' r)
  | x :: xs, [] => exact absurd h (elementChars_cons_ne first x xs r r')
  | x :: xs, x' :: xs' =>
    rw [elementChars_cons, elementChars_cons] at h
    obtain ⟨hx, hrest⟩ := chars_append_inj x x' _ _ (ends_elements xs r) (ends_elements xs' r')
      (List.append_cancel_left h)
    obtain ⟨hxs, hr⟩ := elements_append_inj false xs xs' r r' hrest
    exact ⟨List.cons_eq_cons.2 ⟨hx, hxs⟩, hr⟩

theorem members_append_inj (first : Bool) (ms ms' : List (String × Json)) (r r' : List Char)
    (h : memberChars first ms ++ r = memberChars first ms' ++ r') :
    spelled ms = spelled ms' ∧ r = r' := by
  match ms, ms' with
  | [], [] => exact ⟨rfl, (List.cons.inj h).2⟩
  | [], (k', x') :: ms' => exact absurd h.symm (memberChars_cons_ne first k' x' ms' r' r)
  | (k, x) :: ms, [] => exact absurd h (memberChars_cons_ne first k x ms r r')
  | (k, x) :: ms, (k', x') :: ms' =>
    rw [memberChars_cons, memberChars_cons] at h
    obtain ⟨hk, hvalue⟩ := quoted_append_inj (List.append_cancel_left h)
    obtain ⟨hx, hrest⟩ := chars_append_inj x x' _ _ (ends_members ms r) (ends_members ms' r')
      (List.cons.inj hvalue).2
    obtain ⟨hms, hr⟩ := members_append_inj false ms ms' r r' hrest
    exact ⟨List.cons_eq_cons.2 ⟨Prod.ext hk hx, hms⟩, hr⟩

end

/-! ## The parts of a text -/

theorem chars_array_eq_iff {xs xs' : List Json} :
    (array xs).chars = (array xs').chars ↔ xs.map chars = xs'.map chars := by
  constructor
  · intro h
    have hchars : elementChars true xs ++ [] = elementChars true xs' ++ [] := by
      rw [List.append_nil, List.append_nil]
      exact (List.cons.inj h).2
    exact (elements_append_inj true xs xs' [] [] hchars).1
  · exact fun h => congrArg ('[' :: ·) (elementChars_congr true h)

theorem chars_object_eq_iff {ms ms' : List (String × Json)} :
    (object ms).chars = (object ms').chars ↔ spelled ms = spelled ms' := by
  constructor
  · intro h
    have hchars : memberChars true ms ++ [] = memberChars true ms' ++ [] := by
      rw [List.append_nil, List.append_nil]
      exact (List.cons.inj h).2
    exact (members_append_inj true ms ms' [] [] hchars).1
  · exact fun h => congrArg ('\x7b' :: ·) (memberChars_congr true h)

/-- Records with the same names have one text exactly if their values have one by one. -/
theorem chars_record_eq_iff {names : List String} {values values' : List Json}
    (hlength : values.length = names.length) (hlength' : values'.length = names.length) :
    (record names values).chars = (record names values').chars ↔
      values.map chars = values'.map chars := by
  have hspelled (vs : List Json) : spelled (names.zip vs) = names.zip (vs.map chars) := by
    rw [List.zip_map_right]
    rfl
  rw [record, record, chars_object_eq_iff, hspelled, hspelled]
  constructor
  · intro h
    have hsnd := congrArg (List.map Prod.snd) h
    rwa [List.map_snd_zip (by simp [hlength]), List.map_snd_zip (by simp [hlength'])] at hsnd
  · exact fun h => by rw [h]

/-- A writer spells out a view of what it writes: the text tells the view, and the view the text. A
missing value is written as `null`, which the writer itself does not write. -/
structure Spells {α β : Type} (write : α → Json) (view : α → β) : Prop where
  chars_eq_iff : ∀ {a b}, (write a).chars = (write b).chars ↔ view a = view b
  ne_null : ∀ a, (write a).shape ≠ .null

theorem Spells.ofOption {α β : Type} {write : α → Json} {view : α → β} (h : Spells write view)
    {o o' : Option α} :
    (Json.ofOption write o).chars = (Json.ofOption write o').chars ↔ o.map view = o'.map view := by
  have hnull {j : Json} (hj : j.shape ≠ .null) : j.chars ≠ null.chars := by
    intro hchars
    have happend : j.chars ++ [] = null.chars ++ [] := by rw [hchars]
    exact hj (shape_eq happend)
  cases o with
  | none =>
    cases o' with
    | none => simp
    | some b => simpa [Json.ofOption] using (hnull (h.ne_null b)).symm
  | some a =>
    cases o' with
    | none => simpa [Json.ofOption] using hnull (h.ne_null a)
    | some b => simpa [Json.ofOption] using h.chars_eq_iff

theorem Spells.ofList {α β : Type} {write : α → Json} {view : α → β} (h : Spells write view) :
    Spells (Json.ofList write) (List.map view) where
  chars_eq_iff {xs ys} := by
    rw [Json.ofList, Json.ofList, chars_array_eq_iff, List.map_map, List.map_map]
    induction xs generalizing ys with
    | nil => cases ys <;> simp
    | cons x xs ih =>
      cases ys with
      | nil => simp
      | cons y ys => simp [h.chars_eq_iff, ih]
  ne_null _ := nofun

/-- A record spells out what its values do. -/
theorem Spells.ofRecord {α β : Type} {names : List String} {view : α → β} (values : α → List Json)
    (hlength : ∀ a, (values a).length = names.length)
    (hvalues : ∀ a b, (values a).map chars = (values b).map chars ↔ view a = view b) :
    Spells (fun a => record names (values a)) view where
  chars_eq_iff := (chars_record_eq_iff (hlength _) (hlength _)).trans (hvalues _ _)
  ne_null _ := nofun

/-- What is spelled out entirely is told entirely. -/
theorem Spells.ofOption_eq_iff {α : Type} {write : α → Json} (h : Spells write id)
    {o o' : Option α} : (Json.ofOption write o).chars = (Json.ofOption write o').chars ↔ o = o' := by
  simpa using h.ofOption

theorem Spells.ofList_eq_iff {α : Type} {write : α → Json} (h : Spells write id) {xs ys : List α} :
    (Json.ofList write xs).chars = (Json.ofList write ys).chars ↔ xs = ys := by
  simpa using h.ofList.chars_eq_iff

theorem spells_string : Spells string id where
  chars_eq_iff {a b} := by
    constructor
    · intro h
      have happend : quoted a ++ [] = quoted b ++ [] := congrArg (· ++ []) h
      exact (quoted_append_inj happend).1
    · exact fun h => congrArg (fun s => (string s).chars) h
  ne_null _ := nofun

theorem spells_boolean : Spells boolean id where
  chars_eq_iff {a b} := by cases a <;> cases b <;> decide
  ne_null _ := nofun

theorem chars_integer_eq_iff {n n' : Int} : (integer n).chars = (integer n').chars ↔ n = n' :=
  ⟨integerChars_inj, fun h => congrArg (fun n => (integer n).chars) h⟩

theorem spells_word : Spells word id where
  chars_eq_iff {a b} := by
    rw [word, word, chars_integer_eq_iff, Int.natCast_inj, UInt32.toNat_inj]
    rfl
  ne_null _ := nofun

theorem spells_signed : Spells signed id where
  chars_eq_iff {a b} := by
    rw [signed, signed, chars_integer_eq_iff, Int64.toInt_inj]
    rfl
  ne_null _ := nofun

/-- A double is told by its digits. -/
theorem spells_double : Spells double Binary64.chars where
  chars_eq_iff := Iff.rfl
  ne_null _ := nofun

section Fields

variable {a b : Option String} {c d : Option Bool} {m n : Option UInt32} {i j : Option Int64}

@[simp]
theorem chars_ofOption_string : (ofOption string a).chars = (ofOption string b).chars ↔ a = b :=
  spells_string.ofOption_eq_iff

@[simp]
theorem chars_ofOption_boolean : (ofOption boolean c).chars = (ofOption boolean d).chars ↔ c = d :=
  spells_boolean.ofOption_eq_iff

@[simp]
theorem chars_ofOption_word : (ofOption word m).chars = (ofOption word n).chars ↔ m = n :=
  spells_word.ofOption_eq_iff

@[simp]
theorem chars_ofOption_signed : (ofOption signed i).chars = (ofOption signed j).chars ↔ i = j :=
  spells_signed.ofOption_eq_iff

@[simp]
theorem chars_ofOption_double {x y : Option Binary64} :
    (ofOption double x).chars = (ofOption double y).chars ↔
      x.map Binary64.chars = y.map Binary64.chars :=
  spells_double.ofOption

@[simp]
theorem chars_strings {xs ys : List String} : (strings xs).chars = (strings ys).chars ↔ xs = ys :=
  spells_string.ofList_eq_iff

end Fields

end TransitHub.Json
