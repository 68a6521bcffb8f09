/-
# Documents on their way

A document is posted as text, and whoever gets the text reads it again. Neither is done here, so
what can be relied on is a law: a codec is lawful if it gives a document back. Not every document is
asked for. Readers of JSON take integers of 64 bits, objects whose names differ, and a nesting that
is not too deep; that is what `Fits` says.

Nor is all of a document asked for. Members may come in any order. And a reader that is after speed
need not round correctly, so a double may be read as another one; which one depends on the double
alone. `withDoubles` puts these in the places of those that were written.
-/

import TransitHub.Json.Printer
import TransitHub.Proofs.Decode.Inverse

namespace TransitHub.Json

variable {α : Type} {f : Binary64 → Binary64} {d : Nat}

/-! ## Other doubles in the same places -/

mutual

/-- The same document with every double replaced. -/
def withDoubles (f : Binary64 → Binary64) : Json → Json
  | null => null
  | boolean b => boolean b
  | integer n => integer n
  | double x => double (f x)
  | string s => string s
  | array xs => array (elementsWithDoubles f xs)
  | object ms => object (membersWithDoubles f ms)

/-- The elements of an array, with every double replaced. -/
def elementsWithDoubles (f : Binary64 → Binary64) : List Json → List Json
  | [] => []
  | x :: xs => x.withDoubles f :: elementsWithDoubles f xs

/-- The members of an object, with every double replaced. -/
def membersWithDoubles (f : Binary64 → Binary64) : List (String × Json) → List (String × Json)
  | [] => []
  | (name, x) :: ms => (name, x.withDoubles f) :: membersWithDoubles f ms

end

@[simp]
theorem withDoubles_array (xs : List Json) :
    (array xs).withDoubles f = array (xs.map (withDoubles f)) := by
  have helements : elementsWithDoubles f xs = xs.map (withDoubles f) := by
    induction xs with
    | nil => rfl
    | cons x xs ih => rw [elementsWithDoubles, ih, List.map_cons]
  rw [withDoubles, helements]

@[simp]
theorem withDoubles_object (ms : List (String × Json)) :
    (object ms).withDoubles f = object (ms.map fun m => (m.1, m.2.withDoubles f)) := by
  have hmembers : membersWithDoubles f ms = ms.map fun m => (m.1, m.2.withDoubles f) := by
    induction ms with
    | nil => rfl
    | cons m ms ih => rw [membersWithDoubles, ih, List.map_cons]
  rw [withDoubles, hmembers]

@[simp]
theorem withDoubles_record (names : List String) (values : List Json) :
    (record names values).withDoubles f = record names (values.map (withDoubles f)) := by
  rw [record, record, withDoubles_object, List.zip_map_right]
  rfl

@[simp]
theorem ofOption_map {β : Type} (write : β → Json) (g : α → β) (o : Option α) :
    ofOption write (o.map g) = ofOption (fun a => write (g a)) o := by
  cases o <;> rfl

@[simp]
theorem withDoubles_ofOption (write : α → Json) (o : Option α) :
    (ofOption write o).withDoubles f = ofOption (fun a => (write a).withDoubles f) o := by
  cases o <;> rfl

@[simp]
theorem withDoubles_ofList (write : α → Json) (xs : List α) :
    (ofList write xs).withDoubles f = ofList (fun a => (write a).withDoubles f) xs := by
  rw [ofList, ofList, withDoubles_array, List.map_map]
  rfl

section Leaves

@[simp] theorem withDoubles_boolean (b : Bool) : (boolean b).withDoubles f = boolean b := rfl

@[simp] theorem withDoubles_double (x : Binary64) : (double x).withDoubles f = double (f x) := rfl

@[simp] theorem withDoubles_string (s : String) : (string s).withDoubles f = string s := rfl

@[simp] theorem withDoubles_word (n : UInt32) : (word n).withDoubles f = word n := rfl

@[simp] theorem withDoubles_signed (n : Int64) : (signed n).withDoubles f = signed n := rfl

@[simp] theorem withDoubles_strings (xs : List String) : (strings xs).withDoubles f = strings xs :=
  withDoubles_ofList string xs

@[simp] theorem withDoubles_timestamp (t : Timestamp) : t.toJson.withDoubles f = t.toJson := rfl

end Leaves

/-! ## Documents that every reader takes -/

/-- Whether a document is nested at most so deep, its integers have 64 bits, signed or not, and the
names in each of its objects differ. -/
def Fits : (depth : Nat) → Json → Prop
  | _, null => True
  | _, boolean _ => True
  | _, integer n => fitsSigned n ∨ fitsCount n
  | _, double _ => True
  | _, string _ => True
  | 0, array _ => False
  | depth + 1, array xs => ∀ x ∈ xs, x.Fits depth
  | 0, object _ => False
  | depth + 1, object ms => (ms.map (·.1)).Nodup ∧ ∀ m ∈ ms, m.2.Fits depth

@[simp]
theorem fits_array_iff {xs : List Json} : (array xs).Fits (d + 1) ↔ ∀ x ∈ xs, x.Fits d := Iff.rfl

@[simp]
theorem fits_object_iff {ms : List (String × Json)} :
    (object ms).Fits (d + 1) ↔ (ms.map (·.1)).Nodup ∧ ∀ m ∈ ms, m.2.Fits d := Iff.rfl

/-- A document fits where deeper ones do. -/
theorem Fits.mono {j : Json} {d d' : Nat} (h : j.Fits d) (hd : d ≤ d') : j.Fits d' := by
  induction d generalizing j d' with
  | zero =>
    cases j with
    | array => exact h.elim
    | object => exact h.elim
    | _ => cases d' <;> exact h
  | succ d ih =>
    obtain ⟨d', rfl⟩ : ∃ n, d' = n + 1 := ⟨d' - 1, by omega⟩
    have hle : d ≤ d' := Nat.le_of_succ_le_succ hd
    cases j with
    | array xs => exact fun x hx => ih (h x hx) hle
    | object ms => exact ⟨h.1, fun m hm => ih (h.2 m hm) hle⟩
    | _ => exact h

/-- Other doubles fit in the same places. -/
theorem Fits.withDoubles {j : Json} (h : j.Fits d) : (j.withDoubles f).Fits d := by
  induction d generalizing j with
  | zero =>
    cases j with
    | array => exact h.elim
    | object => exact h.elim
    | _ => exact h
  | succ d ih =>
    cases j with
    | array xs =>
      rw [withDoubles_array]
      exact List.forall_mem_map.2 fun x hx => ih (h x hx)
    | object ms =>
      rw [withDoubles_object]
      refine ⟨?_, List.forall_mem_map.2 fun m hm => ih (h.2 m hm)⟩
      rw [List.map_map]
      exact h.1
    | _ => exact h

theorem Fits.names {j : Json} (h : j.Fits d) : (j.members.map (·.1)).Nodup := by
  cases j with
  | object ms =>
    cases d with
    | zero => exact h.elim
    | succ d => exact h.1
  | _ => exact List.nodup_nil

theorem fits_record {names : List String} {values : List Json} (hnames : names.Nodup)
    (hlength : values.length = names.length) (h : ∀ x ∈ values, x.Fits d) :
    (record names values).Fits (d + 1) := by
  refine ⟨?_, fun m hm => h m.2 (List.of_mem_zip hm).2⟩
  rwa [List.map_fst_zip (Nat.le_of_eq hlength.symm)]

@[simp]
theorem fits_ofOption {write : α → Json} (h : ∀ a, (write a).Fits d) (o : Option α) :
    (ofOption write o).Fits d := by
  cases o with
  | none => cases d <;> trivial
  | some a => exact h a

@[simp]
theorem fits_ofList {write : α → Json} (h : ∀ a, (write a).Fits d) (xs : List α) :
    (ofList write xs).Fits (d + 1) := by
  intro x hx
  obtain ⟨a, -, rfl⟩ := List.mem_map.1 hx
  exact h a

section Leaves

@[simp] theorem fits_boolean (b : Bool) : (boolean b).Fits d := by cases d <;> trivial

@[simp] theorem fits_double (x : Binary64) : (double x).Fits d := by cases d <;> trivial

@[simp] theorem fits_string (s : String) : (string s).Fits d := by cases d <;> trivial

@[simp]
theorem fits_word (n : UInt32) : (word n).Fits d := by
  have hlt := n.toNat_lt
  have hfits : fitsCount n.toNat = true := by simp [fitsCount]; omega
  cases d <;> exact Or.inr hfits

@[simp]
theorem fits_signed (n : Int64) : (signed n).Fits d := by
  have hlow := n.le_toInt
  have hhigh := n.toInt_lt
  have hfits : fitsSigned n.toInt = true := by simp [fitsSigned]; omega
  cases d <;> exact Or.inl hfits

@[simp]
theorem fits_strings (xs : List String) : (strings xs).Fits (d + 1) :=
  fits_ofList fits_string xs

@[simp] theorem fits_timestamp (t : Timestamp) : t.toJson.Fits d := fits_string _

end Leaves

/-! ## Looking into documents -/

/-- The member of an object with a name. -/
def member? (j : Json) (name : String) : Option Json :=
  (j.members.find? fun m => m.1 = name).map (·.2)

def elements : Json → List Json
  | array xs => xs
  | _ => []

theorem member?_cons (m : String × Json) (ms : List (String × Json)) (name : String) :
    (object (m :: ms)).member? name =
      if m.1 = name then some m.2 else (object ms).member? name := by
  unfold member? members
  rw [List.find?_cons]
  split <;> simp_all

theorem member?_eq_some_iff {ms : List (String × Json)} (hnames : (ms.map (·.1)).Nodup)
    {name : String} {x : Json} : (object ms).member? name = some x ↔ (name, x) ∈ ms := by
  induction ms with
  | nil => simp [member?, members]
  | cons m ms ih =>
    obtain ⟨hfresh, hrest⟩ := List.nodup_cons.1 hnames
    rw [member?_cons]
    split
    · next hname =>
      subst hname
      have hnone : (m.1, x) ∉ ms := fun hm =>
        hfresh (List.mem_map.2 ⟨_, hm, rfl⟩)
      simp [hnone, Prod.ext_iff, eq_comm]
    · next hname =>
      have hne : (name, x) ≠ m := fun heq => hname (congrArg Prod.fst heq).symm
      simp [ih hrest, hne]

theorem Fits.member {j : Json} {name : String} {x : Json} (h : j.Fits d)
    (hx : j.member? name = some x) : x.Fits d := by
  cases j with
  | object ms =>
    cases d with
    | zero => exact h.elim
    | succ d => exact (h.2 _ ((member?_eq_some_iff h.1).1 hx)).mono (Nat.le_succ d)
  | _ => exact nomatch hx

theorem member?_withDoubles (j : Json) (name : String) :
    (j.withDoubles f).member? name = (j.member? name).map (withDoubles f) := by
  cases j with
  | object ms =>
    rw [withDoubles_object]
    induction ms with
    | nil => rfl
    | cons m ms ih =>
      rw [List.map_cons, member?_cons, member?_cons, ih]
      split <;> rfl
  | array xs => rw [withDoubles_array]; rfl
  | _ => rfl

theorem elements_withDoubles (j : Json) :
    (j.withDoubles f).elements = j.elements.map (withDoubles f) := by
  cases j with
  | array xs => rw [withDoubles_array]; rfl
  | object ms => rw [withDoubles_object]; rfl
  | _ => rfl

/-- In whatever order the members of an object come, beside each name stands what became of the
value that stood there. -/
theorem Rearranged.member? {j j' : Json} (h : j.Rearranged j')
    (hnames : (j.members.map (·.1)).Nodup) (name : String) :
    Option.Rel Rearranged (j.member? name) (j'.member? name) := by
  cases h with
  | same =>
    cases j.member? name with
    | none => exact .none
    | some x => exact .some (.same x)
  | array => exact .none
  | @object ms ms' ms'' hsame hvalues horder =>
    have hnames' : (ms'.map (·.1)).Nodup := hsame ▸ hnames
    have hfound : (Json.object ms'').member? name = (Json.object ms').member? name :=
      Option.ext fun x => by
        rw [member?_eq_some_iff hnames', member?_eq_some_iff
          ((horder.map _).nodup_iff.2 hnames'), horder.mem_iff]
    rw [hfound]
    -- What is left is about members in the same places.
    clear hnames hnames' horder hfound
    induction ms generalizing ms' with
    | nil =>
      rw [List.map_eq_nil_iff.1 hsame]
      exact .none
    | cons m ms ih =>
      cases ms' with
      | nil => exact nomatch hsame
      | cons m' ms' =>
        obtain ⟨hname, hrest⟩ := List.cons.inj hsame
        obtain ⟨hvalue, hvalues⟩ := List.forall₂_cons.1 hvalues
        rw [member?_cons, member?_cons, show m'.1 = m.1 from hname]
        split
        · exact .some hvalue
        · exact ih hrest hvalues

theorem Rearranged.elements {j j' : Json} (h : j.Rearranged j') :
    List.Forall₂ Rearranged j.elements j'.elements := by
  cases h with
  | same => exact List.forall₂_same.2 fun x _ => .same x
  | array hxs => exact hxs
  | object => exact .nil

/-! ## Codecs -/

/-- Whether what is written is read, up to the order of members and with every double as `reread`
tells. No more than 127 levels are asked for. -/
def Codec.Lawful (codec : Codec) (reread : Binary64 → Binary64) : Prop :=
  ∀ j : Json, j.Fits 127 →
    ∃ j', codec.read (codec.write j) = some j' ∧ (j.withDoubles reread).Rearranged j'

end TransitHub.Json
