/-
# Reading what was written

What is written is read back as it was, whatever became of the order of members on the way: an object
says the same in any order. `Rearranged` relates a value to what may have become of it, and a decoder
inverts a way to write when it reads back whatever became of what was written.

A decoder of a record asks for its fields by name. If the names are different and all known, a record
offers under each name what may have become of the value that was written there, wherever it stands;
so the decoder of a record inverts its writing if the decoders of its fields do.
-/

import Mathlib.Data.List.Forall2
import Mathlib.Data.List.Nodup
import TransitHub.DataKind
import TransitHub.Decode.Record
import TransitHub.Proofs.Time.Reading

namespace TransitHub

namespace Json

/-- Two values that differ at most in the order in which the members of their objects stand. -/
inductive Rearranged : Json → Json → Prop
  | same (j : Json) : Rearranged j j
  | array {xs ys : List Json} (h : List.Forall₂ Rearranged xs ys) :
      Rearranged (.array xs) (.array ys)
  | object {ms ms' ms'' : List (String × Json)} (hnames : ms'.map (·.1) = ms.map (·.1))
      (hvalues : List.Forall₂ Rearranged (ms.map (·.2)) (ms'.map (·.2))) (horder : ms''.Perm ms') :
      Rearranged (.object ms) (.object ms'')

variable {j : Json}

theorem Rearranged.ne_null {written : Json} (h : written.Rearranged j) (hne : written ≠ .null) :
    j ≠ .null := by
  rintro rfl
  cases h
  exact hne rfl

theorem Rearranged.of_array {xs : List Json} (h : (Json.array xs).Rearranged j) :
    ∃ ys, j = .array ys ∧ List.Forall₂ Rearranged xs ys := by
  cases h with
  | same => exact ⟨xs, rfl, List.forall₂_same.2 fun x _ => .same x⟩
  | array h => exact ⟨_, rfl, h⟩

/-- The order of elements is not touched. -/
theorem Rearranged.of_strings {vs : List String} (h : (Json.strings vs).Rearranged j) :
    j = .strings vs := by
  obtain ⟨ys, rfl, hys⟩ := h.of_array
  have hsame : List.Forall₂ Eq (vs.map Json.string) ys :=
    List.forall₂_map_left_iff.2 <| (List.forall₂_map_left_iff.1 hys).imp fun v y hy => by
      cases hy; rfl
  rw [List.forall₂_eq_eq_eq] at hsame
  exact congrArg Json.array hsame.symm

/-- A rearranged record has the same names, in some order, and beside each of them what became of its
value. -/
theorem Rearranged.of_record {names : List String} {values : List Json}
    (h : (Json.record names values).Rearranged j) (hlength : values.length = names.length) :
    ∃ values' ms, j = .object ms ∧ List.Forall₂ Rearranged values values' ∧
      ms.Perm (names.zip values') := by
  have hsnd : (names.zip values).map (·.2) = values := List.map_snd_zip (Nat.le_of_eq hlength)
  have hfst : (names.zip values).map (·.1) = names := List.map_fst_zip (Nat.le_of_eq hlength.symm)
  cases h with
  | same => exact ⟨values, _, rfl, List.forall₂_same.2 fun v _ => .same v, .refl _⟩
  | @object _ ms' ms'' hnames hvalues horder =>
    rw [hsnd] at hvalues
    refine ⟨ms'.map (·.2), ms'', rfl, hvalues, ?_⟩
    rw [← List.zip_of_prod (hnames.trans hfst) rfl]
    exact horder

end Json

/-- A decoder that reads back what was written, in whatever order members stand. What is written is
never `null`. -/
class Decoder.Inverts {α : Type} (dec : Decoder Json α) (write : outParam (α → Json)) : Prop where
  read {a : α} {j : Json} (h : (write a).Rearranged j) : dec j = .ok a
  present (a : α) : write a ≠ .null

namespace Decoder

variable {α : Type} {dec : Decoder Json α} {write : α → Json} {j : Json}

/-! ## Single values -/

instance : Inverts Decoder.string Json.string where
  read h := by cases h; rfl
  present _ := nofun

instance : Inverts Decoder.boolean Json.boolean where
  read h := by cases h; rfl
  present _ := nofun

instance : Inverts Decoder.double Json.double where
  read h := by cases h; rfl
  present _ := nofun

instance : Inverts Decoder.word Json.word where
  read {n j} h := by
    cases h
    have hlt := n.toNat_lt
    have hfits : Json.fitsWord n.toNat = true := by simp [Json.fitsWord]; omega
    simp only [Json.word, Decoder.word, hfits, if_true, Int.toNat_natCast, UInt32.ofNat_toNat]
  present _ := nofun

theorem count_integer (n : Int) : Decoder.count (Json.integer n) =
    if Json.fitsCount n then .ok (.ofNat n.toNat) else .error .mismatch := rfl

instance : Inverts Decoder.count Json.count where
  read {n j} h := by
    cases h
    have hlt := n.toNat_lt
    have hfits : Json.fitsCount n.toNat = true := by simp [Json.fitsCount]; omega
    rw [Json.count, count_integer, if_pos hfits, Int.toNat_natCast, UInt64.ofNat_toNat]
  present _ := nofun

instance : Inverts Decoder.integer Json.signed where
  read {n j} h := by
    cases h
    have hlow := n.le_toInt
    have hhigh := n.toInt_lt
    have hfits : Json.fitsSigned n.toInt = true := by simp [Json.fitsSigned]; omega
    simp only [Json.signed, Decoder.integer, hfits, if_true, Int64.ofInt_toInt]
  present _ := nofun

theorem timestamp_string (s : String) : Decoder.timestamp (Json.string s) =
    match Timestamp.read? s with
    | some t => .ok t
    | none => .error .mismatch := rfl

instance : Inverts Decoder.timestamp Timestamp.toJson where
  read {t j} h := by
    cases h
    rw [Timestamp.toJson, timestamp_string, Timestamp.read?_text]
  present _ := nofun

instance : Inverts DataKind.decoder DataKind.toJson where
  read {k j} h := by
    cases h
    cases k <;> rfl
  present _ := nofun

/-! ## Optional values and lists -/

theorem nullable_eq_ok [Inverts dec write] {o : Option α}
    (h : (Json.ofOption write o).Rearranged j) : nullable dec j = .ok o := by
  cases o with
  | none => cases h; rfl
  | some a =>
    have hsome (hne : j ≠ .null) : nullable dec j = (dec j).map some := by
      cases j with
      | null => exact absurd rfl hne
      | _ => rfl
    have hread : dec j = .ok a := Inverts.read h
    rw [hsome (h.ne_null (Inverts.present dec a)), hread]
    rfl

theorem elements_eq_ok [Inverts dec write] {xs : List α} {ys : List Json}
    (h : List.Forall₂ Json.Rearranged (xs.map write) ys) : elements dec ys = .ok xs := by
  induction xs generalizing ys with
  | nil => cases h; rfl
  | cons x rest ih =>
    obtain ⟨y, ys, hy, hrest, rfl⟩ := List.forall₂_cons_left_iff.1 h
    have hread : dec y = .ok x := Inverts.read hy
    rw [elements, hread, ih hrest]
    rfl

instance [Inverts dec write] : Inverts (list dec) (Json.ofList write) where
  read h := by
    obtain ⟨ys, rfl, hys⟩ := h.of_array
    exact elements_eq_ok hys
  present _ := nofun

end Decoder

/-! ## Records -/

namespace Record

variable {α : Type} {r : Record Json} {name : String} {dec : Decoder Json α} {write : α → Json}

/-- Whether a record has, under a name, what may have become of a value. -/
def Offers (r : Record Json) (name : String) (value : Json) : Prop :=
  ∃ place j, r.find? name = some (place, j) ∧ value.Rearranged j

theorem field_of_read {value : Json} {a : α} (h : r.Offers name value)
    (hread : ∀ j, value.Rearranged j → dec j = .ok a) : r.field name dec = .ok a := by
  obtain ⟨place, j, hfound, hj⟩ := h
  rw [field, hfound]
  exact congrArg (Ranked.ofExcept place) (hread j hj)

theorem defaulted_of_read {value : Json} {a default : α} (h : r.Offers name value)
    (hread : ∀ j, value.Rearranged j → dec j = .ok a) : r.defaulted name default dec = .ok a := by
  obtain ⟨place, j, hfound, hj⟩ := h
  rw [defaulted, hfound]
  exact congrArg (Ranked.ofExcept place) (hread j hj)

section Fields

variable [Decoder.Inverts dec write]

theorem field_eq_ok {a : α} (h : r.Offers name (write a)) : r.field name dec = .ok a :=
  field_of_read h fun _ hj => Decoder.Inverts.read hj

theorem defaulted_eq_ok {a default : α} (h : r.Offers name (write a)) :
    r.defaulted name default dec = .ok a :=
  defaulted_of_read h fun _ hj => Decoder.Inverts.read hj

theorem nullable_eq_ok {o : Option α} (h : r.Offers name (.ofOption write o)) :
    r.nullable name dec = .ok o := by
  obtain ⟨place, j, hfound, hj⟩ := h
  rw [nullable, hfound]
  exact congrArg (Ranked.ofExcept place) (Decoder.nullable_eq_ok hj)

theorem optional_eq_ok {o : Option α} (h : r.Offers name (.ofOption write o)) :
    r.optional name dec = .ok o :=
  defaulted_of_read h fun _ hj => Decoder.nullable_eq_ok hj

theorem list_eq_ok {xs : List α} (h : r.Offers name (.ofList write xs)) :
    r.list name dec = .ok xs :=
  defaulted_eq_ok h

end Fields

variable {strict : Bool} {fields : List String}

/-- Members whose names are different and all known are all there. -/
theorem ofMembers_eq (strict : Bool) {ms : List (String × Json)} (place : Nat)
    (seen : List String) (hknown : ∀ m ∈ ms, m.1 ∈ fields) (hnodup : (ms.map (·.1)).Nodup)
    (hunseen : ∀ m ∈ ms, m.1 ∉ seen) :
    ∃ cells, cells.map (·.2) = ms ∧
      ofMembers strict fields place seen (ms.map fun m => (⟨some m.1, true⟩, m.2)) =
        (cells, .ok ()) := by
  induction ms generalizing place seen with
  | nil => exact ⟨[], rfl, rfl⟩
  | cons m rest ih =>
    rw [List.map_cons, List.nodup_cons] at hnodup
    obtain ⟨hfresh, hrest⟩ := hnodup
    obtain ⟨cells, hcells, hmembers⟩ := ih (place + 1) (m.1 :: seen)
      (fun m' hm' => hknown m' (List.mem_cons_of_mem m hm')) hrest fun m' hm' => by
        rw [List.mem_cons, not_or]
        exact ⟨fun hsame => hfresh (hsame ▸ List.mem_map_of_mem hm'),
          hunseen m' (List.mem_cons_of_mem m hm')⟩
    have hfield : fields.contains m.1 = true :=
      List.contains_iff_mem.2 (hknown m List.mem_cons_self)
    have hunseen' : seen.contains m.1 = false := by
      rw [← Bool.not_eq_true, List.contains_iff_mem]
      exact hunseen m List.mem_cons_self
    refine ⟨(place, m) :: cells, by rw [List.map_cons, hcells], ?_⟩
    rw [List.map_cons, ofMembers]
    simp only [hfield, hunseen', hmembers, if_true, Bool.false_eq_true, if_false]

/-- A member is found by its name if no other member has it. -/
theorem find?_of_mem {ms : List (String × Json)} (hcells : r.cells.map (·.2) = ms)
    (hnodup : (ms.map (·.1)).Nodup) {m : String × Json} (hm : m ∈ ms) :
    ∃ place, r.find? m.1 = some (place, m.2) := by
  obtain ⟨cell, hcell, rfl⟩ := List.mem_map.1 (hcells ▸ hm)
  cases hfound : r.cells.find? fun c => c.2.1 = cell.2.1 with
  | none => exact absurd (List.find?_eq_none.1 hfound cell hcell) (by simp)
  | some found =>
    have hname : found.2.1 = cell.2.1 := by simpa using List.find?_some hfound
    have hsame : found.2 = cell.2 :=
      List.inj_on_of_nodup_map hnodup
        (hcells ▸ List.mem_map_of_mem (List.mem_of_find?_eq_some hfound)) hm hname
    refine ⟨found.1, ?_⟩
    rw [find?, hfound, ← hsame]
    rfl

/-- A record is read back if its body is, from every record that offers what was written. -/
theorem read_eq_ok {values : List Json} {body : Record Json → Ranked α} {a : α} {j : Json}
    (hj : (Json.record fields values).Rearranged j) (hnodup : fields.Nodup)
    (hlength : values.length = fields.length)
    (hbody : ∀ r : Record Json, List.Forall₂ r.Offers fields values → body r = .ok a) :
    read strict fields body j = .ok a := by
  obtain ⟨values', ms, rfl, hvalues, horder⟩ := hj.of_record hlength
  have hlength' : values'.length = fields.length := hvalues.length_eq.symm.trans hlength
  have hnames : (fields.zip values').map (·.1) = fields :=
    List.map_fst_zip (Nat.le_of_eq hlength'.symm)
  have hsame : (ms.map (·.1)).Perm fields := by
    rw [← hnames]
    exact horder.map _
  have hnodup' : (ms.map (·.1)).Nodup := hsame.nodup_iff.2 hnodup
  have hknown : ∀ m ∈ ms, m.1 ∈ fields := fun m hm => hsame.mem_iff.1 (List.mem_map_of_mem hm)
  obtain ⟨cells, hcells, hmembers⟩ :=
    ofMembers_eq strict 0 [] hknown hnodup' fun _ _ => List.not_mem_nil
  have hoffers : List.Forall₂ (Offers ⟨cells, ms.length, false⟩) fields values := by
    refine List.forall₂_iff_get.2 ⟨hlength.symm, fun i hname hvalue => ?_⟩
    have hi : i < values'.length := hlength'.symm ▸ hname
    have hm : (fields[i], values'[i]) ∈ ms := by
      refine horder.mem_iff.2 (List.mem_iff_getElem.2 ⟨i, ?_, List.getElem_zip⟩)
      rw [List.length_zip]
      omega
    obtain ⟨place, hfound⟩ := find?_of_mem (r := ⟨cells, ms.length, false⟩) hcells hnodup' hm
    exact ⟨place, _, hfound, (List.forall₂_iff_get.1 hvalues).2 i hvalue hi⟩
  show (let (cells, check) := ofMembers strict fields 0 [] (ms.map _)
    (check.after (body ⟨cells, (ms.map _).length, false⟩)).toExcept) = _
  rw [hmembers, List.length_map]
  dsimp only
  rw [hbody _ hoffers]
  rfl

/-- A decoder of records inverts their writing if its body reads the fields of every record that
offers what was written. -/
theorem inverts {fields : List String} {values : α → List Json} {body : Record Json → Ranked α}
    (hnodup : fields.Nodup) (hlength : ∀ a, (values a).length = fields.length)
    (hbody : ∀ a, ∀ r : Record Json, List.Forall₂ r.Offers fields (values a) → body r = .ok a) :
    Decoder.Inverts (read strict fields body) fun a => .record fields (values a) where
  read h := read_eq_ok h hnodup (hlength _) (hbody _)
  present _ := nofun

end Record

end TransitHub
