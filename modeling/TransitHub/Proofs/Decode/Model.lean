/-
# The data model survives its own JSON

The decoder of every type of the data model inverts its writing: of the entities of all kinds and of
what they are made of, of record keys, filters, requests and subscriptions.

A filter is a map of sets, neither of which has an order of its own. So a filter is read back from
every document that lists its sets, in whatever order the dimensions come and in whatever order the
values of each set, and a request or a subscription is read back whichever of these documents stands
for its filter.
-/

import Mathlib.Data.List.Perm.Basic
import Mathlib.Tactic.CasesM
import TransitHub.Entity.Kinds
import TransitHub.Proofs.Decode.Inverse
import TransitHub.Push.Subscription

namespace TransitHub

open Decoder (Inverts)

/-! ## Entities

In every proof the record offers, under each of its names, what was written there. The reading of each
field then gives back its value, and these values make up what was written. -/

instance : Inverts Location.decoder Location.toJson :=
  Record.inverts (by decide) (fun _ => rfl) fun e r hr => by
    simp only [Location.fields, List.forall₂_cons, List.Forall₂.nil, and_true] at hr
    casesm* _ ∧ _
    simp (disch := assumption) only [Record.field_eq_ok]
    rfl

instance : Inverts ValidityPeriod.decoder ValidityPeriod.toJson :=
  Record.inverts (by decide) (fun _ => rfl) fun e r hr => by
    simp only [ValidityPeriod.fields, ValidityPeriod.values, List.forall₂_cons, List.Forall₂.nil,
      and_true] at hr
    casesm* _ ∧ _
    simp (disch := assumption) only [Record.optional_eq_ok]
    rfl

instance : Inverts JourneyCall.decoder JourneyCall.toJson :=
  Record.inverts (by decide) (fun _ => rfl) fun e r hr => by
    simp only [JourneyCall.fields, JourneyCall.values, List.forall₂_cons, List.Forall₂.nil,
      and_true] at hr
    casesm* _ ∧ _
    simp (disch := assumption) only [Record.optional_eq_ok]
    rfl

instance : Inverts Situation.decoder Situation.toJson :=
  Record.inverts (by decide) (fun _ => rfl) fun e r hr => by
    simp only [Situation.fields, Situation.values, Json.strings, List.forall₂_cons,
      List.Forall₂.nil, and_true] at hr
    casesm* _ ∧ _
    simp (disch := assumption) only [Record.optional_eq_ok, Record.list_eq_ok]
    rfl

instance : Inverts VehicleActivity.decoder VehicleActivity.toJson :=
  Record.inverts (by decide) (fun _ => rfl) fun e r hr => by
    simp only [VehicleActivity.fields, VehicleActivity.values, List.forall₂_cons, List.Forall₂.nil,
      and_true] at hr
    casesm* _ ∧ _
    simp (disch := assumption) only [Record.optional_eq_ok]
    rfl

instance : Inverts EstimatedJourney.decoder EstimatedJourney.toJson :=
  Record.inverts (by decide) (fun _ => rfl) fun e r hr => by
    simp only [EstimatedJourney.fields, EstimatedJourney.values, List.forall₂_cons,
      List.Forall₂.nil, and_true] at hr
    casesm* _ ∧ _
    simp (disch := assumption) only [Record.optional_eq_ok, Record.list_eq_ok]
    rfl

instance : Inverts StopVisit.decoder StopVisit.toJson :=
  Record.inverts (by decide) (fun _ => rfl) fun e r hr => by
    simp only [StopVisit.fields, StopVisit.values, List.forall₂_cons, List.Forall₂.nil,
      and_true] at hr
    casesm* _ ∧ _
    simp (disch := assumption) only [Record.optional_eq_ok]
    rfl

instance : Inverts InfoMessage.decoder InfoMessage.toJson :=
  Record.inverts (by decide) (fun _ => rfl) fun e r hr => by
    simp only [InfoMessage.fields, InfoMessage.values, Json.strings, List.forall₂_cons,
      List.Forall₂.nil, and_true] at hr
    casesm* _ ∧ _
    simp (disch := assumption) only [Record.optional_eq_ok, Record.list_eq_ok]
    rfl

instance : Inverts FacilityCondition.decoder FacilityCondition.toJson :=
  Record.inverts (by decide) (fun _ => rfl) fun e r hr => by
    simp only [FacilityCondition.fields, FacilityCondition.values, List.forall₂_cons,
      List.Forall₂.nil, and_true] at hr
    casesm* _ ∧ _
    simp (disch := assumption) only [Record.optional_eq_ok]
    rfl

instance (k : DataKind) : Inverts k.profile.decoder k.profile.toJson := by
  cases k
  · exact inferInstanceAs (Inverts Situation.decoder Situation.toJson)
  · exact inferInstanceAs (Inverts VehicleActivity.decoder VehicleActivity.toJson)
  · exact inferInstanceAs (Inverts EstimatedJourney.decoder EstimatedJourney.toJson)
  · exact inferInstanceAs (Inverts StopVisit.decoder StopVisit.toJson)
  · exact inferInstanceAs (Inverts InfoMessage.decoder InfoMessage.toJson)
  · exact inferInstanceAs (Inverts FacilityCondition.decoder FacilityCondition.toJson)

instance : Inverts RecordKey.decoder RecordKey.toJson :=
  Record.inverts (by decide) (fun _ => rfl) fun e r hr => by
    simp only [RecordKey.fields, List.forall₂_cons, List.Forall₂.nil, and_true] at hr
    casesm* _ ∧ _
    simp (disch := assumption) only [Record.field_eq_ok, Record.nullable_eq_ok]
    rfl

/-! ## Filters -/

namespace EntityFilter

variable {f : EntityFilter} {j j' : Json}

/-- Whether a document lists the sets of a filter, in any order. -/
def WrittenAs (f : EntityFilter) (j : Json) : Prop :=
  ∃ es : List (Dimension × List String), (es.map (·.1)).Nodup ∧
    (∀ d s, f.dimensions[d]? = some s ↔ ∃ vs, (d, vs) ∈ es ∧ s = .ofList vs compare) ∧
    j = .object (es.map fun e => (e.1.name, .strings e.2))

theorem ofList_toList (s : StringSet) : Std.ExtTreeSet.ofList s.toList compare = s :=
  Std.ExtTreeSet.ext_mem fun v => by
    rw [Std.ExtTreeSet.mem_ofList, List.contains_iff_mem, Std.ExtTreeSet.mem_toList]

/-- A filter itself writes its sets in ascending order. -/
theorem writtenAs_toJson (f : EntityFilter) : f.WrittenAs f.toJson := by
  have hkeys : f.entries.map (·.1) = f.dimensions.keys := by
    rw [entries, List.map_map]
    exact Std.ExtTreeMap.map_fst_toList_eq_keys
  refine ⟨f.entries, by rw [hkeys]; exact Std.ExtTreeMap.nodup_keys, fun d s => ?_, rfl⟩
  rw [← Std.ExtTreeMap.mem_toList_iff_getElem?_eq_some]
  constructor
  · intro hmem
    exact ⟨s.toList, List.mem_map.2 ⟨(d, s), hmem, rfl⟩, (ofList_toList s).symm⟩
  · rintro ⟨vs, hmem, rfl⟩
    obtain ⟨⟨d', s'⟩, hmem', heq⟩ := List.mem_map.1 hmem
    obtain ⟨rfl, rfl⟩ := Prod.mk.inj heq
    rwa [ofList_toList]

theorem variant_name (d : Dimension) : Decoder.variant Dimension.table d.name = .ok d := by
  cases d <;> rfl

theorem members_eq_ok (es : List (Dimension × List String)) :
    Decoder.keyed.members Dimension.table (Decoder.list Decoder.string)
      (es.map fun e => (⟨some e.1.name, true⟩, Json.strings e.2)) = .ok es := by
  induction es with
  | nil => rfl
  | cons e rest ih =>
    have hvalues : Decoder.list Decoder.string (Json.strings e.2) = .ok e.2 :=
      Decoder.Inverts.read (.same _)
    rw [List.map_cons, Decoder.keyed.members, variant_name, hvalues, ih]
    rfl

/-- Where no dimension is listed twice, a filter has the sets that are listed. -/
theorem dimensions_ofEntries {es : List (Dimension × List String)} (hnodup : (es.map (·.1)).Nodup)
    (d : Dimension) (s : StringSet) :
    (ofEntries es).dimensions[d]? = some s ↔ ∃ vs, (d, vs) ∈ es ∧ s = .ofList vs compare := by
  -- The sets that were inserted before count where no later one is for their dimension.
  have hfold (m : Std.ExtTreeMap Dimension StringSet compare) :
      (es.foldl (fun m e => m.insert e.1 (.ofList e.2 compare)) m)[d]? = some s ↔
        (∃ vs, (d, vs) ∈ es ∧ s = .ofList vs compare) ∨ (d ∉ es.map (·.1) ∧ m[d]? = some s) := by
    induction es generalizing m with
    | nil => simp
    | cons e rest ih =>
      obtain ⟨d', vs'⟩ := e
      obtain ⟨hfresh, hrest⟩ := List.nodup_cons.1 hnodup
      rw [List.foldl_cons, ih hrest, Std.ExtTreeMap.getElem?_insert]
      by_cases hd : d' = d
      · subst hd
        have hnone (vs : List String) : (d', vs) ∉ rest := fun hmem =>
          hfresh (List.mem_map.2 ⟨_, hmem, rfl⟩)
        simp [hnone, eq_comm]
      · have hd' : d ≠ d' := fun hsame => hd hsame.symm
        have hcompare : compare d' d ≠ .eq := fun heq => hd (Std.LawfulEqOrd.eq_of_compare heq)
        simp [hcompare, hd']
  refine (hfold ∅).trans ?_
  simp

theorem WrittenAs.rearranged (h : f.WrittenAs j) (hj : j.Rearranged j') : f.WrittenAs j' := by
  obtain ⟨es, hnodup, hsets, rfl⟩ := h
  have hrecord : Json.object (es.map fun e => (e.1.name, .strings e.2)) =
      .record (es.map (·.1.name)) (es.map fun e => .strings e.2) := by
    rw [Json.record, List.zip_map']
  rw [hrecord] at hj
  obtain ⟨values, ms, rfl, hvalues, horder⟩ := hj.of_record (by simp)
  have hsame : es.map (fun e => Json.strings e.2) = values := by
    have hall : List.Forall₂ Eq (es.map fun e => Json.strings e.2) values :=
      List.forall₂_map_left_iff.2 <| (List.forall₂_map_left_iff.1 hvalues).imp fun _ _ hv =>
        hv.of_strings.symm
    rwa [List.forall₂_eq_eq_eq] at hall
  rw [← hsame, List.zip_map'] at horder
  let write (e : Dimension × List String) : String × Json := (e.1.name, .strings e.2)
  obtain ⟨es', rfl, hperm⟩ : ∃ es' : List (Dimension × List String), ms = es'.map write ∧
      es'.Perm es :=
    (congrFun (congrFun (List.eq_map_comp_perm write) ms) es).mpr horder
  refine ⟨es', (hperm.map _).nodup_iff.2 hnodup, fun d s => ?_, rfl⟩
  rw [hsets]
  simp only [hperm.mem_iff]

theorem WrittenAs.read (h : f.WrittenAs j) : decoder j = .ok f := by
  obtain ⟨es, hnodup, hsets, rfl⟩ := h
  have hentries : Decoder.keyed Dimension.table (Decoder.list Decoder.string)
      (Json.object (es.map fun e => (e.1.name, .strings e.2))) = .ok es := by
    rw [← members_eq_ok es]
    show Decoder.keyed.members _ _ (List.map _ (List.map _ es)) = _
    rw [List.map_map]
    rfl
  have hsame : ofEntries es = f := by
    have hdimensions : (ofEntries es).dimensions = f.dimensions :=
      Std.ExtTreeMap.ext_getElem? fun d => Option.ext fun s => by
        rw [dimensions_ofEntries hnodup, hsets]
    cases f
    exact congrArg EntityFilter.mk hdimensions
  rw [decoder, hentries, ← hsame]
  rfl

end EntityFilter

/-! ## Requests and subscriptions -/

/-- An object with another value beside a name. -/
def Json.withMember (j : Json) (name : String) (value : Json) : Json :=
  .object (j.members.map fun m => if m.1 = name then (name, value) else m)

namespace SubscriptionRequest

variable {r : SubscriptionRequest} {j : Json}

/-- Whether a document says what a request is, with the filter written in any way. -/
def WrittenAs (r : SubscriptionRequest) (j : Json) : Prop :=
  ∃ filter, r.filter.WrittenAs filter ∧ (r.toJson.withMember "filter" filter).Rearranged j

theorem withMember_toJson (r : SubscriptionRequest) (filter : Json) :
    r.toJson.withMember "filter" filter = .record fields [
      .ofOption .string r.id, r.kind.toJson, .ofOption .string r.address,
      .ofOption .string r.dataset, filter, .count r.heartbeatMillis,
      .ofOption Timestamp.toJson r.termination, .strings r.valueAdapters,
      .ofOption .count r.updateMillis, .ofOption .string r.requestor] := by
  simp [toJson, fields, Json.record, Json.withMember, Json.members]

theorem writtenAs_toJson (r : SubscriptionRequest) : r.WrittenAs r.toJson := by
  refine ⟨r.filter.toJson, r.filter.writtenAs_toJson, ?_⟩
  rw [withMember_toJson]
  exact .same _

theorem WrittenAs.read (h : r.WrittenAs j) : decoder j = .ok r := by
  obtain ⟨filter, hfilter, hj⟩ := h
  rw [withMember_toJson] at hj
  refine Record.read_eq_ok hj (by decide) rfl fun record hr => ?_
  simp only [fields, Json.strings, List.forall₂_cons, List.Forall₂.nil, and_true] at hr
  obtain ⟨_, _, _, _, hoffers, _, _, _, _, _⟩ := hr
  have hread : record.defaulted "filter" EntityFilter.empty EntityFilter.decoder = .ok r.filter :=
    Record.defaulted_of_read hoffers fun j' hj' => (hfilter.rearranged hj').read
  simp (disch := assumption) only [hread, Record.optional_eq_ok, Record.field_eq_ok,
    Record.defaulted_eq_ok, Record.list_eq_ok]
  rfl

end SubscriptionRequest

namespace Subscription

variable {s : Subscription} {j : Json}

/-- Whether a document says what a subscription is, with the filter written in any way. -/
def WrittenAs (s : Subscription) (j : Json) : Prop :=
  ∃ filter, s.filter.WrittenAs filter ∧ (s.toJson.withMember "filter" filter).Rearranged j

theorem withMember_toJson (s : Subscription) (filter : Json) :
    s.toJson.withMember "filter" filter = .record fields [
      .string s.id, s.kind.toJson, .string s.address, .ofOption .string s.dataset, filter,
      .count s.heartbeatMillis, .ofOption Timestamp.toJson s.termination,
      .strings s.valueAdapters, .ofOption .count s.updateMillis, .ofOption .string s.requestor,
      s.createdAt.toJson] := by
  simp [toJson, fields, Json.record, Json.withMember, Json.members]

theorem writtenAs_toJson (s : Subscription) : s.WrittenAs s.toJson := by
  refine ⟨s.filter.toJson, s.filter.writtenAs_toJson, ?_⟩
  rw [withMember_toJson]
  exact .same _

theorem WrittenAs.read (h : s.WrittenAs j) : decoder j = .ok s := by
  obtain ⟨filter, hfilter, hj⟩ := h
  rw [withMember_toJson] at hj
  refine Record.read_eq_ok hj (by decide) rfl fun record hr => ?_
  simp only [fields, Json.strings, List.forall₂_cons, List.Forall₂.nil, and_true] at hr
  obtain ⟨_, _, _, _, hoffers, _, _, _, _, _, _⟩ := hr
  have hread : record.field "filter" EntityFilter.decoder = .ok s.filter :=
    Record.field_of_read hoffers fun j' hj' => (hfilter.rearranged hj').read
  simp (disch := assumption) only [hread, Record.nullable_eq_ok, Record.field_eq_ok]
  rfl

end Subscription

end TransitHub
