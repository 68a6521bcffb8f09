/-
# What a fingerprint tells

Each kind lists the fields whose change counts by hand. The fingerprint of an entity is a hash of
the text of these fields. The text tells every one of them, so that two entities have one text
exactly if they differ in freshness stamps at most. Nothing is confused on the way: an absent value
is no text, a list is not cut in other places, a character that is escaped is no other one, and a
timestamp is read back from its text. Doubles alone are told only as they are written.

What the hash makes of the texts is another matter. It may confuse two of them, and then two
entities that differ have one fingerprint.
-/

import TransitHub.Entity.Kinds
import TransitHub.Proofs.Json.Text
import TransitHub.Proofs.Time.Reading

namespace TransitHub

open Json (Spells)

/-! ## Parts of entities -/

theorem Timestamp.spells_toJson : Spells Timestamp.toJson id where
  chars_eq_iff :=
    Json.spells_string.chars_eq_iff.trans ⟨Timestamp.text_inj, congrArg Timestamp.text⟩
  ne_null _ := nofun

@[simp]
theorem Timestamp.chars_ofOption {t t' : Option Timestamp} :
    (Json.ofOption toJson t).chars = (Json.ofOption toJson t').chars ↔ t = t' :=
  spells_toJson.ofOption_eq_iff

theorem JourneyCall.spells_toJson : Spells toJson id :=
  .ofRecord values (fun _ => rfl) fun a b => by simp [values, JourneyCall.ext_iff]

@[simp]
theorem JourneyCall.chars_ofList {calls calls' : List JourneyCall} :
    (Json.ofList toJson calls).chars = (Json.ofList toJson calls').chars ↔ calls = calls' :=
  spells_toJson.ofList_eq_iff

theorem ValidityPeriod.spells_toJson : Spells toJson id :=
  .ofRecord values (fun _ => rfl) fun a b => by simp [values, ValidityPeriod.ext_iff]

@[simp]
theorem ValidityPeriod.chars_ofList {periods periods' : List ValidityPeriod} :
    (Json.ofList toJson periods).chars = (Json.ofList toJson periods').chars ↔ periods = periods' :=
  spells_toJson.ofList_eq_iff

/-- A position as it is written. -/
def Location.written (l : Location) : List Char × List Char :=
  (l.latitude.chars, l.longitude.chars)

theorem Location.spells_toJson : Spells toJson written :=
  .ofRecord (fun l : Location => [.double l.latitude, .double l.longitude])
    (fun _ => rfl) fun a b => by simp [written, Json.spells_double.chars_eq_iff]

@[simp]
theorem Location.chars_ofOption {l l' : Option Location} :
    (Json.ofOption toJson l).chars = (Json.ofOption toJson l').chars ↔
      l.map written = l'.map written :=
  spells_toJson.ofOption

/-! ## Texts of stable fields -/

/-- Texts of stable fields are the same if the texts of the fields are. -/
theorem Profile.stableText_eq_iff {names : List String} {values values' : List Json}
    (hlength : values.length = names.length) (hlength' : values'.length = names.length) :
    stableText names values = stableText names values' ↔
      values.map Json.chars = values'.map Json.chars := by
  rw [← Json.chars_record_eq_iff hlength hlength']
  exact String.ofList_inj

theorem Situation.projection_eq_iff {e e' : Situation} :
    e.projection = e'.projection ↔ e = e' := by
  refine (Profile.stableText_eq_iff rfl rfl).trans ?_
  simp [stableValues, Situation.ext_iff]

theorem VehicleActivity.projection_eq_iff {e e' : VehicleActivity} :
    e.projection = e'.projection ↔
      { e with validUntil := none, location := none, bearing := none } =
          { e' with validUntil := none, location := none, bearing := none } ∧
        e.location.map Location.written = e'.location.map Location.written ∧
        e.bearing.map Binary64.chars = e'.bearing.map Binary64.chars := by
  refine (Profile.stableText_eq_iff rfl rfl).trans ?_
  simp only [stableValues, VehicleActivity.ext_iff, List.map_cons, List.map_nil, List.cons.injEq,
    Json.chars_ofOption_string, Json.chars_ofOption_boolean, Json.chars_ofOption_signed,
    Json.chars_ofOption_double, Timestamp.chars_ofOption, Location.chars_ofOption, and_true, true_and]
  -- The doubles stand among the other fields.
  constructor
  · rintro ⟨hrecorded, hvehicle, hline, hdirection, hjourney, hoperator, hsource, horigin,
      hdestination, hlocation, hbearing, hlater⟩
    exact ⟨⟨hrecorded, hvehicle, hline, hdirection, hjourney, hoperator, hsource, horigin,
      hdestination, hlater⟩, hlocation, hbearing⟩
  · rintro ⟨⟨hrecorded, hvehicle, hline, hdirection, hjourney, hoperator, hsource, horigin,
      hdestination, hlater⟩, hlocation, hbearing⟩
    exact ⟨hrecorded, hvehicle, hline, hdirection, hjourney, hoperator, hsource, horigin,
      hdestination, hlocation, hbearing, hlater⟩

theorem EstimatedJourney.projection_eq_iff {e e' : EstimatedJourney} :
    e.projection = e'.projection ↔
      { e with recordedAt := none } = { e' with recordedAt := none } := by
  refine (Profile.stableText_eq_iff rfl rfl).trans ?_
  simp [stableValues]

theorem StopVisit.projection_eq_iff {e e' : StopVisit} :
    e.projection = e'.projection ↔
      { e with recordedAt := none, validUntil := none } =
        { e' with recordedAt := none, validUntil := none } := by
  refine (Profile.stableText_eq_iff rfl rfl).trans ?_
  simp [stableValues]

theorem InfoMessage.projection_eq_iff {e e' : InfoMessage} :
    e.projection = e'.projection ↔
      { e with recordedAt := none } = { e' with recordedAt := none } := by
  refine (Profile.stableText_eq_iff rfl rfl).trans ?_
  simp [stableValues]

theorem FacilityCondition.projection_eq_iff {e e' : FacilityCondition} :
    e.projection = e'.projection ↔ e = e' := by
  refine (Profile.stableText_eq_iff rfl rfl).trans ?_
  simp [stableValues, FacilityCondition.ext_iff]

namespace DataKind

/-- Whether two entities of a kind agree on all that is stable, the positions and bearings of
vehicles as they are written. -/
def SameStable : (k : DataKind) → (e e' : k.Entity) → Prop
  | .situationExchange, e, e' => e = e'
  | .vehicleMonitoring, e, e' =>
    { e with validUntil := none, location := none, bearing := none } =
        { e' with validUntil := none, location := none, bearing := none } ∧
      e.location.map Location.written = e'.location.map Location.written ∧
      e.bearing.map Binary64.chars = e'.bearing.map Binary64.chars
  | .estimatedTimetable, e, e' => { e with recordedAt := none } = { e' with recordedAt := none }
  | .stopMonitoring, e, e' =>
    { e with recordedAt := none, validUntil := none } =
      { e' with recordedAt := none, validUntil := none }
  | .generalMessage, e, e' => { e with recordedAt := none } = { e' with recordedAt := none }
  | .facilityMonitoring, e, e' => e = e'

theorem projection_eq_iff (k : DataKind) {e e' : k.Entity} :
    k.projection e = k.projection e' ↔ k.SameStable e e' := by
  cases k with
  | situationExchange => exact Situation.projection_eq_iff
  | vehicleMonitoring => exact VehicleActivity.projection_eq_iff
  | estimatedTimetable => exact EstimatedJourney.projection_eq_iff
  | stopMonitoring => exact StopVisit.projection_eq_iff
  | generalMessage => exact InfoMessage.projection_eq_iff
  | facilityMonitoring => exact FacilityCondition.projection_eq_iff

/-- Two entities have one text of stable fields exactly if they agree on all that is stable. Every
entity has a fingerprint, and two entities have one fingerprint exactly if they agree on all that is
stable or the hash confuses their texts. -/
theorem fingerprints_agree_iff (hash : String → Fingerprint) (k : DataKind) (e e' : k.Entity) :
    (k.projection e = k.projection e' ↔ k.SameStable e e') ∧
      ∃ print print', (k.profileBy hash).fingerprint e = .ok print ∧
        (k.profileBy hash).fingerprint e' = .ok print' ∧
        (print = print' ↔ k.SameStable e e' ∨
          k.projection e ≠ k.projection e' ∧ hash (k.projection e) = hash (k.projection e')) := by
  refine ⟨k.projection_eq_iff, _, _, rfl, rfl, ?_⟩
  rw [← k.projection_eq_iff]
  constructor
  · intro hsame
    by_cases htexts : k.projection e = k.projection e'
    · exact Or.inl htexts
    · exact Or.inr ⟨htexts, hsame⟩
  · rintro (htexts | ⟨-, hsame⟩)
    · rw [htexts]
    · exact hsame

end DataKind

end TransitHub
