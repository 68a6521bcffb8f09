/-
# Entities with their doubles read again

An entity that was posted comes back with the doubles that a reader made of those that were written.
Only vehicles have doubles, in their position and their bearing. `reread` is the entity with what
they became; it is written with these in the places of the others, so it is what is read. Its key,
its times and the values it carries are those of the entity, and it is the entity itself exactly if
every double of the entity is read as it was.

Every entity is written as a document that readers of JSON take: its names differ, its integers have
64 bits, and nothing is nested deeper than the calls of a journey.
-/

import TransitHub.Entity.Kinds
import TransitHub.Proofs.Json.Exchange

namespace TransitHub

variable {f : Binary64 → Binary64} {d : Nat}

/-! ## Positions and vehicles -/

namespace Location

/-- A position with its doubles read again. -/
def reread (f : Binary64 → Binary64) (l : Location) : Location where
  latitude := f l.latitude
  longitude := f l.longitude

@[simp]
theorem withDoubles_toJson (l : Location) : l.toJson.withDoubles f = (l.reread f).toJson := by
  simp [toJson, reread]

/-- The doubles of a position. -/
def doubles (l : Location) : List Binary64 := [l.latitude, l.longitude]

theorem reread_eq_iff {l : Location} : l.reread f = l ↔ ∀ x ∈ l.doubles, f x = x := by
  simp [Location.ext_iff, reread, doubles]

end Location

namespace VehicleActivity

/-- A vehicle with its doubles read again. -/
def reread (f : Binary64 → Binary64) (e : VehicleActivity) : VehicleActivity :=
  { e with location := e.location.map (Location.reread f), bearing := e.bearing.map f }

/-- The doubles of a vehicle. -/
def doubles (e : VehicleActivity) : List Binary64 :=
  (e.location.map Location.doubles).getD [] ++ e.bearing.toList

theorem reread_eq_iff {e : VehicleActivity} : e.reread f = e ↔ ∀ x ∈ e.doubles, f x = x := by
  have hlocation : e.location.map (Location.reread f) = e.location ↔
      ∀ x ∈ (e.location.map Location.doubles).getD [], f x = x := by
    cases e.location with
    | none => simp
    | some l => simpa using Location.reread_eq_iff
  have hbearing : e.bearing.map f = e.bearing ↔ ∀ x ∈ e.bearing.toList, f x = x := by
    cases e.bearing <;> simp
  have hsame : e.reread f = e ↔
      e.location.map (Location.reread f) = e.location ∧ e.bearing.map f = e.bearing := by
    simp [VehicleActivity.ext_iff, reread]
  rw [hsame, hlocation, hbearing, doubles, List.forall_mem_append]

end VehicleActivity

namespace DataKind

/-- An entity with its doubles read again. -/
def reread (f : Binary64 → Binary64) : (k : DataKind) → k.Entity → k.Entity
  | vehicleMonitoring, e => VehicleActivity.reread f e
  | situationExchange, e => e
  | estimatedTimetable, e => e
  | stopMonitoring, e => e
  | generalMessage, e => e
  | facilityMonitoring, e => e

/-- The doubles of an entity. -/
def doubles : (k : DataKind) → k.Entity → List Binary64
  | vehicleMonitoring, e => VehicleActivity.doubles e
  | _, _ => []

/-- What is read again is the entity itself exactly if each of its doubles is read as it was. -/
theorem reread_eq_iff {k : DataKind} {e : k.Entity} :
    k.reread f e = e ↔ ∀ x ∈ k.doubles e, f x = x := by
  cases k with
  | vehicleMonitoring => exact VehicleActivity.reread_eq_iff
  | _ => exact ⟨fun _ _ hx => absurd hx List.not_mem_nil, fun _ => rfl⟩

/-- Whether two entities have the same key, the same times and the same values. -/
structure Resembles (k : DataKind) (e e' : k.Entity) : Prop where
  key : ∀ dataset, k.profile.key? dataset e = k.profile.key? dataset e'
  recordedAt : k.profile.recordedAt e = k.profile.recordedAt e'
  validityEnd : k.profile.validityEnd e = k.profile.validityEnd e'
  carried : k.profile.carried e = k.profile.carried e'

theorem resembles_reread (k : DataKind) (e : k.Entity) : k.Resembles (k.reread f e) e := by
  cases k <;> exact ⟨fun _ => rfl, rfl, rfl, rfl⟩

end DataKind

/-! ## What entities are written as -/

@[simp]
theorem ValidityPeriod.withDoubles_toJson (p : ValidityPeriod) :
    p.toJson.withDoubles f = p.toJson := by
  simp [toJson, values]

@[simp]
theorem JourneyCall.withDoubles_toJson (c : JourneyCall) : c.toJson.withDoubles f = c.toJson := by
  simp [toJson, values]

theorem VehicleActivity.withDoubles_toJson (e : VehicleActivity) :
    e.toJson.withDoubles f = (e.reread f).toJson := by
  simp [toJson, values, reread]

/-- An entity is written with other doubles as what is read again. -/
theorem DataKind.withDoubles_toJson (k : DataKind) (e : k.Entity) :
    (k.profile.toJson e).withDoubles f = k.profile.toJson (k.reread f e) := by
  cases k with
  | vehicleMonitoring => exact VehicleActivity.withDoubles_toJson e
  | situationExchange =>
    show (Situation.toJson e).withDoubles f = Situation.toJson e
    simp [Situation.toJson, Situation.values]
  | estimatedTimetable =>
    show (EstimatedJourney.toJson e).withDoubles f = EstimatedJourney.toJson e
    simp [EstimatedJourney.toJson, EstimatedJourney.values]
  | stopMonitoring =>
    show (StopVisit.toJson e).withDoubles f = StopVisit.toJson e
    simp [StopVisit.toJson, StopVisit.values]
  | generalMessage =>
    show (InfoMessage.toJson e).withDoubles f = InfoMessage.toJson e
    simp [InfoMessage.toJson, InfoMessage.values]
  | facilityMonitoring =>
    show (FacilityCondition.toJson e).withDoubles f = FacilityCondition.toJson e
    simp [FacilityCondition.toJson, FacilityCondition.values]

/-! ## Readers of JSON take them -/

@[simp]
theorem Location.fits_toJson (l : Location) : l.toJson.Fits (d + 1) :=
  Json.fits_record (by decide) rfl (by simp)

@[simp]
theorem ValidityPeriod.fits_toJson (p : ValidityPeriod) : p.toJson.Fits (d + 1) :=
  Json.fits_record (by decide) rfl (by simp [values])

@[simp]
theorem JourneyCall.fits_toJson (c : JourneyCall) : c.toJson.Fits (d + 1) :=
  Json.fits_record (by decide) rfl (by simp [values])

/-- No entity is nested deeper than its lists of records. -/
theorem DataKind.fits_toJson (k : DataKind) (e : k.Entity) : (k.profile.toJson e).Fits 3 := by
  cases k with
  | situationExchange =>
    exact Json.fits_record (by decide) rfl (by simp [Situation.values])
  | vehicleMonitoring =>
    exact Json.fits_record (by decide) rfl (by simp [VehicleActivity.values])
  | estimatedTimetable =>
    exact Json.fits_record (by decide) rfl (by simp [EstimatedJourney.values])
  | stopMonitoring =>
    exact Json.fits_record (by decide) rfl (by simp [StopVisit.values])
  | generalMessage =>
    exact Json.fits_record (by decide) rfl (by simp [InfoMessage.values])
  | facilityMonitoring =>
    exact Json.fits_record (by decide) rfl (by simp [FacilityCondition.values])

end TransitHub
