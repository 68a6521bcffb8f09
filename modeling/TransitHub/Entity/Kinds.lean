/-
# Entities by kind

Each data kind has its own type of entity and its own profile. Whatever is done for one kind is
done for all of them by a definition that takes the kind as an argument.

A profile comes with a hash to run with; `profileBy` is the profile with any other hash.
-/

import TransitHub.Entity.EstimatedJourney
import TransitHub.Entity.FacilityCondition
import TransitHub.Entity.InfoMessage
import TransitHub.Entity.Situation
import TransitHub.Entity.StopVisit
import TransitHub.Entity.VehicleActivity

namespace TransitHub.DataKind

/-- The entities of a kind. -/
abbrev Entity : DataKind → Type
  | situationExchange => Situation
  | vehicleMonitoring => VehicleActivity
  | estimatedTimetable => EstimatedJourney
  | stopMonitoring => StopVisit
  | generalMessage => InfoMessage
  | facilityMonitoring => FacilityCondition

def profile : (k : DataKind) → Profile k.Entity
  | situationExchange => Situation.profile
  | vehicleMonitoring => VehicleActivity.profile
  | estimatedTimetable => EstimatedJourney.profile
  | stopMonitoring => StopVisit.profile
  | generalMessage => InfoMessage.profile
  | facilityMonitoring => FacilityCondition.profile

/-- What is hashed to the fingerprint of an entity. -/
def projection : (k : DataKind) → k.Entity → String
  | situationExchange => Situation.projection
  | vehicleMonitoring => VehicleActivity.projection
  | estimatedTimetable => EstimatedJourney.projection
  | stopMonitoring => StopVisit.projection
  | generalMessage => InfoMessage.projection
  | facilityMonitoring => FacilityCondition.projection

/-- The profile of a kind with fingerprints by a hash. -/
def profileBy (hash : String → Fingerprint) (k : DataKind) : Profile k.Entity :=
  { k.profile with fingerprint := fun e => .ok (hash (k.projection e)) }

@[simp] theorem kind_profile (k : DataKind) : k.profile.kind = k := by cases k <;> rfl

end TransitHub.DataKind
