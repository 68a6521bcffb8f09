/-
# Facility conditions

States of facilities, keyed by facility and stop.
-/

import TransitHub.Entity.Profile

namespace TransitHub

/-- The state of a lift, an escalator or a ticket machine. -/
@[ext] structure FacilityCondition where
  facilityRef : Option String := none
  status : Option String := none
  statusDescription : Option String := none
  stopPointRef : Option String := none
  lineRef : Option String := none
  validityStart : Option Timestamp := none
  validityEnd : Option Timestamp := none
deriving DecidableEq

namespace FacilityCondition

def fields : List String := [
  "facilityRef", "facilityStatus", "statusDescription", "stopPointRef", "lineRef",
  "validityStart", "validityEnd"]

def values (e : FacilityCondition) : List Json := [
  .ofOption .string e.facilityRef, .ofOption .string e.status,
  .ofOption .string e.statusDescription, .ofOption .string e.stopPointRef,
  .ofOption .string e.lineRef, .ofOption Timestamp.toJson e.validityStart,
  .ofOption Timestamp.toJson e.validityEnd]

def toJson (e : FacilityCondition) : Json := .record fields e.values

/-- Read the entity; every field may be missing. -/
def decoder : Decoder Json FacilityCondition := Record.read false fields fun r =>
  FacilityCondition.mk
    <$> r.optional "facilityRef" Decoder.string
    <*> r.optional "facilityStatus" Decoder.string
    <*> r.optional "statusDescription" Decoder.string
    <*> r.optional "stopPointRef" Decoder.string
    <*> r.optional "lineRef" Decoder.string
    <*> r.optional "validityStart" Decoder.timestamp
    <*> r.optional "validityEnd" Decoder.timestamp

/-- Facilities are identified by their reference and stop. -/
def key? (dataset : String) (e : FacilityCondition) : Option RecordKey :=
  e.facilityRef.map fun facility => { dataset, primary := facility, stop := e.stopPointRef }

/-- The values a facility carries in each dimension. -/
def carried (e : FacilityCondition) : Dimension → List String
  | .stopRef => e.stopPointRef.toList
  | .lineRef => e.lineRef.toList
  | _ => []

/-- The fields whose change counts, which are all. -/
def stableFields : List String := [
  "facility_ref", "facility_status", "status_description", "stop_point_ref", "line_ref",
  "validity_start", "validity_end"]

def stableValues (e : FacilityCondition) : List Json := [
  .ofOption .string e.facilityRef, .ofOption .string e.status,
  .ofOption .string e.statusDescription, .ofOption .string e.stopPointRef,
  .ofOption .string e.lineRef, .ofOption Timestamp.toJson e.validityStart,
  .ofOption Timestamp.toJson e.validityEnd]

/-- What is hashed to a fingerprint. -/
def projection (e : FacilityCondition) : String := Profile.stableText stableFields e.stableValues

/-- The profile of facilities, which carry no time of recording. -/
def profile : Profile FacilityCondition where
  kind := .facilityMonitoring
  key?
  recordedAt _ := none
  validityEnd := FacilityCondition.validityEnd
  carried
  toJson
  decoder
  fingerprint e := .ok (.ofText e.projection)

end FacilityCondition

end TransitHub
