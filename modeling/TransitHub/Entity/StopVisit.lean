/-
# Stop visits

Calls at a monitoring point, keyed by visit or journey at that point.
-/

import TransitHub.Entity.Profile

namespace TransitHub

/-- One call of a journey at a monitored stop. -/
@[ext] structure StopVisit where
  recordedAt : Option Timestamp := none
  validUntil : Option Timestamp := none
  itemIdentifier : Option String := none
  monitoringRef : Option String := none
  lineRef : Option String := none
  directionRef : Option String := none
  journeyRef : Option String := none
  vehicleRef : Option String := none
  operatorRef : Option String := none
  destinationName : Option String := none
  stopPointRef : Option String := none
  aimedArrival : Option Timestamp := none
  expectedArrival : Option Timestamp := none
  aimedDeparture : Option Timestamp := none
  expectedDeparture : Option Timestamp := none
  arrivalStatus : Option String := none
  departureStatus : Option String := none
  cancellation : Option Bool := none
deriving DecidableEq

namespace StopVisit

def fields : List String := [
  "recordedAtTime", "validUntilTime", "itemIdentifier", "monitoringRef", "lineRef",
  "directionRef", "datedVehicleJourneyRef", "vehicleRef", "operatorRef", "destinationName",
  "stopPointRef", "aimedArrivalTime", "expectedArrivalTime", "aimedDepartureTime",
  "expectedDepartureTime", "arrivalStatus", "departureStatus", "cancellation"]

def values (e : StopVisit) : List Json := [
  .ofOption Timestamp.toJson e.recordedAt, .ofOption Timestamp.toJson e.validUntil,
  .ofOption .string e.itemIdentifier, .ofOption .string e.monitoringRef,
  .ofOption .string e.lineRef, .ofOption .string e.directionRef, .ofOption .string e.journeyRef,
  .ofOption .string e.vehicleRef, .ofOption .string e.operatorRef,
  .ofOption .string e.destinationName, .ofOption .string e.stopPointRef,
  .ofOption Timestamp.toJson e.aimedArrival, .ofOption Timestamp.toJson e.expectedArrival,
  .ofOption Timestamp.toJson e.aimedDeparture, .ofOption Timestamp.toJson e.expectedDeparture,
  .ofOption .string e.arrivalStatus, .ofOption .string e.departureStatus,
  .ofOption .boolean e.cancellation]

def toJson (e : StopVisit) : Json := .record fields e.values

/-- Read the entity; every field may be missing. -/
def decoder : Decoder Json StopVisit := Record.read false fields fun r =>
  StopVisit.mk
    <$> r.optional "recordedAtTime" Decoder.timestamp
    <*> r.optional "validUntilTime" Decoder.timestamp
    <*> r.optional "itemIdentifier" Decoder.string
    <*> r.optional "monitoringRef" Decoder.string
    <*> r.optional "lineRef" Decoder.string
    <*> r.optional "directionRef" Decoder.string
    <*> r.optional "datedVehicleJourneyRef" Decoder.string
    <*> r.optional "vehicleRef" Decoder.string
    <*> r.optional "operatorRef" Decoder.string
    <*> r.optional "destinationName" Decoder.string
    <*> r.optional "stopPointRef" Decoder.string
    <*> r.optional "aimedArrivalTime" Decoder.timestamp
    <*> r.optional "expectedArrivalTime" Decoder.timestamp
    <*> r.optional "aimedDepartureTime" Decoder.timestamp
    <*> r.optional "expectedDepartureTime" Decoder.timestamp
    <*> r.optional "arrivalStatus" Decoder.string
    <*> r.optional "departureStatus" Decoder.string
    <*> r.optional "cancellation" Decoder.boolean

/-- The times of the call that are known. -/
def callTimes (e : StopVisit) : List Timestamp :=
  [e.aimedArrival, e.expectedArrival, e.aimedDeparture, e.expectedDeparture].filterMap id

/-- Visits are identified by monitoring point, line, journey, and the item identifier; without an
identifier the journey takes its place. -/
def key? (dataset : String) (e : StopVisit) : Option RecordKey := do
  let point ← e.monitoringRef
  let primary ← e.itemIdentifier.or e.journeyRef
  return { dataset, primary, line := e.lineRef, stop := some point, journey := e.journeyRef }

/-- A visit is valid until its latest call time; without one, as long as it says. -/
def validityEnd (e : StopVisit) : Option Timestamp :=
  (Timestamp.latest e.callTimes).or e.validUntil

/-- The values a visit carries in each dimension. -/
def carried (e : StopVisit) : Dimension → List String
  | .lineRef => e.lineRef.toList
  | .vehicleRef => e.vehicleRef.toList
  | .stopRef => e.monitoringRef.toList ++ e.stopPointRef.toList
  | _ => []

/-- The fields whose change counts: all but the freshness stamps. -/
def stableFields : List String := [
  "item_identifier", "monitoring_ref", "line_ref", "direction_ref", "dated_vehicle_journey_ref",
  "vehicle_ref", "operator_ref", "destination_name", "stop_point_ref", "aimed_arrival_time",
  "expected_arrival_time", "aimed_departure_time", "expected_departure_time", "arrival_status",
  "departure_status", "cancellation"]

def stableValues (e : StopVisit) : List Json := [
  .ofOption .string e.itemIdentifier, .ofOption .string e.monitoringRef,
  .ofOption .string e.lineRef, .ofOption .string e.directionRef, .ofOption .string e.journeyRef,
  .ofOption .string e.vehicleRef, .ofOption .string e.operatorRef,
  .ofOption .string e.destinationName, .ofOption .string e.stopPointRef,
  .ofOption Timestamp.toJson e.aimedArrival, .ofOption Timestamp.toJson e.expectedArrival,
  .ofOption Timestamp.toJson e.aimedDeparture, .ofOption Timestamp.toJson e.expectedDeparture,
  .ofOption .string e.arrivalStatus, .ofOption .string e.departureStatus,
  .ofOption .boolean e.cancellation]

/-- What is hashed to a fingerprint. -/
def projection (e : StopVisit) : String := Profile.stableText stableFields e.stableValues

def profile : Profile StopVisit where
  kind := .stopMonitoring
  key?
  recordedAt := StopVisit.recordedAt
  validityEnd
  carried
  toJson
  decoder
  fingerprint e := .ok (.ofText e.projection)

end StopVisit

end TransitHub
