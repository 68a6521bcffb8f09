/-
# Vehicle activities

Positions and states of vehicles, keyed by vehicle.
-/

import TransitHub.Entity.Profile

namespace TransitHub

/-- A position in degrees. -/
@[ext] structure Location where
  latitude : Binary64
  longitude : Binary64
deriving DecidableEq

namespace Location

def fields : List String := ["latitude", "longitude"]

def toJson (l : Location) : Json := .record fields [.double l.latitude, .double l.longitude]

/-- Read a position; both numbers are required. -/
def decoder : Decoder Json Location := Record.read false fields fun r =>
  Location.mk <$> r.field "latitude" Decoder.double <*> r.field "longitude" Decoder.double

end Location

/-- A vehicle on its way. -/
@[ext] structure VehicleActivity where
  recordedAt : Option Timestamp := none
  /-- A freshness stamp that producers move on each poll. -/
  validUntil : Option Timestamp := none
  vehicleRef : Option String := none
  lineRef : Option String := none
  directionRef : Option String := none
  journeyRef : Option String := none
  operatorRef : Option String := none
  dataSource : Option String := none
  originRef : Option String := none
  destinationRef : Option String := none
  location : Option Location := none
  bearing : Option Binary64 := none
  delaySeconds : Option Int64 := none
  monitored : Option Bool := none
  occupancy : Option String := none
  callStopRef : Option String := none
deriving DecidableEq

namespace VehicleActivity

def fields : List String := [
  "recordedAtTime", "validUntilTime", "vehicleRef", "lineRef", "directionRef",
  "datedVehicleJourneyRef", "operatorRef", "dataSource", "originRef", "destinationRef",
  "location", "bearing", "delaySeconds", "monitored", "occupancy", "monitoredCallStopRef"]

def values (e : VehicleActivity) : List Json := [
  .ofOption Timestamp.toJson e.recordedAt, .ofOption Timestamp.toJson e.validUntil,
  .ofOption .string e.vehicleRef, .ofOption .string e.lineRef, .ofOption .string e.directionRef,
  .ofOption .string e.journeyRef, .ofOption .string e.operatorRef,
  .ofOption .string e.dataSource, .ofOption .string e.originRef,
  .ofOption .string e.destinationRef, .ofOption Location.toJson e.location,
  .ofOption .double e.bearing, .ofOption .signed e.delaySeconds, .ofOption .boolean e.monitored,
  .ofOption .string e.occupancy, .ofOption .string e.callStopRef]

def toJson (e : VehicleActivity) : Json := .record fields e.values

/-- Read the entity; every field may be missing. -/
def decoder : Decoder Json VehicleActivity := Record.read false fields fun r =>
  VehicleActivity.mk
    <$> r.optional "recordedAtTime" Decoder.timestamp
    <*> r.optional "validUntilTime" Decoder.timestamp
    <*> r.optional "vehicleRef" Decoder.string
    <*> r.optional "lineRef" Decoder.string
    <*> r.optional "directionRef" Decoder.string
    <*> r.optional "datedVehicleJourneyRef" Decoder.string
    <*> r.optional "operatorRef" Decoder.string
    <*> r.optional "dataSource" Decoder.string
    <*> r.optional "originRef" Decoder.string
    <*> r.optional "destinationRef" Decoder.string
    <*> r.optional "location" Location.decoder
    <*> r.optional "bearing" Decoder.double
    <*> r.optional "delaySeconds" Decoder.integer
    <*> r.optional "monitored" Decoder.boolean
    <*> r.optional "occupancy" Decoder.string
    <*> r.optional "monitoredCallStopRef" Decoder.string

/-- Vehicles are identified by their reference. -/
def key? (dataset : String) (e : VehicleActivity) : Option RecordKey :=
  e.vehicleRef.map fun vehicle => { dataset, primary := vehicle }

/-- The values a vehicle carries in each dimension. -/
def carried (e : VehicleActivity) : Dimension → List String
  | .lineRef => e.lineRef.toList
  | .vehicleRef => e.vehicleRef.toList
  | .stopRef => e.callStopRef.toList
  | _ => []

/-- The fields whose change counts: all but the freshness stamp. -/
def stableFields : List String := [
  "recorded_at_time", "vehicle_ref", "line_ref", "direction_ref", "dated_vehicle_journey_ref",
  "operator_ref", "data_source", "origin_ref", "destination_ref", "location", "bearing",
  "delay_seconds", "monitored", "occupancy", "monitored_call_stop_ref"]

def stableValues (e : VehicleActivity) : List Json := [
  .ofOption Timestamp.toJson e.recordedAt, .ofOption .string e.vehicleRef,
  .ofOption .string e.lineRef, .ofOption .string e.directionRef, .ofOption .string e.journeyRef,
  .ofOption .string e.operatorRef, .ofOption .string e.dataSource, .ofOption .string e.originRef,
  .ofOption .string e.destinationRef, .ofOption Location.toJson e.location,
  .ofOption .double e.bearing, .ofOption .signed e.delaySeconds, .ofOption .boolean e.monitored,
  .ofOption .string e.occupancy, .ofOption .string e.callStopRef]

/-- What is hashed to a fingerprint. -/
def projection (e : VehicleActivity) : String := Profile.stableText stableFields e.stableValues

def profile : Profile VehicleActivity where
  kind := .vehicleMonitoring
  key?
  recordedAt := VehicleActivity.recordedAt
  validityEnd := validUntil
  carried
  toJson
  decoder
  fingerprint e := .ok (.ofText e.projection)

end VehicleActivity

end TransitHub
