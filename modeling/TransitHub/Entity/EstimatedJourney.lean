/-
# Estimated journeys

Timetable revisions, keyed by line and framed journey.
-/

import TransitHub.Entity.Profile

namespace TransitHub

/-- One call of a journey. -/
@[ext] structure JourneyCall where
  stopPointRef : Option String := none
  order : Option UInt32 := none
  aimedArrival : Option Timestamp := none
  expectedArrival : Option Timestamp := none
  aimedDeparture : Option Timestamp := none
  expectedDeparture : Option Timestamp := none
  cancellation : Option Bool := none
deriving DecidableEq

namespace JourneyCall

def fields : List String := [
  "stopPointRef", "order", "aimedArrivalTime", "expectedArrivalTime", "aimedDepartureTime",
  "expectedDepartureTime", "cancellation"]

def values (e : JourneyCall) : List Json := [
  .ofOption .string e.stopPointRef, .ofOption .word e.order,
  .ofOption Timestamp.toJson e.aimedArrival, .ofOption Timestamp.toJson e.expectedArrival,
  .ofOption Timestamp.toJson e.aimedDeparture, .ofOption Timestamp.toJson e.expectedDeparture,
  .ofOption .boolean e.cancellation]

def toJson (e : JourneyCall) : Json := .record fields e.values

/-- Read the entity; every field may be missing. -/
def decoder : Decoder Json JourneyCall := Record.read false fields fun r =>
  JourneyCall.mk
    <$> r.optional "stopPointRef" Decoder.string
    <*> r.optional "order" Decoder.word
    <*> r.optional "aimedArrivalTime" Decoder.timestamp
    <*> r.optional "expectedArrivalTime" Decoder.timestamp
    <*> r.optional "aimedDepartureTime" Decoder.timestamp
    <*> r.optional "expectedDepartureTime" Decoder.timestamp
    <*> r.optional "cancellation" Decoder.boolean

/-- The times of the call that are known. -/
def callTimes (c : JourneyCall) : List Timestamp :=
  [c.aimedArrival, c.expectedArrival, c.aimedDeparture, c.expectedDeparture].filterMap id

end JourneyCall

/-- A revision of the timetable of one journey. -/
@[ext] structure EstimatedJourney where
  recordedAt : Option Timestamp := none
  lineRef : Option String := none
  directionRef : Option String := none
  journeyRef : Option String := none
  dataFrameRef : Option String := none
  vehicleRef : Option String := none
  operatorRef : Option String := none
  dataSource : Option String := none
  cancellation : Option Bool := none
  extraJourney : Option Bool := none
  isComplete : Option Bool := none
  recordedCalls : List JourneyCall := []
  estimatedCalls : List JourneyCall := []
deriving DecidableEq

namespace EstimatedJourney

def fields : List String := [
  "recordedAtTime", "lineRef", "directionRef", "datedVehicleJourneyRef", "dataFrameRef",
  "vehicleRef", "operatorRef", "dataSource", "cancellation", "extraJourney",
  "isCompleteStopSequence", "recordedCalls", "estimatedCalls"]

def values (e : EstimatedJourney) : List Json := [
  .ofOption Timestamp.toJson e.recordedAt, .ofOption .string e.lineRef,
  .ofOption .string e.directionRef, .ofOption .string e.journeyRef,
  .ofOption .string e.dataFrameRef, .ofOption .string e.vehicleRef,
  .ofOption .string e.operatorRef, .ofOption .string e.dataSource,
  .ofOption .boolean e.cancellation, .ofOption .boolean e.extraJourney,
  .ofOption .boolean e.isComplete, .ofList JourneyCall.toJson e.recordedCalls,
  .ofList JourneyCall.toJson e.estimatedCalls]

def toJson (e : EstimatedJourney) : Json := .record fields e.values

/-- Read the entity; every field may be missing. -/
def decoder : Decoder Json EstimatedJourney := Record.read false fields fun r =>
  EstimatedJourney.mk
    <$> r.optional "recordedAtTime" Decoder.timestamp
    <*> r.optional "lineRef" Decoder.string
    <*> r.optional "directionRef" Decoder.string
    <*> r.optional "datedVehicleJourneyRef" Decoder.string
    <*> r.optional "dataFrameRef" Decoder.string
    <*> r.optional "vehicleRef" Decoder.string
    <*> r.optional "operatorRef" Decoder.string
    <*> r.optional "dataSource" Decoder.string
    <*> r.optional "cancellation" Decoder.boolean
    <*> r.optional "extraJourney" Decoder.boolean
    <*> r.optional "isCompleteStopSequence" Decoder.boolean
    <*> r.list "recordedCalls" JourneyCall.decoder
    <*> r.list "estimatedCalls" JourneyCall.decoder

/-- All calls, the recorded ones first. -/
def calls (e : EstimatedJourney) : List JourneyCall := e.recordedCalls ++ e.estimatedCalls

/-- The journey within its data frame, if it has one. -/
def framedJourney (e : EstimatedJourney) : Option String :=
  e.journeyRef.map fun journey =>
    match e.dataFrameRef with
    | some frame => frame ++ ":" ++ journey
    | none => journey

/-- Journeys are identified by line and framed journey. -/
def key? (dataset : String) (e : EstimatedJourney) : Option RecordKey := do
  let line ← e.lineRef
  let primary ← e.framedJourney
  return { dataset, primary, line := some line }

/-- A journey is valid until its latest call time. -/
def validityEnd (e : EstimatedJourney) : Option Timestamp :=
  Timestamp.latest (e.calls.flatMap JourneyCall.callTimes)

/-- The values a journey carries in each dimension. -/
def carried (e : EstimatedJourney) : Dimension → List String
  | .lineRef => e.lineRef.toList
  | .vehicleRef => e.vehicleRef.toList
  | .stopRef => e.calls.filterMap JourneyCall.stopPointRef
  | _ => []

/-- The fields whose change counts: all but the time of recording. -/
def stableFields : List String := [
  "line_ref", "direction_ref", "dated_vehicle_journey_ref", "data_frame_ref", "vehicle_ref",
  "operator_ref", "data_source", "cancellation", "extra_journey", "is_complete_stop_sequence",
  "recorded_calls", "estimated_calls"]

def stableValues (e : EstimatedJourney) : List Json := [
  .ofOption .string e.lineRef, .ofOption .string e.directionRef, .ofOption .string e.journeyRef,
  .ofOption .string e.dataFrameRef, .ofOption .string e.vehicleRef,
  .ofOption .string e.operatorRef, .ofOption .string e.dataSource,
  .ofOption .boolean e.cancellation, .ofOption .boolean e.extraJourney,
  .ofOption .boolean e.isComplete, .ofList JourneyCall.toJson e.recordedCalls,
  .ofList JourneyCall.toJson e.estimatedCalls]

/-- What is hashed to a fingerprint. -/
def projection (e : EstimatedJourney) : String := Profile.stableText stableFields e.stableValues

def profile : Profile EstimatedJourney where
  kind := .estimatedTimetable
  key?
  recordedAt := EstimatedJourney.recordedAt
  validityEnd
  carried
  toJson
  decoder
  fingerprint e := .ok (.ofText e.projection)

end EstimatedJourney

end TransitHub
