/-
# Situations

Disruptions, keyed by situation number and participant.
-/

import TransitHub.Entity.Profile

namespace TransitHub

/-- A span of validity; without an end it lasts until further notice. -/
@[ext] structure ValidityPeriod where
  start : Option Timestamp := none
  stop : Option Timestamp := none
deriving DecidableEq

namespace ValidityPeriod

def fields : List String := [
  "startTime", "endTime"]

def values (e : ValidityPeriod) : List Json := [
  .ofOption Timestamp.toJson e.start, .ofOption Timestamp.toJson e.stop]

def toJson (e : ValidityPeriod) : Json := .record fields e.values

/-- Read the entity; every field may be missing. -/
def decoder : Decoder Json ValidityPeriod := Record.read false fields fun r =>
  ValidityPeriod.mk
    <$> r.optional "startTime" Decoder.timestamp
    <*> r.optional "endTime" Decoder.timestamp

end ValidityPeriod

/-- A disruption. -/
@[ext] structure Situation where
  creationTime : Option Timestamp := none
  recordedAt : Option Timestamp := none
  number : Option String := none
  participantRef : Option String := none
  version : Option UInt32 := none
  progress : Option String := none
  severity : Option String := none
  reportType : Option String := none
  summary : Option String := none
  description : Option String := none
  validityPeriods : List ValidityPeriod := []
  affectedLines : List String := []
  affectedStopPoints : List String := []
  affectedJourneys : List String := []
deriving DecidableEq

namespace Situation

def fields : List String := [
  "creationTime", "versionRecordedAt", "situationNumber", "participantRef", "version",
  "progress", "severity", "reportType", "summary", "description", "validityPeriods",
  "affectedLines", "affectedStopPoints", "affectedVehicleJourneys"]

def values (e : Situation) : List Json := [
  .ofOption Timestamp.toJson e.creationTime, .ofOption Timestamp.toJson e.recordedAt,
  .ofOption .string e.number, .ofOption .string e.participantRef, .ofOption .word e.version,
  .ofOption .string e.progress, .ofOption .string e.severity, .ofOption .string e.reportType,
  .ofOption .string e.summary, .ofOption .string e.description,
  .ofList ValidityPeriod.toJson e.validityPeriods, .strings e.affectedLines,
  .strings e.affectedStopPoints, .strings e.affectedJourneys]

def toJson (e : Situation) : Json := .record fields e.values

/-- Read the entity; every field may be missing. -/
def decoder : Decoder Json Situation := Record.read false fields fun r =>
  Situation.mk
    <$> r.optional "creationTime" Decoder.timestamp
    <*> r.optional "versionRecordedAt" Decoder.timestamp
    <*> r.optional "situationNumber" Decoder.string
    <*> r.optional "participantRef" Decoder.string
    <*> r.optional "version" Decoder.word
    <*> r.optional "progress" Decoder.string
    <*> r.optional "severity" Decoder.string
    <*> r.optional "reportType" Decoder.string
    <*> r.optional "summary" Decoder.string
    <*> r.optional "description" Decoder.string
    <*> r.list "validityPeriods" ValidityPeriod.decoder
    <*> r.list "affectedLines" Decoder.string
    <*> r.list "affectedStopPoints" Decoder.string
    <*> r.list "affectedVehicleJourneys" Decoder.string

/-- Situations are identified by number and participant. -/
def key? (dataset : String) (e : Situation) : Option RecordKey :=
  e.number.map fun number => { dataset, primary := number, discriminator := e.participantRef }

/-- A situation is valid until its last period ends; an open period has no end. -/
def validityEnd (e : Situation) : Option Timestamp :=
  if e.validityPeriods.any fun p => p.stop.isNone then none
  else Timestamp.latest (e.validityPeriods.filterMap ValidityPeriod.stop)

/-- The values a situation carries in each dimension. -/
def carried (e : Situation) : Dimension → List String
  | .lineRef => e.affectedLines
  | .stopRef => e.affectedStopPoints
  | .vehicleRef => e.affectedJourneys
  | _ => []

/-- The fields whose change counts, which are all. -/
def stableFields : List String := [
  "creation_time", "version_recorded_at", "situation_number", "participant_ref", "version",
  "progress", "severity", "report_type", "summary", "description", "validity_periods",
  "affected_lines", "affected_stop_points", "affected_vehicle_journeys"]

def stableValues (e : Situation) : List Json := [
  .ofOption Timestamp.toJson e.creationTime, .ofOption Timestamp.toJson e.recordedAt,
  .ofOption .string e.number, .ofOption .string e.participantRef, .ofOption .word e.version,
  .ofOption .string e.progress, .ofOption .string e.severity, .ofOption .string e.reportType,
  .ofOption .string e.summary, .ofOption .string e.description,
  .ofList ValidityPeriod.toJson e.validityPeriods, .strings e.affectedLines,
  .strings e.affectedStopPoints, .strings e.affectedJourneys]

/-- What is hashed to a fingerprint. -/
def projection (e : Situation) : String := Profile.stableText stableFields e.stableValues

def profile : Profile Situation where
  kind := .situationExchange
  key?
  recordedAt := Situation.recordedAt
  validityEnd
  carried
  toJson
  decoder
  fingerprint e := .ok (.ofText e.projection)

end Situation

end TransitHub
