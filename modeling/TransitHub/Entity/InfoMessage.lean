/-
# Info messages

General messages, keyed by identifier within a channel.
-/

import TransitHub.Entity.Profile

namespace TransitHub

/-- A message to passengers. -/
@[ext] structure InfoMessage where
  recordedAt : Option Timestamp := none
  validUntil : Option Timestamp := none
  identifier : Option String := none
  version : Option UInt32 := none
  channelRef : Option String := none
  formatRef : Option String := none
  content : Option String := none
  affectedLines : List String := []
  affectedStopPoints : List String := []
deriving DecidableEq

namespace InfoMessage

def fields : List String := [
  "recordedAtTime", "validUntilTime", "infoMessageIdentifier", "infoMessageVersion",
  "infoChannelRef", "formatRef", "content", "affectedLines", "affectedStopPoints"]

def values (e : InfoMessage) : List Json := [
  .ofOption Timestamp.toJson e.recordedAt, .ofOption Timestamp.toJson e.validUntil,
  .ofOption .string e.identifier, .ofOption .word e.version, .ofOption .string e.channelRef,
  .ofOption .string e.formatRef, .ofOption .string e.content, .strings e.affectedLines,
  .strings e.affectedStopPoints]

def toJson (e : InfoMessage) : Json := .record fields e.values

/-- Read the entity; every field may be missing. -/
def decoder : Decoder Json InfoMessage := Record.read false fields fun r =>
  InfoMessage.mk
    <$> r.optional "recordedAtTime" Decoder.timestamp
    <*> r.optional "validUntilTime" Decoder.timestamp
    <*> r.optional "infoMessageIdentifier" Decoder.string
    <*> r.optional "infoMessageVersion" Decoder.word
    <*> r.optional "infoChannelRef" Decoder.string
    <*> r.optional "formatRef" Decoder.string
    <*> r.optional "content" Decoder.string
    <*> r.list "affectedLines" Decoder.string
    <*> r.list "affectedStopPoints" Decoder.string

/-- Messages are identified by their identifier within a channel. -/
def key? (dataset : String) (e : InfoMessage) : Option RecordKey :=
  e.identifier.map fun identifier =>
    { dataset, primary := identifier, discriminator := e.channelRef }

/-- The values a message carries in each dimension. -/
def carried (e : InfoMessage) : Dimension → List String
  | .channel => e.channelRef.toList
  | .lineRef => e.affectedLines
  | .stopRef => e.affectedStopPoints
  | _ => []

/-- The fields whose change counts: all but the time of recording. -/
def stableFields : List String := [
  "valid_until_time", "info_message_identifier", "info_message_version", "info_channel_ref",
  "format_ref", "content", "affected_lines", "affected_stop_points"]

def stableValues (e : InfoMessage) : List Json := [
  .ofOption Timestamp.toJson e.validUntil, .ofOption .string e.identifier,
  .ofOption .word e.version, .ofOption .string e.channelRef, .ofOption .string e.formatRef,
  .ofOption .string e.content, .strings e.affectedLines, .strings e.affectedStopPoints]

/-- What is hashed to a fingerprint. -/
def projection (e : InfoMessage) : String := Profile.stableText stableFields e.stableValues

def profile : Profile InfoMessage where
  kind := .generalMessage
  key?
  recordedAt := InfoMessage.recordedAt
  validityEnd := validUntil
  carried
  toJson
  decoder
  fingerprint e := .ok (.ofText e.projection)

end InfoMessage

end TransitHub
