/-
# Entity profiles

A profile is what the rest of the library knows about one kind of entity: how it is identified,
which of its times say how recent it is and how long it is valid, which values it carries in the
filter dimensions, how it is written and read, and which of its fields are stable.

The fingerprint of an entity is a hash of the text of its stable fields, which each kind lists on
its own. Two entities have one text when no stable field tells them apart. So, unless two texts have
the same hash, a fingerprint that did not change means that only freshness stamps did.
-/

import TransitHub.EntityFilter
import TransitHub.Json.Printer

namespace TransitHub

/-- What distinguishes two states of an entity: a hash of the text of what is stable. -/
abbrev Fingerprint := UInt64

/-- A hash to run with, byte by byte. What is proved of a hub holds for every hash. -/
def Fingerprint.ofText (text : String) : Fingerprint :=
  text.toUTF8.data.toList.foldl
    (fun print byte => (print ^^^ byte.toUInt64) * 0x100000001b3) 0xcbf29ce484222325

/-- What is known about one kind of entity. -/
structure Profile (α : Type) where
  kind : DataKind
  /-- The key in a dataset, if the identifying fields are present. -/
  key? : String → α → Option RecordKey
  /-- When the entity was recorded; it arbitrates between updates that arrive out of order. -/
  recordedAt : α → Option Timestamp
  /-- The end of validity, if there is one. -/
  validityEnd : α → Option Timestamp
  /-- The values carried in each filter dimension. -/
  carried : α → Dimension → List String
  toJson : α → Json
  decoder : Decoder Json α
  /-- The fingerprint, or why there is none. -/
  fingerprint : α → Except String Fingerprint

namespace Profile

variable {α : Type}

/-- The text of stable fields, from their names and their values in the same order. -/
def stableText (names : List String) (values : List Json) : String :=
  (Json.record names values).text

/-- The wording of why an entity has no fingerprint. -/
def fingerprintFailure (reason : String) : String := "unable to fingerprint entity: " ++ reason

/-- Whether a filter accepts an entity by the values it carries. -/
def selects (p : Profile α) (f : EntityFilter) (e : α) : Bool := f.acceptsValues (p.carried e)

end Profile

end TransitHub
