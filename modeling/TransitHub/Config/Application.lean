/-
# Application configuration and replay files

An application starts a hub with its settings, registers subscriptions, and replays recorded
batches. A replay file holds a list of batches or a single one. It is examined as a whole before it
is read, so a number that no item can hold spoils the file wherever it stands.
-/

import TransitHub.Config.Hub
import TransitHub.Push.Subscription

namespace TransitHub

/-- What an application starts with. -/
structure Application where
  hub : HubConfig := {}
  /-- Subscriptions that are registered at the start. -/
  subscriptions : List SubscriptionRequest := []
  /-- Files whose batches are ingested in order. -/
  replayFiles : List String := []

namespace Application

def fields : List String := ["hub", "subscriptions", "replay_files"]

/-- Read a configuration; each part may be missing, and there are no others. -/
def decoder {δ : Type} [Document δ] : Decoder δ Application := Record.read true fields fun r =>
  Application.mk
    <$> r.defaulted "hub" HubConfig.default HubConfig.decoder
    <*> r.list "subscriptions" SubscriptionRequest.decoder
    <*> r.list "replay_files" Decoder.string

/-- Read a configuration from a JSON5 text. -/
def ofText (text : String) : Except DecodeError Application := Json5.decode decoder text

end Application

/-- A recorded batch. -/
structure ReplayBatch where
  kind : DataKind
  dataset : String
  items : List Json

namespace ReplayBatch

def fields : List String := ["kind", "dataset_id", "items"]

def toJson (b : ReplayBatch) : Json :=
  .record fields [b.kind.toJson, .string b.dataset, .array b.items]

/-- Read an item as it stands. -/
def item : Decoder Buffered Json := fun d =>
  match d.document.untyped? with
  | some j => .ok j
  | none => .error .mismatch

/-- Read a batch; no part may be missing. -/
def decoder : Decoder Buffered ReplayBatch := Record.read true fields fun r =>
  ReplayBatch.mk
    <$> r.field "kind" DataKind.decoder
    <*> r.field "dataset_id" Decoder.string
    <*> r.field "items" (Decoder.list item)

/-- Read the batches of a file; all its faults count as one. -/
def fileDecoder : Decoder Json5 (List ReplayBatch) := fun d =>
  match d.untyped? with
  | none => .error .mismatch
  | some _ =>
    match Decoder.list decoder ⟨d⟩, decoder ⟨d⟩ with
    | .ok batches, _ => .ok batches
    | .error _, .ok batch => .ok [batch]
    | .error _, .error _ => .error .mismatch

/-- Read the batches of a file from its text. -/
def ofText (text : String) : Except DecodeError (List ReplayBatch) := Json5.decode fileDecoder text

end ReplayBatch

end TransitHub
