/-
# Push subscriptions

A consumer asks for pushes with a request; an accepted request becomes a subscription. A
subscription is for one kind of data, and either for one dataset or for all of them. Requests are
read strictly, stored subscriptions leniently, and both are written with all their fields.
-/

import TransitHub.EntityFilter
import TransitHub.Time.Written

namespace TransitHub

/-- A push subscription. -/
structure Subscription where
  id : String
  kind : DataKind
  /-- Where pushes are posted to. -/
  address : String
  /-- The only dataset that is wanted, if not all are. -/
  dataset : Option String
  filter : EntityFilter
  /-- Milliseconds between heartbeats; none are sent if this is zero. -/
  heartbeatMillis : UInt64
  /-- When the subscription ends. -/
  termination : Option Timestamp
  /-- Names of value adapters that the consumer asked for. -/
  valueAdapters : List String
  updateMillis : Option UInt64
  requestor : Option String
  createdAt : Timestamp

namespace Subscription

def heartbeatInterval (s : Subscription) : Duration := .ofMillis s.heartbeatMillis.toNat

/-- The time between updates that the consumer asked for. -/
def updateInterval (s : Subscription) : Option Duration :=
  s.updateMillis.map fun n => .ofMillis n.toNat

/-- Whether only one dataset is wanted. -/
def isScoped (s : Subscription) : Bool := s.dataset.isSome

/-- Whether the subscription has come to its end on the wall clock. -/
def isExpired (s : Subscription) (now : Timestamp) : Bool := s.termination.any fun t => t ≤ now

/-- Whether changes of a kind in a dataset concern the subscription. -/
def concerns (s : Subscription) (kind : DataKind) (dataset : String) : Bool :=
  s.kind = kind && s.dataset.all (· = dataset)

def fields : List String := [
  "subscriptionId", "kind", "consumerAddress", "datasetId", "filter", "heartbeatIntervalMs",
  "initialTerminationTime", "valueAdapters", "updateIntervalMs", "requestorRef", "createdAt"]

def toJson (s : Subscription) : Json := .record fields [
  .string s.id, s.kind.toJson, .string s.address, .ofOption .string s.dataset, s.filter.toJson,
  .count s.heartbeatMillis, .ofOption Timestamp.toJson s.termination, .strings s.valueAdapters,
  .ofOption .count s.updateMillis, .ofOption .string s.requestor, s.createdAt.toJson]

def decoder : Decoder Json Subscription := Record.read false fields fun r =>
  Subscription.mk
    <$> r.field "subscriptionId" Decoder.string
    <*> r.field "kind" DataKind.decoder
    <*> r.field "consumerAddress" Decoder.string
    <*> r.nullable "datasetId" Decoder.string
    <*> r.field "filter" EntityFilter.decoder
    <*> r.field "heartbeatIntervalMs" Decoder.count
    <*> r.nullable "initialTerminationTime" Decoder.timestamp
    <*> r.field "valueAdapters" (Decoder.list Decoder.string)
    <*> r.nullable "updateIntervalMs" Decoder.count
    <*> r.nullable "requestorRef" Decoder.string
    <*> r.field "createdAt" Decoder.timestamp

end Subscription

/-- A request for a subscription. -/
structure SubscriptionRequest where
  /-- The identifier, if the consumer chooses it. -/
  id : Option String := none
  kind : DataKind
  address : Option String := none
  dataset : Option String := none
  filter : EntityFilter := {}
  heartbeatMillis : UInt64 := 0
  termination : Option Timestamp := none
  valueAdapters : List String := []
  updateMillis : Option UInt64 := none
  requestor : Option String := none

namespace SubscriptionRequest

def fields : List String := [
  "subscriptionId", "kind", "consumerAddress", "datasetId", "filter", "heartbeatIntervalMs",
  "initialTerminationTime", "valueAdapters", "updateIntervalMs", "requestorRef"]

def toJson (r : SubscriptionRequest) : Json := .record fields [
  .ofOption .string r.id, r.kind.toJson, .ofOption .string r.address, .ofOption .string r.dataset,
  r.filter.toJson, .count r.heartbeatMillis, .ofOption Timestamp.toJson r.termination,
  .strings r.valueAdapters, .ofOption .count r.updateMillis, .ofOption .string r.requestor]

/-- Read a request; only the kind is required, and no other fields may be there. -/
def decoder {δ : Type} [Document δ] : Decoder δ SubscriptionRequest :=
  Record.read true fields fun r => SubscriptionRequest.mk
    <$> r.optional "subscriptionId" Decoder.string
    <*> r.field "kind" DataKind.decoder
    <*> r.optional "consumerAddress" Decoder.string
    <*> r.optional "datasetId" Decoder.string
    <*> r.defaulted "filter" EntityFilter.empty EntityFilter.decoder
    <*> r.defaulted "heartbeatIntervalMs" 0 Decoder.count
    <*> r.optional "initialTerminationTime" Decoder.timestamp
    <*> r.list "valueAdapters" Decoder.string
    <*> r.optional "updateIntervalMs" Decoder.count
    <*> r.optional "requestorRef" Decoder.string

/-- The address, unless it is missing or blank. -/
def address? (r : SubscriptionRequest) : Option String :=
  r.address.filter fun a => !a.toList.all Text.isBlank

/-- The subscription that a request asks for. -/
def subscription (r : SubscriptionRequest) (id address : String) (now : Timestamp) :
    Subscription where
  id
  kind := r.kind
  address
  dataset := r.dataset
  filter := r.filter
  heartbeatMillis := r.heartbeatMillis
  termination := r.termination
  valueAdapters := r.valueAdapters
  updateMillis := r.updateMillis
  requestor := r.requestor
  createdAt := now

end SubscriptionRequest

/-- Why a request is refused. -/
inductive Rejection
  | missingAddress
  /-- The subscription would end at once. -/
  | alreadyEnded (termination : Timestamp)
  /-- A subscription with this identifier exists for another kind. -/
  | kindConflict (existing requested : DataKind)
deriving DecidableEq

namespace Rejection

def code : Rejection → String
  | missingAddress => "missing-address"
  | alreadyEnded _ => "already-expired-termination"
  | kindConflict .. => "kind-conflict"

def message : Rejection → String
  | missingAddress => "consumer address is required"
  | alreadyEnded t => "initial termination time " ++ t.sentenceText ++ " is not in the future"
  | kindConflict existing requested =>
    "subscription already exists for " ++ existing.name ++
      ", cannot change it to " ++ requested.name

end Rejection

end TransitHub
