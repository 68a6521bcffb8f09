/-
# Hub configuration

The settings of a hub, each with a default. Grace and horizon can be replaced for each kind of data
on its own; what is not replaced keeps its standard value. Unknown settings are refused.
-/

import TransitHub.Config.Source
import TransitHub.Decode.Record
import TransitHub.Expiration
import Std.Data.ExtTreeMap

namespace TransitHub

/-- Replacements for the standard expiration policy of a kind. -/
structure ExpirationOverride where
  graceSeconds : Option UInt64 := none
  horizonSeconds : Option UInt64 := none

namespace ExpirationOverride

def fields : List String := ["grace_secs", "horizon_secs"]

def toJson (o : ExpirationOverride) : Json :=
  .record fields [.ofOption .count o.graceSeconds, .ofOption .count o.horizonSeconds]

def decoder {δ : Type} [Document δ] : Decoder δ ExpirationOverride :=
  Record.read true fields fun r =>
    ExpirationOverride.mk
      <$> r.optional "grace_secs" Decoder.count
      <*> r.optional "horizon_secs" Decoder.count

/-- A policy with the replacements made. -/
def apply (o : ExpirationOverride) (p : ExpirationPolicy) : ExpirationPolicy where
  grace := match o.graceSeconds with
    | some n => .ofSeconds n.toNat
    | none => p.grace
  horizon := match o.horizonSeconds with
    | some n => .ofSeconds n.toNat
    | none => p.horizon

end ExpirationOverride

/-- The settings of a hub. -/
structure HubConfig where
  /-- How long a polling consumer is remembered. -/
  trackingPeriodSeconds : UInt64 := 600
  commitIntervalMillis : UInt64 := 2000
  /-- Entities in one payload for subscriptions to all datasets. -/
  maxElements : UInt64 := 1000
  pushWorkers : UInt64 := 16
  pushQueueSize : UInt64 := 4096
  pushConnectTimeoutMillis : UInt64 := 5000
  pushSocketTimeoutMillis : UInt64 := 15000
  heartbeatScanIntervalMillis : UInt64 := 1000
  storePurgeIntervalMillis : UInt64 := 10000
  subscriptionRefreshIntervalMillis : UInt64 := 5000
  /-- The reference of the producer in payloads. -/
  producer : String := "siri-hub"
  expiration : Std.ExtTreeMap DataKind ExpirationOverride compare := ∅

namespace HubConfig

def default : HubConfig := {}

def fields : List String := [
  "tracking_period_secs", "commit_interval_ms", "default_max_elements_per_delivery",
  "push_workers", "push_queue_size", "push_connect_timeout_ms", "push_socket_timeout_ms",
  "heartbeat_scan_interval_ms", "store_purge_interval_ms", "subscription_refresh_interval_ms",
  "producer_ref", "expiration"]

def toJson (c : HubConfig) : Json := .record fields [
  .count c.trackingPeriodSeconds, .count c.commitIntervalMillis, .count c.maxElements,
  .count c.pushWorkers, .count c.pushQueueSize, .count c.pushConnectTimeoutMillis,
  .count c.pushSocketTimeoutMillis, .count c.heartbeatScanIntervalMillis,
  .count c.storePurgeIntervalMillis, .count c.subscriptionRefreshIntervalMillis,
  .string c.producer, .object (c.expiration.toList.map fun (k, o) => (k.name, o.toJson))]

/-- Read overrides by kind; of two for one kind the last counts. -/
def overrides {δ : Type} [Document δ] :
    Decoder δ (Std.ExtTreeMap DataKind ExpirationOverride compare) := fun d =>
  (Decoder.keyed DataKind.table ExpirationOverride.decoder d).map fun es =>
    es.foldl (fun m e => m.insert e.1 e.2) ∅

def decoder {δ : Type} [Document δ] : Decoder δ HubConfig := Record.read true fields fun r =>
  HubConfig.mk
    <$> r.defaulted "tracking_period_secs" default.trackingPeriodSeconds Decoder.count
    <*> r.defaulted "commit_interval_ms" default.commitIntervalMillis Decoder.count
    <*> r.defaulted "default_max_elements_per_delivery" default.maxElements Decoder.count
    <*> r.defaulted "push_workers" default.pushWorkers Decoder.count
    <*> r.defaulted "push_queue_size" default.pushQueueSize Decoder.count
    <*> r.defaulted "push_connect_timeout_ms" default.pushConnectTimeoutMillis Decoder.count
    <*> r.defaulted "push_socket_timeout_ms" default.pushSocketTimeoutMillis Decoder.count
    <*> r.defaulted "heartbeat_scan_interval_ms" default.heartbeatScanIntervalMillis Decoder.count
    <*> r.defaulted "store_purge_interval_ms" default.storePurgeIntervalMillis Decoder.count
    <*> r.defaulted "subscription_refresh_interval_ms" default.subscriptionRefreshIntervalMillis
      Decoder.count
    <*> r.defaulted "producer_ref" default.producer Decoder.string
    <*> r.defaulted "expiration" default.expiration overrides

def ofText (text : String) : Except DecodeError HubConfig := Json5.decode decoder text

/-- The expiration policy of a kind. -/
def policy (c : HubConfig) (k : DataKind) : ExpirationPolicy :=
  match c.expiration[k]? with
  | some o => o.apply (.standard k)
  | none => .standard k

/-- How long a polling consumer is remembered after a poll. -/
def trackingPeriod (c : HubConfig) : Duration := .ofSeconds c.trackingPeriodSeconds.toNat

def commitInterval (c : HubConfig) : Duration := .ofMillis c.commitIntervalMillis.toNat

/-- How long connecting to a consumer may take. -/
def pushConnectTimeout (c : HubConfig) : Duration := .ofMillis c.pushConnectTimeoutMillis.toNat

/-- How long a consumer may take to answer. -/
def pushSocketTimeout (c : HubConfig) : Duration := .ofMillis c.pushSocketTimeoutMillis.toNat

/-- The time between looks for due heartbeats. -/
def heartbeatScanInterval (c : HubConfig) : Duration :=
  .ofMillis c.heartbeatScanIntervalMillis.toNat

/-- The time between sweeps of the stores. -/
def storePurgeInterval (c : HubConfig) : Duration := .ofMillis c.storePurgeIntervalMillis.toNat

/-- The time between rebuilds of the directory of subscriptions. -/
def subscriptionRefreshInterval (c : HubConfig) : Duration :=
  .ofMillis c.subscriptionRefreshIntervalMillis.toNat

end HubConfig

/-- Why a configuration is not available. -/
inductive ConfigError
  | unreadable (path : String) (fault : ReadFault)
  | malformed (e : DecodeError)

namespace ConfigError

/-- The wording of an error with the wording of its cause. -/
def wording (cause : String) : ConfigError → String
  | unreadable path _ => "unable to read config file " ++ path ++ ": " ++ cause
  | malformed _ => "unable to parse config: " ++ cause

/-- The wording of the cause, if it has one. -/
def cause? : ConfigError → Option String
  | unreadable _ fault => some fault.message
  | malformed e => e.message?

/-- The wording of an error, if it has one. -/
def message? (e : ConfigError) : Option String := e.cause?.map e.wording

end ConfigError

namespace HubConfig

/-- Read settings, with the error that a configuration reports. -/
def parse (text : String) : Except ConfigError HubConfig := (ofText text).mapError .malformed

def load (fs : FileSystem) (path : String) : Except ConfigError HubConfig :=
  match fs path with
  | .error fault => .error (.unreadable path fault)
  | .ok text => parse text

end HubConfig

end TransitHub
