/-
# Log events

What the hub reports about its work, one constructor for each kind of event, and how an event is
written: its name, the component that reports it, a level, and its own fields. Spans of time are
written in whole milliseconds.
-/

import TransitHub.DataKind
import TransitHub.Store.Summary

namespace TransitHub

/-- How important an event is. -/
inductive LogLevel
  | trace
  | debug
  | info
  | warn
  | error
deriving DecidableEq

def LogLevel.name : LogLevel → String
  | trace => "TRACE"
  | debug => "DEBUG"
  | info => "INFO"
  | warn => "WARN"
  | error => "ERROR"

/-- An event. -/
inductive LogEvent
  | batchIngested (kind : DataKind) (dataset : String) (summary : UpsertSummary)
  /-- An item has no fingerprint and counts as changed. -/
  | fingerprintFailed (kind : DataKind) (key : String) (reason : String)
  | datasetCleared (kind : DataKind) (dataset : String) (removed : Nat)
  | itemUndecodable (kind : DataKind) (dataset : String)
  | dispatchFailed (kind : DataKind) (dataset : String) (changed : Nat)
  | snapshotScheduled (kind : DataKind) (subscription : String) (items : Nat) (scheduled : Bool)
  | ingestCounted (kind : DataKind) (dataset : String) (summary : UpsertSummary)
  | storeSwept (store : String) (dropped : Nat)
  | committed (kind : DataKind) (keys consumers : Nat)
  | flushed (kind : DataKind) (keys : Nat)
  | polled (kind : DataKind) (consumer : String) (known : Bool) (served : Nat) (more : Bool)
  | subscriptionAdded (id : String) (kind : DataKind) (dataset : Option String) (address : String)
      (version : Nat)
  | subscriptionRejected (id : String) (code reason : String)
  | subscriptionTerminated (id : String) (version : Nat)
  | subscriptionExpired (id : String) (kind : DataKind)
  | lookupEmpty (kind : DataKind) (dataset : String) (version : Nat)
  | directoryRebuilt (version subscriptions staleStreaks : Nat)
  | batchDispatched (kind : DataKind) (dataset : String) (changed scheduled : Nat)
  /-- An entity cannot be written and is left out. -/
  | entityDropped (id : String) (reason : String)
  | payloadFailed (id : String) (content : String) (reason : String)
  /-- The notice of a termination could not be queued. -/
  | noticeDropped (id : String)
  | sendAttempted (id address : String) (chunk chunks : Nat)
  | sendFailed (id address : String) (chunk chunks : Nat) (reason : String)
  | autoCancelled (id address : String) (failingFor grace : Duration) (reason : String)
  | recovered (id : String)
  | heartbeatsScanned (subscriptions sent : Nat)
  | queueFull (id : String)
  | poolClosed (id : String)
  | jobCrashed
  | workerStopped
  | loopStarted (task : String) (period : Duration)
  | tickCrashed (task : String)
  | loopStopped (task : String)
  | hubStarted (tasks : Nat) (commitInterval : Duration)
  | hubStopped (keys : Nat)

namespace LogEvent

/-- How a dataset is written that may be any. -/
def datasetOrAll (dataset : Option String) : String := dataset.getD "*"

/-- The name of an event, the component that reports it, and its level. -/
def header : LogEvent → String × String × LogLevel
  | batchIngested .. => ("ingest_batch", "entity_store", .debug)
  | fingerprintFailed .. => ("checksum_failed", "entity_store", .warn)
  | datasetCleared .. => ("dataset_cleared", "entity_store", .debug)
  | itemUndecodable .. => ("ingest_item_undecodable", "kind_engine", .warn)
  | dispatchFailed .. => ("dispatch_task_failed", "kind_engine", .error)
  | snapshotScheduled .. => ("initial_snapshot_scheduled", "kind_engine", .info)
  | ingestCounted .. => ("ingest_metrics", "metrics", .debug)
  | storeSwept .. => ("store_purge", "memory_store", .trace)
  | committed .. => ("tracker_commit_ok", "change_tracker", .debug)
  | flushed .. => ("tracker_flush", "change_tracker", .trace)
  | polled .. => ("tracker_read", "change_tracker", .debug)
  | subscriptionAdded .. => ("subscription_added", "subscription_registry", .info)
  | subscriptionRejected .. => ("subscription_rejected", "subscription_registry", .warn)
  | subscriptionTerminated .. => ("subscription_terminated", "subscription_registry", .info)
  | subscriptionExpired .. => ("subscription_expired", "subscription_registry", .info)
  | lookupEmpty .. => ("subscription_lookup_empty", "subscription_registry", .debug)
  | directoryRebuilt .. => ("subscription_snapshot_rebuild_ok", "subscription_registry", .debug)
  | batchDispatched .. => ("delivery_batch", "delivery_dispatcher", .debug)
  | entityDropped .. => ("payload_build_failed", "delivery_dispatcher", .warn)
  | payloadFailed .. => ("payload_build_failed", "delivery_dispatcher", .warn)
  | noticeDropped .. => ("payload_build_failed", "siri_hub", .warn)
  | sendAttempted .. => ("push_send_attempt", "delivery_dispatcher", .debug)
  | sendFailed .. => ("push_send_failed", "delivery_dispatcher", .warn)
  | autoCancelled .. => ("subscription_auto_cancelled", "delivery_dispatcher", .warn)
  | recovered .. => ("subscription_recovered", "delivery_dispatcher", .info)
  | heartbeatsScanned .. => ("heartbeat_scan", "heartbeat_scheduler", .trace)
  | queueFull .. => ("push_queue_full", "push_pool", .warn)
  | poolClosed .. => ("push_pool_closed", "push_pool", .warn)
  | jobCrashed => ("push_job_panicked", "push_pool", .error)
  | workerStopped => ("push_worker_stopped", "push_pool", .info)
  | loopStarted .. => ("periodic_task_start", "periodic_task", .debug)
  | tickCrashed .. => ("periodic_tick_panicked", "periodic_task", .error)
  | loopStopped .. => ("periodic_task_stopped", "periodic_task", .debug)
  | hubStarted .. => ("hub_started", "siri_hub", .info)
  | hubStopped .. => ("hub_shutdown", "siri_hub", .info)

/-- A span of time in whole milliseconds. -/
def millis (d : Duration) : Json := .natural d.wholeMillis

def fields : LogEvent → List (String × Json)
  | batchIngested kind dataset s =>
    ("kind", kind.toJson) :: ("dataset_id", .string dataset) :: s.members
  | fingerprintFailed kind key reason =>
    [("kind", kind.toJson), ("record_key", .string key), ("err", .string reason)]
  | datasetCleared kind dataset removed =>
    [("kind", kind.toJson), ("dataset_id", .string dataset), ("removed", .natural removed)]
  | itemUndecodable kind dataset => [("kind", kind.toJson), ("dataset_id", .string dataset)]
  | dispatchFailed kind dataset changed =>
    [("kind", kind.toJson), ("dataset_id", .string dataset), ("changed", .natural changed)]
  | snapshotScheduled kind subscription items scheduled =>
    [("kind", kind.toJson), ("subscription_id", .string subscription), ("items", .natural items),
      ("scheduled", .boolean scheduled)]
  | ingestCounted kind dataset s =>
    [("kind", kind.toJson), ("dataset_id", .string dataset), ("total", .natural s.total),
      ("updated", .natural s.addedOrUpdated),
      ("expired_or_discarded", .natural s.expiredOrDiscarded), ("ignored", .natural s.ignored)]
  | storeSwept store dropped => [("store", .string store), ("purged", .natural dropped)]
  | committed kind keys consumers =>
    [("kind", kind.toJson), ("keys", .natural keys), ("consumers", .natural consumers)]
  | flushed kind keys => [("kind", kind.toJson), ("flushed", .natural keys)]
  | polled kind consumer known served more =>
    [("kind", kind.toJson), ("consumer_id", .string consumer), ("known_consumer", .boolean known),
      ("served", .natural served), ("more_data", .boolean more)]
  | subscriptionAdded id kind dataset address version =>
    [("subscription_id", .string id), ("kind", kind.toJson),
      ("dataset_id", .string (datasetOrAll dataset)), ("consumer_address", .string address),
      ("snapshot_version", .natural version)]
  | subscriptionRejected id code reason =>
    [("subscription_id", .string id), ("reason", .string code), ("err", .string reason)]
  | subscriptionTerminated id version =>
    [("subscription_id", .string id), ("snapshot_version", .natural version)]
  | subscriptionExpired id kind => [("subscription_id", .string id), ("kind", kind.toJson)]
  | lookupEmpty kind dataset version =>
    [("kind", kind.toJson), ("dataset_id", .string dataset), ("snapshot_version", .natural version)]
  | directoryRebuilt version subscriptions staleStreaks =>
    [("snapshot_version", .natural version), ("subscriptions", .natural subscriptions),
      ("stale_streaks", .natural staleStreaks)]
  | batchDispatched kind dataset changed scheduled =>
    [("kind", kind.toJson), ("dataset_id", .string dataset), ("changed", .natural changed),
      ("scheduled", .natural scheduled)]
  | entityDropped id reason => [("subscription_id", .string id), ("err", .string reason)]
  | payloadFailed id content reason =>
    [("subscription_id", .string id), ("content", .string content), ("err", .string reason)]
  | noticeDropped id => [("subscription_id", .string id)]
  | sendAttempted id address chunk chunks =>
    [("subscription_id", .string id), ("address", .string address), ("chunk", .natural chunk),
      ("chunks", .natural chunks)]
  | sendFailed id address chunk chunks reason =>
    [("subscription_id", .string id), ("address", .string address), ("chunk", .natural chunk),
      ("chunks", .natural chunks), ("err", .string reason)]
  | autoCancelled id address failingFor grace reason =>
    [("subscription_id", .string id), ("address", .string address),
      ("failing_for_ms", millis failingFor), ("grace_ms", millis grace), ("err", .string reason)]
  | recovered id => [("subscription_id", .string id)]
  | heartbeatsScanned subscriptions sent =>
    [("subscriptions", .natural subscriptions), ("sent", .natural sent)]
  | queueFull id => [("subscription_id", .string id)]
  | poolClosed id => [("subscription_id", .string id)]
  | jobCrashed => []
  | workerStopped => [("reason", .string "queue_closed")]
  | loopStarted task period => [("task", .string task), ("period_ms", millis period)]
  | tickCrashed task => [("task", .string task)]
  | loopStopped task => [("task", .string task), ("reason", .string "shutdown")]
  | hubStarted tasks commitInterval =>
    [("tasks", .natural tasks), ("commit_interval_ms", millis commitInterval)]
  | hubStopped keys => [("flushed", .natural keys)]

def toJson (e : LogEvent) : Json :=
  let (event, component, level) := e.header
  .object (("event", .string event) :: ("component", .string component) ::
    ("level", .string level.name) :: e.fields)

end LogEvent

end TransitHub
