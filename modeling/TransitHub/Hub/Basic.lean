/-
# The hub

The hub joins the feeds of all kinds with the dispatching of pushes. Batches are ingested into the
feed of their kind; what they change is noted for pollers and, if anyone has subscribed, dispatched.
A new subscription to a kind that wants it is sent the current state.

All time is in the hub's clocks, which stand still during an operation. After every operation the
workers of the dispatcher go on until nothing can move. What the hub reports and what it posts is
collected until it is taken.
-/

import TransitHub.Hub.Feeds
import TransitHub.Metrics
import TransitHub.PeriodicLoop
import TransitHub.Push.HeartbeatSchedule

namespace TransitHub

/-- What a background loop of the hub does. -/
inductive Task
  | commit (kind : DataKind)
  | heartbeatScan
  | subscriptionRefresh
  | storePurge
deriving DecidableEq

def Task.name : Task → String
  | commit .situationExchange => "commit-situations"
  | commit .vehicleMonitoring => "commit-vehicles"
  | commit .estimatedTimetable => "commit-estimated-journeys"
  | commit .stopMonitoring => "commit-stop-visits"
  | commit .generalMessage => "commit-general-messages"
  | commit .facilityMonitoring => "commit-facilities"
  | heartbeatScan => "heartbeat-scan"
  | subscriptionRefresh => "subscription-refresh"
  | storePurge => "store-purge"

/-- How far the shutdown of a hub has come. -/
inductive Shutdown
  /-- None was asked for. -/
  | notAsked
  /-- Workers are still busy; the number of keys that were flushed. -/
  | waiting (flushed : Nat)
  | finished
deriving DecidableEq

/-- The state of a hub. -/
structure Hub where
  config : HubConfig
  clock : Clock
  feeds : Feeds
  dispatcher : Dispatcher
  heartbeats : HeartbeatSchedule := {}
  totals : IngestTotals := {}
  /-- Whether the stores are swept. -/
  sweeps : Bool := true
  started : Bool := false
  /-- The background loops, in the order in which they were last set up. -/
  loops : List (Task × PeriodicLoop) := []
  /-- The shutdown that closed the pool. -/
  shutdown : Shutdown := .notAsked
  /-- Whether the last shutdown that was asked for has finished. -/
  lastShutdown : Option Bool := none

namespace Hub

def new (config : HubConfig) (builder : PayloadBuilder) (clock : Clock)
    (hash : String → Fingerprint := Fingerprint.ofText) : Hub where
  config
  clock
  feeds := .empty config hash
  dispatcher :=
    { pool := .new config.pushWorkers.toNat config.pushQueueSize.toNat
      builder
      maxElements := config.maxElements.toNat }

def now (h : Hub) : Instant := h.clock.now

def registry (h : Hub) : Registry := h.dispatcher.outbound.registry

/-- What was posted since it was last taken. -/
def posts (h : Hub) : List Post := h.dispatcher.outbound.posts

/-- What was reported since it was last taken. -/
def journal (h : Hub) : List LogEvent := h.dispatcher.outbound.journal.reverse

/-- The hub after its posts and reports were taken. -/
def taken (h : Hub) : Hub :=
  { h with
    dispatcher := { h.dispatcher with
      outbound := { h.dispatcher.outbound with posts := [], journal := [] } } }

def report (h : Hub) (es : List LogEvent) : Hub := { h with dispatcher := h.dispatcher.report es }

/-- Let the workers go on. A shutdown that waits for them may finish. -/
def settle (h : Hub) : Hub :=
  let h := { h with dispatcher := h.dispatcher.settle h.now }
  match h.shutdown with
  | .waiting flushed =>
    if h.dispatcher.pool.isIdle then
      { h with shutdown := .finished, lastShutdown := some true }.report [.hubStopped flushed]
    else h
  | .notAsked => h
  | .finished => h

/-! ## Feeds -/

def setFeed (h : Hub) (k : DataKind) (f : Feed k.Entity) : Hub :=
  { h with feeds := h.feeds.set k f }

/-- The reports about an ingested batch. -/
def storeEvents (k : DataKind) (dataset : String) (r : UpsertResult k.Entity) : List LogEvent :=
  r.unprinted.map (fun (key, reason) =>
    .fingerprintFailed k key.text (Profile.fingerprintFailure reason)) ++
  [.batchIngested k dataset r.summary]

def dispatch (h : Hub) (k : DataKind) (dataset : String) (changed : List k.Entity) : Hub :=
  match h.dispatcher.onChange h.clock k.profile dataset changed with
  | (some _, dispatcher) => { h with dispatcher }
  | (none, dispatcher) =>
    { h with dispatcher }.report [.dispatchFailed k dataset changed.length]

/-- Count and report an ingested batch, and dispatch what it changed if there is any
subscription. -/
def concludeIngest (h : Hub) (k : DataKind) (dataset : String) (i : Ingested k.Entity) :
    UpsertSummary × Hub :=
  let h := { h with totals := h.totals.add i.summary }.report
    (.ingestCounted k dataset i.summary :: storeEvents k dataset i.result)
  let h := if i.result.changed.isEmpty || h.registry.size h.now = 0 then h
    else h.dispatch k dataset i.result.changedValues
  (i.summary, h.settle)

def ingest (h : Hub) (k : DataKind) (dataset : String) (items : List k.Entity) :
    UpsertSummary × Hub :=
  let (i, feed) := (h.feeds.get k).ingest h.clock dataset items 0
  (h.setFeed k feed).concludeIngest k dataset i

def ingestJson (h : Hub) (k : DataKind) (dataset : String) (items : List Json) :
    UpsertSummary × Hub :=
  let (i, feed) := (h.feeds.get k).ingestJson h.clock dataset items
  let unread := List.replicate i.undecodable (.itemUndecodable k dataset)
  ((h.setFeed k feed).report unread).concludeIngest k dataset i

/-- Put a batch into the store of a kind without telling anyone. -/
def upsert (h : Hub) (k : DataKind) (dataset : String) (items : List k.Entity) :
    UpsertResult k.Entity × Hub :=
  let feed := h.feeds.get k
  let (result, store) := feed.store.upsertAll h.clock dataset items
  (result, (h.setFeed k { feed with store }).report (storeEvents k dataset result))

/-- Note for pollers that keys have changed. -/
def recordChange (h : Hub) (k : DataKind) (keys : KeySet) : Hub :=
  let feed := h.feeds.get k
  h.setFeed k { feed with tracker := feed.tracker.recordChange keys }

def poll (h : Hub) (k : DataKind) (consumer : String) (request : ReadRequest) :
    ReadResult k.Entity × Hub :=
  let (result, feed) := (h.feeds.get k).poll h.now consumer request
  (result, (h.setFeed k feed).report
    [.polled k consumer result.known result.served.length result.more])

/-- Merge the buffered changes of a kind into the change sets of its pollers. -/
def commit (h : Hub) (k : DataKind) : Nat × Hub :=
  let (r, feed) := (h.feeds.get k).commit h.now
  let h := h.setFeed k feed
  (r.keys, if r.keys = 0 then h else h.report [.committed k r.keys r.consumers])

/-- Commit until nothing is buffered. -/
def flush (h : Hub) (k : DataKind) : Nat × Hub :=
  let (n, h) := h.commit k
  (n, h.report [.flushed k n])

/-- Flush some kinds in their order; the answer is the number of keys of all of them. -/
def flushEach (h : Hub) (ks : List DataKind) : Nat × Hub :=
  ks.foldl (fun (total, h) k => let (n, h) := h.flush k; (total + n, h)) (0, h)

/-- Drop the records of a dataset in the store of a kind. -/
def clear (h : Hub) (k : DataKind) (dataset : String) : Nat × Hub :=
  let (n, feed) := (h.feeds.get k).clear h.now dataset
  (n, (h.setFeed k feed).report [.datasetCleared k dataset n])

/-- Drop the records of a dataset in the stores of some kinds; the answer is their number. -/
def clearEach (h : Hub) (ks : List DataKind) (dataset : String) : Nat × Hub :=
  ks.foldl (fun (total, h) k => let (n, h) := h.clear k dataset; (total + n, h)) (0, h)

/-- The report about one swept store. -/
def sweepEvent (store : String) (dropped : Nat) : List LogEvent :=
  if dropped = 0 then [] else [.storeSwept store dropped]

/-- Drop what is past its deadline in the stores of a kind. -/
def sweepFeed (h : Hub) (k : DataKind) : Hub :=
  let feed := h.feeds.get k
  let swept := feed.sweepable h.now
  (h.setFeed k (feed.sweep h.now)).report
    (sweepEvent (k.storeName ++ "-records") swept.records ++
      sweepEvent (k.storeName ++ "-checksums") swept.checksums ++
      sweepEvent (k.storeName ++ "-change-sets") swept.changeSets)

/-- Drop what is past its deadline in all stores. -/
def sweep (h : Hub) : Hub :=
  if h.sweeps then
    let dropped := h.registry.subscriptions.expired h.now
    let outbound := { h.dispatcher.outbound with registry := h.registry.sweep h.now }
    let h := { h with dispatcher := { h.dispatcher with outbound } }.report
      (sweepEvent "subscriptions" dropped)
    DataKind.all.foldl sweepFeed h
  else h

/-! ## Subscriptions -/

/-- What a subscription selects among the records of a store. -/
def snapshotFilter (s : Subscription) : EntityFilter :=
  match s.dataset with
  | some dataset => s.filter.adding .datasetId [dataset]
  | none => s.filter

/-- The entities of a kind that a subscription is sent at the start. -/
def snapshot (h : Hub) (k : DataKind) (s : Subscription) : List k.Entity :=
  (h.feeds.get k).store.query h.now (snapshotFilter s)

/-- Send a subscription the current state of a kind. -/
def deliverSnapshot (h : Hub) (k : DataKind) (s : Subscription) : Hub :=
  let items := h.snapshot k s
  let documents := items.map fun e => .ok (k.profile.toJson e)
  let (submission, dispatcher) := h.dispatcher.deliver h.clock.wall k s documents
  let h := { h with dispatcher }
  let h := match submission with
    | .queued => h.report [.snapshotScheduled k s.id items.length true]
    | .refused => h.report [.snapshotScheduled k s.id items.length false]
    | .crashed => h
  h.settle

/-- Accept or refuse a request. A subscription that is accepted may be sent the current state.
`fresh` is the identifier of a request that does not choose one. -/
def subscribe (h : Hub) (fresh : String) (request : SubscriptionRequest) :
    Except Rejection Subscription × Hub :=
  match h.dispatcher.subscribe h.clock (request.id.getD fresh) request with
  | (.error e, dispatcher) => (.error e, { h with dispatcher })
  | (.ok s, dispatcher) =>
    let h := { h with dispatcher }
    let wanted := s.kind.wantsSnapshot && h.registry.contains h.now s.id
    (.ok s, if wanted then h.deliverSnapshot s.kind s else h)

/-- Remove a subscription, and tell its consumer if asked to. The answer is whether there was
one. -/
def terminate (h : Hub) (id : String) (acknowledge : Bool) : Bool × Hub :=
  match h.dispatcher.terminate h.now id with
  | (none, dispatcher) => (false, { h with dispatcher })
  | (some s, dispatcher) =>
    let h := { h with dispatcher }
    if acknowledge then
      let (submission, dispatcher) := h.dispatcher.sendTermination h.clock.wall s
      let h := { h with dispatcher }
      let h := match submission with
        | .queued => h
        | .refused => h.report [.noticeDropped id]
        | .crashed => h
      (true, h.settle)
    else (true, h)

/-- The listed subscriptions with how long they have been failing at an instant. -/
def status (h : Hub) (now : Instant) : List (Subscription × Option Duration) :=
  h.registry.status h.clock.wall now

/-- Build the directory of subscriptions anew; the answer is its version. -/
def refresh (h : Hub) : Nat × Hub :=
  let (version, dispatcher) := h.dispatcher.refresh h.now
  (version, { h with dispatcher })

/-- The subscriptions that changes of a kind in a dataset concern. -/
def matching (h : Hub) (k : DataKind) (dataset : String) : List Subscription × Hub :=
  let (found, dispatcher) := h.dispatcher.matching h.clock k dataset
  (found, { h with dispatcher })

/-- Note a push that failed at an instant. -/
def noteFailure (h : Hub) (failedAt : Instant) (s : Subscription) (e : PushError) :
    FailureOutcome × Hub :=
  let (outcome, outbound) := h.dispatcher.outbound.noteFailure h.now failedAt s e
  (outcome, { h with dispatcher := { h.dispatcher with outbound } })

/-- Note that everything was posted to a subscription. -/
def noteSuccess (h : Hub) (id : String) : Hub :=
  { h with dispatcher := { h.dispatcher with outbound := h.dispatcher.outbound.noteSuccess id } }

/-- Send the heartbeats that are due at an instant by a schedule. -/
def scanWith (h : Hub) (schedule : HeartbeatSchedule) (now : Instant) :
    Option Nat × HeartbeatSchedule × Hub :=
  let (sent, schedule, dispatcher) := schedule.scan h.dispatcher h.clock.wall now
  (sent, schedule, { h with dispatcher })

/-- Give permits to an address. -/
def release (h : Hub) (address : String) (n : Nat) : Hub :=
  { h with dispatcher := h.dispatcher.release address n }.settle

end Hub

end TransitHub
