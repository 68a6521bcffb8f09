/-
# Dispatching pushes

The dispatcher turns changes of the state into jobs. A batch of changed entities goes to each
subscription that it concerns: the entities that the subscription's filter accepts are written, cut
into payloads, and submitted as one job. A subscription to one dataset gets its entities in a single
payload, one to all datasets at most `maxElements` in each.

All payloads of a job are built before it is submitted; if one cannot be built there is no job.
Submitted jobs wait until `settle` lets the workers go on.
-/

import TransitHub.Paging
import TransitHub.Push.Outbound

namespace TransitHub

/-- The way from changes to posts. -/
structure Dispatcher where
  outbound : Outbound := {}
  pool : WorkerPool PushJob
  builder : PayloadBuilder
  /-- The most entities in one payload for subscriptions to all datasets. -/
  maxElements : Nat

/-- What became of an attempt to submit a job. -/
inductive Submission
  | queued
  | refused
  /-- The builder crashed. -/
  | crashed
deriving DecidableEq

/-- The result of building the payloads of a job. -/
inductive Assembly
  | payloads (ps : List Payload)
  | failed (label reason : String)
  | crashed

namespace Dispatcher

def report (d : Dispatcher) (es : List LogEvent) : Dispatcher :=
  { d with outbound := d.outbound.report es }

/-- Let the workers go on until nothing can move, and report those that stop. -/
def settle (d : Dispatcher) (now : Instant) : Dispatcher :=
  let (pool, outbound) := d.pool.settle (Outbound.work now) d.outbound
  { d with pool, outbound }.report (List.replicate (pool.stopped - d.pool.stopped) .workerStopped)

/-- Accept no more jobs, and report the workers that stop. -/
def close (d : Dispatcher) : Dispatcher :=
  { d with pool := d.pool.close }.report
    (List.replicate (d.pool.close.stopped - d.pool.stopped) .workerStopped)

/-- Build one payload for each piece of content, up to the first failure. -/
def assemble (build : Content → Built) : List Content → Assembly
  | [] => .payloads []
  | c :: cs =>
    match build c with
    | .failed reason => .failed c.label reason
    | .crashed => .crashed
    | .payload p =>
      match assemble build cs with
      | .payloads ps => .payloads (p :: ps)
      | failure => failure

/-- Put a job into the queue. -/
def enqueue (d : Dispatcher) (job : PushJob) : Submission × Dispatcher :=
  let (admission, pool) := d.pool.submit job
  let d := { d with pool }
  match admission with
  | .queued => (.queued, d)
  | .full => (.refused, d.report [.queueFull job.subscription.id])
  | .closed => (.refused, d.report [.poolClosed job.subscription.id])

def submit (d : Dispatcher) (wall : Timestamp) (s : Subscription) (contents : List Content) :
    Submission × Dispatcher :=
  if contents.isEmpty then (.refused, d)
  else
    match assemble (d.builder wall s) contents with
    | .failed label reason =>
      (.refused, d.report [.payloadFailed s.id label (Built.failure reason)])
    | .crashed => (.crashed, d)
    | .payloads ps => d.enqueue ⟨s, ps, ps.length⟩

/-- The most entities in one payload to a subscription. -/
def limit (d : Dispatcher) (s : Subscription) : Option Nat :=
  if s.isScoped then none else some d.maxElements

/-- Pieces of a batch as contents; each but the last says that more follow. -/
def contents (kind : DataKind) : List (List Json) → List Content
  | [] => []
  | items :: rest => .entities kind items (!rest.isEmpty) :: contents kind rest

/-- The entities that can be written. -/
def writable (items : List (Except String Json)) : List Json := items.filterMap Except.toOption

/-- Why the other entities cannot be written. -/
def unwritable (items : List (Except String Json)) : List String :=
  items.filterMap fun item => match item with
    | .error reason => some reason
    | .ok _ => none

/-- Submit a job that posts entities to a subscription. Those that cannot be written are left
out. -/
def deliver (d : Dispatcher) (wall : Timestamp) (kind : DataKind) (s : Subscription)
    (items : List (Except String Json)) : Submission × Dispatcher :=
  (d.report ((unwritable items).map (.entityDropped s.id))).submit wall s
    (contents kind (Paging.chunks (d.limit s) (writable items)))

/-- The entities of a batch that a subscription is sent. -/
def selected {α : Type} (p : Profile α) (s : Subscription) (changed : List α) : List α :=
  changed.filter (p.selects s.filter)

/-- Deliver a batch to subscriptions one after another and count the jobs. A builder that crashes
ends this; what was submitted before stays. -/
def deliverEach {α : Type} (p : Profile α) (wall : Timestamp) (dataset : String) (changed : List α)
    (count : Nat) : List Subscription → Dispatcher → Option Nat × Dispatcher
  | [], d => (some count, d)
  | s :: rest, d =>
    if s.filter.acceptsDataset dataset then
      let items := (selected p s changed).map fun e => .ok (p.toJson e)
      let (submission, d) := d.deliver wall p.kind s items
      match submission with
      | .queued => deliverEach p wall dataset changed (count + 1) rest d
      | .refused => deliverEach p wall dataset changed count rest d
      | .crashed => (none, d)
    else deliverEach p wall dataset changed count rest d

/-- The reports about what matching found. -/
def matchEvents (kind : DataKind) (dataset : String) (m : Matches) : List LogEvent :=
  m.ended.map (fun s => .subscriptionExpired s.id s.kind) ++ m.rebuild.toList.map Rebuild.event ++
    (if m.matching.isEmpty then [.lookupEmpty kind dataset m.version] else [])

/-- The subscriptions that changes of a kind in a dataset concern. -/
def matching (d : Dispatcher) (c : Clock) (kind : DataKind) (dataset : String) :
    List Subscription × Dispatcher :=
  let (m, registry) := d.outbound.registry.lookup c kind dataset
  let d := { d with outbound := { d.outbound with registry } }
  (m.matching, d.report (matchEvents kind dataset m))

/-- Submit a batch of changed entities to every subscription that it concerns. The answer is the
number of jobs, or nothing if the builder crashed. -/
def onChange {α : Type} (d : Dispatcher) (c : Clock) (p : Profile α) (dataset : String)
    (changed : List α) : Option Nat × Dispatcher :=
  if changed.isEmpty then (some 0, d)
  else
    let (subscriptions, d) := d.matching c p.kind dataset
    match deliverEach p c.wall dataset changed 0 subscriptions d with
    | (some n, d) => (some n, d.report [.batchDispatched p.kind dataset changed.length n])
    | (none, d) => (none, d)

def sendHeartbeat (d : Dispatcher) (wall : Timestamp) (s : Subscription) :
    Submission × Dispatcher :=
  d.submit wall s [.heartbeat]

/-- Submit the notice that a subscription was terminated. -/
def sendTermination (d : Dispatcher) (wall : Timestamp) (s : Subscription) :
    Submission × Dispatcher :=
  d.submit wall s [.termination]

/-- Accept or refuse a request. -/
def subscribe (d : Dispatcher) (c : Clock) (id : String) (request : SubscriptionRequest) :
    Except Rejection Subscription × Dispatcher :=
  let (answer, registry) := d.outbound.registry.subscribe c id request
  let d := { d with outbound := { d.outbound with registry } }
  match answer with
  | .error e => (.error e, d.report [.subscriptionRejected id e.code e.message])
  | .ok (s, rebuild) =>
    (.ok s, d.report [rebuild.event,
      .subscriptionAdded s.id s.kind s.dataset s.address rebuild.version])

/-- Remove a subscription. -/
def terminate (d : Dispatcher) (now : Instant) (id : String) : Option Subscription × Dispatcher :=
  let (removed, registry) := d.outbound.registry.terminate now id
  let d := { d with outbound := { d.outbound with registry } }
  match removed with
  | none => (none, d)
  | some (s, rebuild) =>
    (some s, d.report [rebuild.event, .subscriptionTerminated id rebuild.version])

/-- Build the directory of subscriptions anew; the answer is its version. -/
def refresh (d : Dispatcher) (now : Instant) : Nat × Dispatcher :=
  let (rebuild, registry) := d.outbound.registry.refresh now
  (rebuild.version, { d with outbound := { d.outbound with registry } }.report [rebuild.event])

/-- Give permits to an address: held posts use them in order, what is left is kept. -/
def release (d : Dispatcher) (address : String) (n : Nat) : Dispatcher :=
  let (left, pool) := d.pool.grant (fun job => job.subscription.address = address) n
  { d with
    pool
    outbound := { d.outbound with transport := d.outbound.transport.addPermits address left } }

end Dispatcher

end TransitHub
