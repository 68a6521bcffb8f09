/-
# The registry of subscriptions

The registry keeps each accepted subscription until its termination time, or for a year if it has
none. Changes are matched against a directory, a numbered list of the subscriptions that were live
when it was built; it is built anew after every change of the registry and on request. Failure
streaks of subscriptions that are not live are dropped with the directory they outlived.

Each operation answers with the facts of what it did, among them the directory it built.
-/

import TransitHub.Push.FailureStreaks
import TransitHub.Push.Subscription
import TransitHub.Store.EntityStore

namespace TransitHub

/-- The subscriptions that changes are matched against, in ascending order of their identifiers. -/
structure Directory where
  version : Nat := 0
  entries : List Subscription := []

/-- All subscriptions. -/
structure Registry where
  subscriptions : TtlStore String Subscription
  directory : Directory := {}
  streaks : FailureStreaks := {}

/-- That a directory was built, for how many subscriptions, and how many streaks were dropped. -/
structure Rebuild where
  version : Nat
  subscriptions : Nat
  staleStreaks : Nat

/-- What matching found. -/
structure Matches where
  /-- The version of the directory that was looked up. -/
  version : Nat
  matching : List Subscription
  /-- Subscriptions past their termination time, which were removed. -/
  ended : List Subscription
  rebuild : Option Rebuild

/-- What a failed push led to. -/
inductive FailureOutcome
  /-- There is no such subscription any more. -/
  | ignored
  | degraded (failingFor : Duration)
  | cancelled (failingFor grace : Duration) (rebuild : Rebuild)

namespace Registry

def empty : Registry where
  subscriptions := .empty EntityStore.standardShards EntityStore.spread

/-- How long a subscription without a termination time is kept. -/
def openEndedRetention : Duration := 365 * Duration.day

def contains (r : Registry) (now : Instant) (id : String) : Bool := r.subscriptions.contains now id

/-- The live subscription with an identifier. -/
def get? (r : Registry) (now : Instant) (id : String) : Option Subscription :=
  r.subscriptions.lookup now id

def size (r : Registry) (now : Instant) : Nat := r.subscriptions.size now

/-- The live subscriptions, in ascending order of their identifiers. -/
def live (r : Registry) (now : Instant) : List Subscription :=
  (r.subscriptions.values now (r.subscriptions.keys now fun _ => true)).map (·.2)

def refresh (r : Registry) (now : Instant) : Rebuild × Registry :=
  let entries := r.live now
  let keep := r.contains now
  let version := r.directory.version + 1
  (⟨version, entries.length, r.streaks.dropped keep⟩,
   { r with directory := ⟨version, entries⟩, streaks := r.streaks.retain keep })

/-- How long a requested subscription is kept, if it does not end at once. -/
def retention (request : SubscriptionRequest) (now : Timestamp) : Except Rejection Duration :=
  match request.termination with
  | none => .ok openEndedRetention
  | some termination =>
    if 0 < termination.since now then .ok (termination.since now).toNat
    else .error (.alreadyEnded termination)

/-- The subscription that a request leads to and how long it is kept, unless it is refused. -/
def accept (r : Registry) (c : Clock) (id : String) (request : SubscriptionRequest) :
    Except Rejection (Subscription × Duration) :=
  match request.address? with
  | none => .error .missingAddress
  | some address =>
    match retention request c.wall with
    | .error e => .error e
    | .ok ttl =>
      match r.get? c.now id with
      | some existing =>
        if existing.kind = request.kind then .ok (request.subscription id address c.wall, ttl)
        else .error (.kindConflict existing.kind request.kind)
      | none => .ok (request.subscription id address c.wall, ttl)

/-- Accept or refuse a request under an identifier. -/
def subscribe (r : Registry) (c : Clock) (id : String) (request : SubscriptionRequest) :
    Except Rejection (Subscription × Rebuild) × Registry :=
  match r.accept c id request with
  | .error e => (.error e, r)
  | .ok (s, ttl) =>
    let (rebuild, r) := { r with subscriptions := r.subscriptions.put c.now id s ttl }.refresh c.now
    (.ok (s, rebuild), r)

/-- Remove a subscription without building a directory. -/
def drop (r : Registry) (id : String) : Registry :=
  { r with subscriptions := r.subscriptions.erase id, streaks := r.streaks.clear id }

/-- Remove a subscription and its failure streak. -/
def terminate (r : Registry) (now : Instant) (id : String) :
    Option (Subscription × Rebuild) × Registry :=
  match r.get? now id with
  | none => (none, r.drop id)
  | some s =>
    let (rebuild, r) := (r.drop id).refresh now
    (some (s, rebuild), r)

/-- The subscriptions that changes of a kind in a dataset concern. Those of the kind that are past
their termination time are removed. -/
def lookup (r : Registry) (c : Clock) (kind : DataKind) (dataset : String) : Matches × Registry :=
  let candidates := r.directory.entries.filter fun s => s.kind = kind
  let ended := candidates.filter fun s => s.isExpired c.wall
  let matching := candidates.filter fun s => !s.isExpired c.wall && s.concerns kind dataset
  if ended.isEmpty then (⟨r.directory.version, matching, [], none⟩, r)
  else
    let (rebuild, r') := (ended.foldl (fun r s => r.drop s.id) r).refresh c.now
    (⟨r.directory.version, matching, ended, some rebuild⟩, r')

/-- The subscriptions of the directory that have not come to their end. -/
def list (r : Registry) (now : Timestamp) : List Subscription :=
  r.directory.entries.filter fun s => !s.isExpired now

/-- Those subscriptions with how long they have been failing. -/
def status (r : Registry) (wall : Timestamp) (now : Instant) :
    List (Subscription × Option Duration) :=
  (r.list wall).map fun s => (s, r.streaks.failingFor? s.id now)

/-- Note a push that failed at an instant. A subscription that has failed for longer than its grace
period is cancelled. -/
def noteFailure (r : Registry) (now failedAt : Instant) (s : Subscription) :
    FailureOutcome × Registry :=
  if r.contains now s.id then
    let r := { r with streaks := r.streaks.record s.id failedAt }
    let failingFor := (r.streaks.failingFor? s.id failedAt).getD 0
    let grace := FailureStreaks.gracePeriod s.heartbeatInterval
    if r.streaks.exceeds s.id grace failedAt then
      let (rebuild, r) := (r.drop s.id).refresh now
      (.cancelled failingFor grace rebuild, r)
    else (.degraded failingFor, r)
  else (.ignored, { r with streaks := r.streaks.clear s.id })

/-- Note a successful push; the answer is whether it ended a streak. -/
def noteSuccess (r : Registry) (id : String) : Bool × Registry :=
  (r.streaks.contains id, { r with streaks := r.streaks.clear id })

/-- What asking for a subscription leaves: one whose deadline has come is dropped. -/
def touch (r : Registry) (now : Instant) (id : String) : Registry :=
  { r with subscriptions := r.subscriptions.touch now id }

/-- Drop every subscription whose deadline has come. -/
def sweep (r : Registry) (now : Instant) : Registry :=
  { r with subscriptions := r.subscriptions.sweep now }

end Registry

end TransitHub
