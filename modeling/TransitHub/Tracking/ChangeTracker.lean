/-
# Change tracking for polling consumers

For each consumer that polls, the tracker remembers which keys it has not been served yet. Changes
are buffered first; a commit merges the buffered keys into the change set of every consumer. What a
consumer reads is taken out of its change set, at most one page at a time and only from the datasets
that its filter accepts.

A consumer that is not known is served the current state: without a page size all of it at once,
with one its keys become the consumer's first change set. Changes that were still buffered at that
moment are part of this state, so the sequence number of the moment becomes the consumer's baseline
and a commit merges only keys with a later stamp.

A consumer is forgotten one tracking period after its last poll; commits do not prolong that.
-/

import TransitHub.Paging
import TransitHub.Store.EntityStore
import TransitHub.Tracking.ChangeBuffer

namespace TransitHub

/-- What one consumer has not been served yet. -/
@[ext] structure ChangeSet where
  pending : KeySet
  lastAccess : Instant
  /-- Keys stamped up to here were part of the state that the consumer was first served. -/
  baseline : Nat

/-- One poll. The dataset dimensions of the filter choose the keys that are consumed, the other
dimensions choose which of their entities are served. -/
structure ReadRequest where
  filter : EntityFilter := {}
  /-- The size of a page, if not everything is wanted. -/
  maxSize : Option Nat := none

/-- The answer to one poll. -/
structure ReadResult (α : Type) where
  /-- The keys that were taken out of the change set. -/
  consumed : KeySet
  served : List (RecordKey × α)
  /-- Whether the consumer was known before. -/
  known : Bool
  /-- Whether keys that the filter accepts remain. -/
  more : Bool

def ReadResult.items {α : Type} (r : ReadResult α) : List α := r.served.map (·.2)

/-- What a commit did. -/
structure CommitReport where
  /-- The keys that were buffered. -/
  keys : Nat
  /-- The consumers that they were merged into. -/
  consumers : Nat

/-- The change sets of all consumers and the buffer in front of them. -/
structure ChangeTracker where
  /-- How long a consumer is remembered after a poll. -/
  period : Duration
  consumers : TtlStore String ChangeSet
  buffer : ChangeBuffer := {}

namespace ChangeTracker

variable {α : Type}

def empty (period : Duration) : ChangeTracker where
  period
  consumers := .empty EntityStore.standardShards EntityStore.spread

/-- Note that keys have changed. -/
def recordChange (t : ChangeTracker) (ks : KeySet) : ChangeTracker :=
  { t with buffer := t.buffer.record ks }

/-- How long a consumer is still remembered. -/
def remaining (t : ChangeTracker) (now : Instant) (c : ChangeSet) : Duration :=
  t.period - now.since c.lastAccess

/-- A change set with the drained keys that concern it. It keeps its time of expiry. -/
def merge (t : ChangeTracker) (now : Instant) (drained : KeyStamps) :
    Option ChangeSet → Update ChangeSet
  | none => .keep
  | some c =>
    if t.remaining now c = 0 then .delete
    else .put { c with pending := c.pending ∪ drained.after c.baseline } (t.remaining now c)

def known (t : ChangeTracker) (now : Instant) : List String :=
  (t.consumers.keys now fun _ => true).toList

/-- Whether a commit reaches a consumer. -/
def reaches (t : ChangeTracker) (now : Instant) (consumer : String) : Bool :=
  match t.consumers.lookup now consumer with
  | some c => t.remaining now c ≠ 0
  | none => false

/-- Merge what is buffered into the change sets of all consumers. -/
def commit (t : ChangeTracker) (now : Instant) : CommitReport × ChangeTracker :=
  if t.buffer.isEmpty then (⟨0, 0⟩, t)
  else
    let (drained, buffer) := t.buffer.drain
    let merge := t.merge now drained
    let consumers := (t.known now).foldl (fun s c => s.compute now c merge) t.consumers
    (⟨drained.size, (t.known now).countP (t.reaches now)⟩, { t with consumers, buffer })

/-- Remember a consumer and its change set for one tracking period. -/
def remember (t : ChangeTracker) (now : Instant) (consumer : String) (pending : KeySet)
    (baseline : Nat) : ChangeTracker :=
  { t with consumers := t.consumers.put now consumer ⟨pending, now, baseline⟩ t.period }

/-- Serve one page of some keys and keep the others pending. -/
def serve (t : ChangeTracker) (s : EntityStore α) (now : Instant) (consumer : String)
    (request : ReadRequest) (candidates : KeySet) (known : Bool) (baseline : Nat) :
    ReadResult α × ChangeTracker × EntityStore α :=
  let accepts := request.filter.acceptsKey
  let (page, rest) := Paging.page request.maxSize (candidates.toList.filter accepts)
  let consumed : KeySet := .ofList page compare
  let pending : KeySet := (candidates.filter fun k => !accepts k).insertMany rest
  ({ consumed
     served := (s.getMany now consumed).filter fun e => s.profile.selects request.filter e.2
     known
     more := !rest.isEmpty },
   t.remember now consumer pending baseline, s.touchAll now consumed)

def read (t : ChangeTracker) (s : EntityStore α) (now : Instant) (consumer : String)
    (request : ReadRequest) : ReadResult α × ChangeTracker × EntityStore α :=
  match t.consumers.lookup now consumer, request.maxSize with
  | some c, _ => t.serve s now consumer request c.pending true c.baseline
  | none, some _ =>
    t.serve s now consumer request (s.keys now request.filter.acceptsKey) false t.buffer.sequence
  | none, none =>
    ({ consumed := s.keys now request.filter.acceptsKey
       served := s.entries now request.filter
       known := false
       more := false },
     t.remember now consumer ∅ t.buffer.sequence, s)

/-- How many keys wait for a consumer, if it is known. -/
def pendingCount (t : ChangeTracker) (now : Instant) (consumer : String) : Option Nat :=
  (t.consumers.lookup now consumer).map fun c => c.pending.size

/-- What asking for a consumer leaves: a change set whose deadline has come is dropped. -/
def touch (t : ChangeTracker) (now : Instant) (consumer : String) : ChangeTracker :=
  { t with consumers := t.consumers.touch now consumer }

def consumerCount (t : ChangeTracker) (now : Instant) : Nat := t.consumers.size now

/-- Drop every change set whose deadline has come. -/
def sweep (t : ChangeTracker) (now : Instant) : ChangeTracker :=
  { t with consumers := t.consumers.sweep now }

end ChangeTracker

end TransitHub
