/-
# Runs of a feed

A run of a feed is a sequence of operations with time passing in between: batches, commits, polls by
any consumers, reads, clearings and sweeps, in any order. The clocks stand still during an operation.
An event is an operation with its answer; what a consumer has been served is read off the events.

A flush commits until the buffer is empty. One commit empties it, so a flush is a commit here.
-/

import TransitHub.Feed
import TransitHub.Proofs.Store.Checksums
import TransitHub.Proofs.Time.Passing
import TransitHub.Proofs.Tracking.Operations

namespace TransitHub

/-- One operation on a feed, or the passing of time. -/
inductive FeedOp (α : Type)
  | ingest (dataset : String) (items : List α)
  | ingestJson (dataset : String) (items : List Json)
  | commit
  | flush
  | clearDataset (dataset : String)
  | poll (consumer : String) (request : ReadRequest)
  | pendingCount (consumer : String)
  | consumerCount
  | getAll (dataset : Option String)
  | query (filter : EntityFilter)
  | sweep
  | pass (t : TimeStep)

/-- What an operation answers. -/
inductive FeedAnswer (α : Type)
  | ingested (i : Ingested α)
  | committed (r : CommitReport)
  | cleared (removed : Nat)
  | polled (r : ReadResult α)
  | pending (n : Option Nat)
  | counted (n : Nat)
  | entities (es : List α)
  | done

/-- The clocks after an operation. -/
def FeedOp.clock {α : Type} (c : Clock) : FeedOp α → Clock
  | .pass t => t.apply c
  | _ => c

theorem FeedOp.now_le_clock {α : Type} (c : Clock) (op : FeedOp α) :
    c.now ≤ (op.clock c).now := by
  cases op with
  | pass t => exact t.now_le_apply c
  | _ => exact Int.le_refl c.now

/-- Perform one operation. -/
def Feed.perform {α : Type} (f : Feed α) (c : Clock) : FeedOp α → FeedAnswer α × Feed α
  | .ingest dataset items =>
    (.ingested (f.ingest c dataset items 0).1, (f.ingest c dataset items 0).2)
  | .ingestJson dataset items =>
    (.ingested (f.ingestJson c dataset items).1, (f.ingestJson c dataset items).2)
  | .commit | .flush => (.committed (f.commit c.now).1, (f.commit c.now).2)
  | .clearDataset dataset => (.cleared (f.clear c.now dataset).1, (f.clear c.now dataset).2)
  | .poll consumer request =>
    (.polled (f.poll c.now consumer request).1, (f.poll c.now consumer request).2)
  | .pendingCount consumer =>
    (.pending (f.tracker.pendingCount c.now consumer),
      { f with tracker := f.tracker.touch c.now consumer })
  | .consumerCount => (.counted (f.tracker.consumerCount c.now), f)
  | .getAll dataset => (.entities (f.store.getAll c.now dataset), f)
  | .query filter => (.entities (f.store.query c.now filter), f)
  | .sweep => (.done, f.sweep c.now)
  | .pass _ => (.done, f)

/-- An operation of a run and its answer. -/
structure FeedEvent (α : Type) where
  op : FeedOp α
  answer : FeedAnswer α

namespace FeedEvent

variable {α : Type}

/-- A batch that reports a key as changed. -/
def Reports (e : FeedEvent α) (k : RecordKey) : Prop :=
  match e.answer with
  | .ingested i => k ∈ i.result.changedKeys
  | _ => False

/-- A poll by a consumer that has a key in its page. -/
def Consumes (e : FeedEvent α) (consumer : String) (k : RecordKey) : Prop :=
  match e.op, e.answer with
  | .poll poller _, .polled r => poller = consumer ∧ k ∈ r.consumed
  | _, _ => False

/-- The entities of a key that an event serves to a consumer. -/
def served (e : FeedEvent α) (consumer : String) (k : RecordKey) : List α :=
  match e.op, e.answer with
  | .poll poller _, .polled r =>
    if poller = consumer then (r.served.filter fun entry => entry.1 = k).map (·.2) else []
  | _, _ => []

end FeedEvent

/-- The entities of a key that a consumer was served, the latest last. -/
def servedTo {α : Type} (consumer : String) (k : RecordKey) (events : List (FeedEvent α)) :
    List α :=
  events.flatMap fun e => e.served consumer k

/-- A feed at a moment. -/
structure TimedFeed (α : Type) where
  clock : Clock
  feed : Feed α

namespace TimedFeed

variable {α : Type}

/-- A feed without records. -/
def start (profile : Profile α) (policy : ExpirationPolicy) (period : Duration) (c : Clock) :
    TimedFeed α where
  clock := c
  feed := .empty profile policy period

/-- The feed after one operation more. -/
def next (s : TimedFeed α) (op : FeedOp α) : TimedFeed α where
  clock := op.clock s.clock
  feed := (s.feed.perform s.clock op).2

/-- One operation more, with its answer. -/
def event (s : TimedFeed α) (op : FeedOp α) : FeedEvent α where
  op
  answer := (s.feed.perform s.clock op).1

/-- The operations of a run in their order. -/
def run (s : TimedFeed α) (ops : List (FeedOp α)) : TimedFeed α := ops.foldl next s

/-- The live entity of a key. -/
def get? (s : TimedFeed α) (k : RecordKey) : Option α := s.feed.store.get? s.clock.now k

/-- The change set of a consumer, if it is known. -/
def changeSet? (s : TimedFeed α) (consumer : String) : Option ChangeSet :=
  s.feed.tracker.consumers.lookup s.clock.now consumer

/-- The changed keys that wait for the next commit. -/
def buffer (s : TimedFeed α) : ChangeBuffer := s.feed.tracker.buffer

end TimedFeed

end TransitHub
