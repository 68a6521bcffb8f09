/-
# Feeds

A feed is one kind of data from end to end on the reading side: the store of its records and the
tracker of its changes. What a batch changed is noted for the pollers at once and handed back for
the subscribers.
-/

import TransitHub.Tracking.ChangeTracker

namespace TransitHub

/-- The records of one kind and the changes that pollers have not seen. -/
structure Feed (α : Type) where
  store : EntityStore α
  tracker : ChangeTracker

/-- What ingesting a batch did. -/
structure Ingested (α : Type) where
  result : UpsertResult α
  /-- Items that could not be decoded, which never reached the store. -/
  undecodable : Nat

namespace Ingested

variable {α : Type}

/-- The summary over all items, also those that could not be decoded. -/
def summary (i : Ingested α) : UpsertSummary := i.result.summary.withUndecodable i.undecodable

end Ingested

/-- How many entries of each store of a feed were dropped. -/
structure Swept where
  records : Nat
  checksums : Nat
  changeSets : Nat

namespace Feed

variable {α : Type}

def empty (profile : Profile α) (policy : ExpirationPolicy) (period : Duration) : Feed α where
  store := .empty profile policy
  tracker := .empty period

def ingest (f : Feed α) (c : Clock) (dataset : String) (items : List α) (undecodable : Nat) :
    Ingested α × Feed α :=
  let (result, store) := f.store.upsertAll c dataset items
  let tracker :=
    if result.changed.isEmpty then f.tracker else f.tracker.recordChange result.changedKeys
  (⟨result, undecodable⟩, ⟨store, tracker⟩)

/-- The items that can be decoded. -/
def decodable (p : Profile α) (items : List Json) : List α :=
  items.filterMap fun j => (p.decoder j).toOption

/-- Ingest a batch of documents. Those that cannot be decoded are only counted. -/
def ingestJson (f : Feed α) (c : Clock) (dataset : String) (items : List Json) :
    Ingested α × Feed α :=
  let decoded := decodable f.store.profile items
  f.ingest c dataset decoded (items.length - decoded.length)

/-- Merge the buffered changes into the change sets of the pollers. -/
def commit (f : Feed α) (now : Instant) : CommitReport × Feed α :=
  let (report, tracker) := f.tracker.commit now
  (report, { f with tracker })

def poll (f : Feed α) (now : Instant) (consumer : String) (request : ReadRequest) :
    ReadResult α × Feed α :=
  let (result, tracker, store) := f.tracker.read f.store now consumer request
  (result, ⟨store, tracker⟩)

/-- Drop the records of a dataset; the answer is their number. -/
def clear (f : Feed α) (now : Instant) (dataset : String) : Nat × Feed α :=
  let (removed, store) := f.store.clearDataset now dataset
  (removed, { f with store })

/-- What a sweep would drop. -/
def sweepable (f : Feed α) (now : Instant) : Swept where
  records := f.store.records.expired now
  checksums := f.store.checksums.expired now
  changeSets := f.tracker.consumers.expired now

def sweep (f : Feed α) (now : Instant) : Feed α := ⟨f.store.sweep now, f.tracker.sweep now⟩

end Feed

end TransitHub
