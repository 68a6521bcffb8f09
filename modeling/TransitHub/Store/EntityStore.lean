/-
# Entity stores

The records of one kind, by key, beside a cache of their fingerprints. An item is compared with the
live record of its key: it is outdated when it was recorded before it (or at the same time, unless
it says the same), it only refreshes the record when the fingerprints agree, and otherwise it
changes the state. An expired item removes the record it would have replaced.

Items of a batch are taken in their order, at one moment of both clocks. A key that changes more
than once in a batch is reported once, at its first place and with its last value.
-/

import TransitHub.Entity.Profile
import TransitHub.Expiration
import TransitHub.Store.Summary
import TransitHub.Store.TtlStore

namespace TransitHub

/-- An entity as it is stored. -/
@[ext] structure Envelope (α : Type) where
  value : α
  /-- When it expires on the wall clock. -/
  expiresAt : Timestamp

/-- What became of one item. -/
inductive Outcome
  | changed
  | unchanged
  | expired
  | outdated
  /-- Expired on arrival, without a record to remove. -/
  | dropped
deriving DecidableEq

/-- The records of one kind. -/
structure EntityStore (α : Type) where
  profile : Profile α
  policy : ExpirationPolicy
  records : TtlStore RecordKey (Envelope α)
  checksums : TtlStore RecordKey Fingerprint

/-- The result of ingesting a batch. -/
structure UpsertResult (α : Type) where
  summary : UpsertSummary
  /-- The changed entities, each key once, in the order of their first change. -/
  changed : List (RecordKey × α)
  /-- The items without a fingerprint, and why they have none. -/
  unprinted : List (RecordKey × String)

namespace UpsertResult

variable {α : Type}

def changedKeys (r : UpsertResult α) : KeySet := .ofList (r.changed.map (·.1)) compare

/-- The changed entities. -/
def changedValues (r : UpsertResult α) : List α := r.changed.map (·.2)

end UpsertResult

namespace EntityStore

variable {α : Type}

/-- The number of shards of a store, unless it is asked for otherwise. -/
def standardShards : Nat := 16

/-- A number computed from the characters of a text, by which keys are spread over shards. -/
def spread (s : String) : Nat := s.toList.foldl (fun n c => (31 * n + c.toNat) % 65536) 7

def empty (profile : Profile α) (policy : ExpirationPolicy) : EntityStore α where
  profile
  policy
  records := .empty standardShards fun k => spread k.dataset + spread k.primary
  checksums := .empty standardShards fun k => spread k.dataset + spread k.primary

/-- Whether an item is outdated by the stored one, given the times at which they were recorded. -/
def isOutdated (incoming stored : Option Timestamp) (unchanged : Bool) : Bool :=
  match incoming, stored with
  | some incoming, some stored => if unchanged then incoming < stored else incoming ≤ stored
  | _, _ => false

/-- Keep a fingerprint as long as its record; without one the cache forgets the key. -/
def putChecksum (s : EntityStore α) (now : Instant) (key : RecordKey) (print : Option Fingerprint)
    (ttl : Duration) : EntityStore α :=
  match print with
  | some print => { s with checksums := s.checksums.put now key print ttl }
  | none => { s with checksums := s.checksums.erase key }

/-- Store an item and its fingerprint for `ttl`. -/
def putRecord (s : EntityStore α) (c : Clock) (key : RecordKey) (item : α)
    (print : Option Fingerprint) (ttl : Duration) : EntityStore α :=
  let expiresAt := (ExpirationPolicy.expiresAt (.after ttl) c.wall).getD Timestamp.last
  let s := s.putChecksum c.now key print ttl
  { s with records := s.records.put c.now key ⟨item, expiresAt⟩ ttl }

/-- Drop a record and its fingerprint. -/
def remove (s : EntityStore α) (key : RecordKey) : EntityStore α :=
  { s with checksums := s.checksums.erase key, records := s.records.erase key }

def upsertOne (s : EntityStore α) (c : Clock) (key : RecordKey) (item : α) :
    Outcome × EntityStore α :=
  let print := (s.profile.fingerprint item).toOption
  let expiration := s.policy.evaluate (s.profile.validityEnd item) c.wall
  match s.records.lookup c.now key with
  | none =>
    match expiration with
    | .expired => (.dropped, s)
    | .after ttl => (.changed, s.putRecord c key item print ttl)
  | some existing =>
    let unchanged := print.isSome && s.checksums.lookup c.now key == print
    let s := if print.isSome then { s with checksums := s.checksums.touch c.now key } else s
    if isOutdated (s.profile.recordedAt item) (s.profile.recordedAt existing.value) unchanged then
      (.outdated, s)
    else
      match expiration with
      | .expired => (.expired, s.remove key)
      | .after ttl =>
        (if unchanged then .unchanged else .changed, s.putRecord c key item print ttl)

/-- Report a change: a key that is there already keeps its place and gets the new value. -/
def noteChange (changed : List (RecordKey × α)) (key : RecordKey) (item : α) :
    List (RecordKey × α) :=
  match changed with
  | [] => [(key, item)]
  | (k, v) :: rest => if k = key then (k, item) :: rest else (k, v) :: noteChange rest key item

/-- Add what became of one item to a result. -/
def noteOutcome (r : UpsertResult α) (key : RecordKey) (item : α) : Outcome → UpsertResult α
  | .changed =>
    { r with
      summary := { r.summary with addedOrUpdated := r.summary.addedOrUpdated + 1 }
      changed := noteChange r.changed key item }
  | .unchanged => { r with summary := { r.summary with unchanged := r.summary.unchanged + 1 } }
  | .expired => { r with summary := { r.summary with expired := r.summary.expired + 1 } }
  | .outdated => { r with summary := { r.summary with outdated := r.summary.outdated + 1 } }
  | .dropped => r

def upsertNext (c : Clock) (dataset : String) (acc : UpsertResult α × EntityStore α) (item : α) :
    UpsertResult α × EntityStore α :=
  let (r, s) := acc
  match s.profile.key? dataset item with
  | none => ({ r with summary := { r.summary with ignored := r.summary.ignored + 1 } }, s)
  | some key =>
    let r := match s.profile.fingerprint item with
      | .ok _ => r
      | .error reason => { r with unprinted := r.unprinted ++ [(key, reason)] }
    let (outcome, s) := s.upsertOne c key item
    (noteOutcome r key item outcome, s)

def upsertAll (s : EntityStore α) (c : Clock) (dataset : String) (items : List α) :
    UpsertResult α × EntityStore α :=
  items.foldl (upsertNext c dataset) (⟨{ total := items.length }, [], []⟩, s)

/-- The live entity of a key. -/
def get? (s : EntityStore α) (now : Instant) (key : RecordKey) : Option α :=
  (s.records.lookup now key).map Envelope.value

/-- The live entities of some keys, in ascending order of the keys. -/
def getMany (s : EntityStore α) (now : Instant) (ks : KeySet) : List (RecordKey × α) :=
  (s.records.values now ks).map fun (k, e) => (k, e.value)

/-- The keys of live records that pass a test. -/
def keys (s : EntityStore α) (now : Instant) (p : RecordKey → Bool) : KeySet := s.records.keys now p

/-- All live entities, or those of one dataset, in ascending order of their keys. -/
def getAll (s : EntityStore α) (now : Instant) (dataset : Option String) : List α :=
  (s.getMany now (s.keys now fun k => dataset.all k.belongsTo)).map (·.2)

/-- The live records that a filter accepts, in ascending order of their keys. -/
def entries (s : EntityStore α) (now : Instant) (f : EntityFilter) : List (RecordKey × α) :=
  (s.getMany now (s.keys now f.acceptsKey)).filter fun e => s.profile.selects f e.2

/-- The live entities that a filter accepts, in ascending order of their keys. -/
def query (s : EntityStore α) (now : Instant) (f : EntityFilter) : List α :=
  (s.entries now f).map (·.2)

def size (s : EntityStore α) (now : Instant) : Nat := s.records.size now

/-- What reading some keys leaves: records whose deadline has come are dropped. -/
def touchAll (s : EntityStore α) (now : Instant) (ks : KeySet) : EntityStore α :=
  { s with records := s.records.touchAll now ks }

/-- Drop the live records of a dataset; the answer is their number. -/
def clearDataset (s : EntityStore α) (now : Instant) (dataset : String) : Nat × EntityStore α :=
  let ks := s.keys now fun k => k.belongsTo dataset
  (ks.size, ks.toList.foldl remove s)

/-- Drop every record and fingerprint whose deadline has come. -/
def sweep (s : EntityStore α) (now : Instant) : EntityStore α :=
  { s with records := s.records.sweep now, checksums := s.checksums.sweep now }

end EntityStore

end TransitHub
