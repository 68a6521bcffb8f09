/-
# Runs of a store

A run is a sequence of operations on one store, with time passing in between; the clocks stand still
during an operation. `StoreOp.run` takes the way to perform one operation as an argument, so that
different stores can be put through the same run and their answers compared. Reads are operations
too: they drop what they find past its deadline.
-/

import TransitHub.Proofs.Time.Passing
import TransitHub.Store.EntityStore

namespace TransitHub

/-- One operation on a store, or the passing of time. -/
inductive StoreOp (α : Type)
  | upsertAll (dataset : String) (items : List α)
  | clearDataset (dataset : String)
  | get (key : RecordKey)
  | getMany (keys : KeySet)
  | getAll (dataset : Option String)
  | query (filter : EntityFilter)
  | size
  | sweep
  | pass (t : TimeStep)

/-- What an operation answers. -/
inductive StoreAnswer (α : Type)
  | upserted (result : UpsertResult α)
  | cleared (removed : Nat)
  | found (entity : Option α)
  | entries (es : List (RecordKey × α))
  | entities (es : List α)
  | counted (n : Nat)
  | done

/-- The clocks after an operation. -/
def StoreOp.clock {α : Type} (c : Clock) : StoreOp α → Clock
  | .pass t => t.apply c
  | _ => c

theorem StoreOp.now_le_clock {α : Type} (c : Clock) (op : StoreOp α) :
    c.now ≤ (op.clock c).now := by
  cases op with
  | pass t => exact t.now_le_apply c
  | _ => exact Int.le_refl c.now

/-- What a run has come to. -/
structure StoreRun (α σ : Type) where
  /-- The answers so far, the latest last. -/
  answers : List (StoreAnswer α) := []
  clock : Clock
  store : σ

namespace StoreRun

variable {α σ : Type}

/-- One operation more. -/
def next (perform : σ → Clock → StoreOp α → StoreAnswer α × σ) (r : StoreRun α σ)
    (op : StoreOp α) : StoreRun α σ where
  answers := r.answers ++ [(perform r.store r.clock op).1]
  clock := op.clock r.clock
  store := (perform r.store r.clock op).2

/-- The operations of a run in their order. -/
def run (perform : σ → Clock → StoreOp α → StoreAnswer α × σ) (r : StoreRun α σ)
    (ops : List (StoreOp α)) : StoreRun α σ :=
  ops.foldl (next perform) r

end StoreRun

/-- Perform one operation. -/
def EntityStore.perform {α : Type} (s : EntityStore α) (c : Clock) :
    StoreOp α → StoreAnswer α × EntityStore α
  | .upsertAll dataset items =>
    (.upserted (s.upsertAll c dataset items).1, (s.upsertAll c dataset items).2)
  | .clearDataset dataset =>
    (.cleared (s.clearDataset c.now dataset).1, (s.clearDataset c.now dataset).2)
  | .get key =>
    (.found (s.get? c.now key), { s with records := s.records.touch c.now key })
  | .getMany keys => (.entries (s.getMany c.now keys), s.touchAll c.now keys)
  | .getAll dataset => (.entities (s.getAll c.now dataset), s)
  | .query filter => (.entities (s.query c.now filter), s)
  | .size => (.counted (s.size c.now), s)
  | .sweep => (.done, s.sweep c.now)
  | .pass _ => (.done, s)

/-- A run of a new store. -/
def EntityStore.runFrom {α : Type} (profile : Profile α) (policy : ExpirationPolicy) (c : Clock)
    (ops : List (StoreOp α)) : StoreRun α (EntityStore α) :=
  StoreRun.run EntityStore.perform { clock := c, store := .empty profile policy } ops

end TransitHub
