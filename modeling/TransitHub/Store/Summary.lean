/-
# Summaries of ingested batches

Counts of what became of the items of one batch. Items that were expired on arrival and had no
record yet are in the total and in no other count.
-/

import TransitHub.Json.Basic

namespace TransitHub

/-- What became of the items of a batch. -/
structure UpsertSummary where
  total : Nat := 0
  /-- Items that changed the stored state. -/
  addedOrUpdated : Nat := 0
  /-- Items that only refreshed a record. -/
  unchanged : Nat := 0
  /-- Items that removed a record. -/
  expired : Nat := 0
  /-- Items recorded before what is stored. -/
  outdated : Nat := 0
  /-- Items without an identity. -/
  ignored : Nat := 0
deriving DecidableEq

namespace UpsertSummary

/-- Items that left the store or were rejected as outdated. -/
def expiredOrDiscarded (s : UpsertSummary) : Nat := s.expired + s.outdated

/-- The summary with items that could not be decoded. -/
def withUndecodable (s : UpsertSummary) (n : Nat) : UpsertSummary :=
  { s with total := s.total + n, ignored := s.ignored + n }

/-- The counts as members of an object. -/
def members (s : UpsertSummary) : List (String × Json) :=
  [("total", .natural s.total), ("added_or_updated", .natural s.addedOrUpdated),
    ("unchanged", .natural s.unchanged), ("expired", .natural s.expired),
    ("outdated", .natural s.outdated), ("ignored", .natural s.ignored)]

def toJson (s : UpsertSummary) : Json :=
  .object (s.members ++ [("expired_or_discarded", .natural s.expiredOrDiscarded)])

end UpsertSummary

end TransitHub
