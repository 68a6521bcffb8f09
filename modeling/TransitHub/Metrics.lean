/-
# Ingestion totals

Running totals over the summaries of all ingested batches.
-/

import TransitHub.Store.Summary

namespace TransitHub

/-- Totals over all batches. -/
structure IngestTotals where
  batches : Nat := 0
  total : Nat := 0
  updated : Nat := 0
  expiredOrDiscarded : Nat := 0
  ignored : Nat := 0
deriving DecidableEq

namespace IngestTotals

def add (t : IngestTotals) (s : UpsertSummary) : IngestTotals where
  batches := t.batches + 1
  total := t.total + s.total
  updated := t.updated + s.addedOrUpdated
  expiredOrDiscarded := t.expiredOrDiscarded + s.expiredOrDiscarded
  ignored := t.ignored + s.ignored

def toJson (t : IngestTotals) : Json := .object [
  ("batches", .natural t.batches), ("total", .natural t.total), ("updated", .natural t.updated),
  ("expired_or_discarded", .natural t.expiredOrDiscarded), ("ignored", .natural t.ignored)]

end IngestTotals

end TransitHub
