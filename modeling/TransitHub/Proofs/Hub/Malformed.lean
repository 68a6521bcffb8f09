/-
# Malformed documents

A document of a batch that cannot be read as an entity of its kind never reaches the store, and one
that can be read but has no identity is passed over there. The two are counted in different places;
the counts meet in the summary. Taking such documents out of a batch changes nothing but the
reports, the total and the number of ignored items: the same records and fingerprints are stored,
the same keys are noted for pollers, and the same payloads are posted.
-/

import TransitHub.Proofs.Hub.Records
import TransitHub.Proofs.Push.Journal
import TransitHub.Proofs.Store.Report

namespace TransitHub

/-- Whether a document is no entity with an identity. -/
def Profile.malformed {α : Type} (p : Profile α) (dataset : String) (j : Json) : Bool :=
  ((p.decoder j).toOption.bind (p.key? dataset)).isNone

/-- A list from which some elements that fail a test were taken out. -/
inductive Pruned {β : Type} (bad : β → Bool) : List β → List β → Prop
  | nil : Pruned bad [] []
  | keep (b : β) {bs left : List β} (h : Pruned bad bs left) : Pruned bad (b :: bs) (b :: left)
  | drop {b : β} (hbad : bad b = true) {bs left : List β} (h : Pruned bad bs left) :
      Pruned bad (b :: bs) left

theorem Pruned.length_le {β : Type} {bad : β → Bool} {bs left : List β} (h : Pruned bad bs left) :
    left.length ≤ bs.length := by
  induction h with
  | nil => exact Nat.le_refl 0
  | keep b _ ih => exact Nat.succ_le_succ ih
  | drop _ _ ih => exact Nat.le_succ_of_le ih

namespace Feed

variable {α : Type}

/-- The entities with an identity among some documents. -/
def identified (p : Profile α) (dataset : String) (items : List Json) : List α :=
  (decodable p items).filter fun e => (p.key? dataset e).isSome

theorem decodable_cons (p : Profile α) (j : Json) (rest : List Json) :
    decodable p (j :: rest) =
      match (p.decoder j).toOption with
      | none => decodable p rest
      | some e => e :: decodable p rest := by
  unfold decodable
  rw [List.filterMap_cons]
  cases (p.decoder j).toOption <;> rfl

theorem length_decodable_le (p : Profile α) (items : List Json) :
    (decodable p items).length ≤ items.length := List.length_filterMap_le _ items

theorem length_identified_le (p : Profile α) (dataset : String) (items : List Json) :
    (identified p dataset items).length ≤ items.length :=
  Nat.le_trans (List.length_filter_le _ _) (length_decodable_le p items)

theorem identified_cons_of_malformed {p : Profile α} {dataset : String} {j : Json}
    (hbad : p.malformed dataset j = true) (rest : List Json) :
    identified p dataset (j :: rest) = identified p dataset rest := by
  rw [identified, decodable_cons]
  unfold Profile.malformed at hbad
  cases hread : (p.decoder j).toOption with
  | none => rfl
  | some e =>
    rw [hread, Option.bind_some] at hbad
    exact List.filter_cons_of_neg (by simpa using hbad)

/-- Malformed documents hold no entity with an identity. -/
theorem identified_of_pruned {p : Profile α} {dataset : String} {items left : List Json}
    (hpruned : Pruned (p.malformed dataset) items left) :
    identified p dataset items = identified p dataset left := by
  induction hpruned with
  | nil => rfl
  | keep j _ ih =>
    rw [identified, identified, decodable_cons, decodable_cons]
    cases (p.decoder j).toOption with
    | none => exact ih
    | some e =>
      unfold identified at ih
      dsimp only
      rw [List.filter_cons, List.filter_cons, ih]
  | drop hbad _ ih => rw [identified_cons_of_malformed hbad, ih]

/-- The counts of a batch of documents. What cannot be read and what has no identity is ignored. -/
theorem summary_ingestJson (f : Feed α) (c : Clock) (dataset : String) (items : List Json) :
    (f.ingestJson c dataset items).1.summary =
      let identified := identified f.store.profile dataset items
      let outcomes := (f.store.verdicts c dataset identified).map Verdict.outcome
      { total := items.length
        addedOrUpdated := outcomes.count .changed
        unchanged := outcomes.count .unchanged
        expired := outcomes.count .expired
        outdated := outcomes.count .outdated
        ignored := items.length - identified.length } := by
  have hread := length_decodable_le f.store.profile items
  have hnone : (fun e => decide ¬(f.store.profile.key? dataset e).isSome = true) =
      fun e => (f.store.profile.key? dataset e).isNone := by
    funext e
    cases f.store.profile.key? dataset e <;> rfl
  have hsplit : (decodable f.store.profile items).length = _ :=
    List.length_eq_countP_add_countP fun e => (f.store.profile.key? dataset e).isSome
  rw [hnone, List.countP_eq_length_filter] at hsplit
  have hverdicts := f.store.verdicts_identified c dataset (decodable f.store.profile items)
  show (f.store.upsertAll c dataset (decodable f.store.profile items)).1.summary.withUndecodable
    (items.length - (decodable f.store.profile items).length) = _
  rw [EntityStore.summary_upsertAll, ← hverdicts]
  simp only [UpsertSummary.withUndecodable, UpsertSummary.mk.injEq, identified, true_and]
  omega

/-- Every document is in the total, and in one other count unless it was expired on arrival and
there was no live record of its key. -/
theorem total_ingestJson (f : Feed α) (c : Clock) (dataset : String) (items : List Json) :
    (f.ingestJson c dataset items).1.summary.total = items.length ∧
      items.length = (f.ingestJson c dataset items).1.summary.counted +
        f.store.bounced c dataset (decodable f.store.profile items) := by
  have hread := length_decodable_le f.store.profile items
  obtain ⟨htotal, hcounted⟩ :=
    f.store.total_upsertAll c dataset (decodable f.store.profile items)
  have hsummary : (f.ingestJson c dataset items).1.summary =
      (f.store.upsertAll c dataset (decodable f.store.profile items)).1.summary.withUndecodable
        (items.length - (decodable f.store.profile items).length) := rfl
  rw [hsummary]
  simp only [UpsertSummary.withUndecodable, UpsertSummary.counted] at hcounted ⊢
  omega

/-- Without malformed documents a batch does the same to a feed and reports the same changes. -/
theorem ingestJson_pruned (f : Feed α) (c : Clock) {dataset : String} {items left : List Json}
    (hpruned : Pruned (f.store.profile.malformed dataset) items left) :
    (f.ingestJson c dataset items).2 = (f.ingestJson c dataset left).2 ∧
      (f.ingestJson c dataset items).1.result.changed =
        (f.ingestJson c dataset left).1.result.changed ∧
      (f.ingestJson c dataset items).1.summary =
        (f.ingestJson c dataset left).1.summary.withUndecodable (items.length - left.length) := by
  have hsame := identified_of_pruned hpruned
  have hstore : (f.store.upsertAll c dataset (decodable f.store.profile items)).2 =
      (f.store.upsertAll c dataset (decodable f.store.profile left)).2 := by
    rw [← EntityStore.store_upsertAll_identified, ← identified, hsame, identified,
      EntityStore.store_upsertAll_identified]
  have hchanged : (f.store.upsertAll c dataset (decodable f.store.profile items)).1.changed =
      (f.store.upsertAll c dataset (decodable f.store.profile left)).1.changed := by
    rw [EntityStore.changed_upsertAll, EntityStore.changed_upsertAll,
      ← EntityStore.verdicts_identified, ← identified, hsame, identified,
      EntityStore.verdicts_identified]
  refine ⟨?_, hchanged, ?_⟩
  · unfold ingestJson ingest UpsertResult.changedKeys
    dsimp only
    rw [hstore, hchanged]
  · have hlength := hpruned.length_le
    have hidentified := length_identified_le f.store.profile dataset left
    rw [summary_ingestJson, summary_ingestJson, hsame]
    simp only [UpsertSummary.withUndecodable, UpsertSummary.mk.injEq, true_and]
    omega

end Feed

namespace Hub

variable {h h' : Hub}

/-- Equal but for what was reported and for the running totals. -/
structure Alike (h h' : Hub) : Prop where
  config : h'.config = h.config
  clock : h'.clock = h.clock
  feeds : h'.feeds = h.feeds
  dispatcher : h.dispatcher.Alike h'.dispatcher
  heartbeats : h'.heartbeats = h.heartbeats
  sweeps : h'.sweeps = h.sweeps
  started : h'.started = h.started
  loops : h'.loops = h.loops
  shutdown : h'.shutdown = h.shutdown
  lastShutdown : h'.lastShutdown = h.lastShutdown

theorem Alike.refl (h : Hub) : h.Alike h := ⟨rfl, rfl, rfl, .refl _, rfl, rfl, rfl, rfl, rfl, rfl⟩

theorem Alike.withDispatcher (hsame : h.Alike h') {d d' : Dispatcher} (hd : d.Alike d') :
    ({ h with dispatcher := d } : Hub).Alike { h' with dispatcher := d' } :=
  { hsame with dispatcher := hd }

theorem Alike.report (hsame : h.Alike h') (es es' : List LogEvent) :
    (h.report es).Alike (h'.report es') :=
  hsame.withDispatcher (hsame.dispatcher.report es es')

theorem Alike.settle (hsame : h.Alike h') : h.settle.Alike h'.settle := by
  have hsettled := hsame.withDispatcher (hsame.dispatcher.settle h.now)
  have hnow : h'.now = h.now := congrArg Clock.now hsame.clock
  unfold Hub.settle
  rw [hnow]
  dsimp only
  rw [hsame.shutdown]
  cases h.shutdown with
  | notAsked => exact { hsettled with shutdown := rfl }
  | finished => exact { hsettled with shutdown := rfl }
  | waiting flushed =>
    dsimp only
    rw [hsettled.dispatcher.pool]
    split
    · refine Alike.report ?_ _ _
      exact { hsettled with shutdown := rfl, lastShutdown := rfl }
    · exact { hsettled with shutdown := rfl }

theorem Alike.dispatch (hsame : h.Alike h') (k : DataKind) (dataset : String)
    (changed : List k.Entity) :
    (h.dispatch k dataset changed).Alike (h'.dispatch k dataset changed) := by
  obtain ⟨hcount, hleft⟩ := hsame.dispatcher.onChange h.clock k.profile dataset changed
  have hclock : h'.dispatcher.onChange h'.clock k.profile dataset changed =
      h'.dispatcher.onChange h.clock k.profile dataset changed := by rw [hsame.clock]
  unfold Hub.dispatch
  rw [hclock]
  generalize h.dispatcher.onChange h.clock k.profile dataset changed = answer at hcount hleft
  generalize h'.dispatcher.onChange h.clock k.profile dataset changed = answer' at hcount hleft
  obtain ⟨_, d⟩ := answer
  obtain ⟨count, d'⟩ := answer'
  dsimp only at hcount hleft
  subst hcount
  cases count with
  | some n => exact hsame.withDispatcher hleft
  | none => exact (hsame.withDispatcher hleft).report _ _

/-- What a batch changed is all that the rest of the hub hears of it. -/
theorem Alike.concludeIngest (hsame : h.Alike h') (k : DataKind) (dataset : String)
    {i i' : Ingested k.Entity} (hchanged : i'.result.changed = i.result.changed) :
    (h.concludeIngest k dataset i).2.Alike (h'.concludeIngest k dataset i').2 := by
  have hcounted : Alike
      (Hub.report { h with totals := h.totals.add i.summary }
        (.ingestCounted k dataset i.summary :: storeEvents k dataset i.result))
      (Hub.report { h' with totals := h'.totals.add i'.summary }
        (.ingestCounted k dataset i'.summary :: storeEvents k dataset i'.result)) := by
    refine Alike.report ?_ _ _
    exact { hsame with clock := hsame.clock }
  unfold Hub.concludeIngest UpsertResult.changedValues
  dsimp only
  rw [hchanged]
  generalize Hub.report { h with totals := h.totals.add i.summary } _ = counted at hcounted ⊢
  generalize Hub.report { h' with totals := h'.totals.add i'.summary } _ = counted' at hcounted ⊢
  have hsize : counted'.registry.size counted'.now = counted.registry.size counted.now := by
    rw [now, now, hcounted.clock, registry, registry, hcounted.dispatcher.outbound.registry]
  rw [hsize]
  split
  · exact hcounted.settle
  · exact (hcounted.dispatch k dataset _).settle

/-- Taking malformed documents out of a batch leaves the hub the same, except that they are not
reported and not counted. Of the documents that are left the total counts all, and another count
tells of each that was not expired on arrival without a live record of its key. -/
theorem malformed_inert (config : HubConfig) (builder : PayloadBuilder) (clock : Clock)
    (hash : String → Fingerprint) (ops : List HubOp) (k : DataKind) (dataset : String)
    {items left : List Json} (hpruned : Pruned (k.profile.malformed dataset) items left) :
    let h := (Hub.new config builder clock hash).run ops
    let full := h.ingestJson k dataset items
    let pruned := h.ingestJson k dataset left
    full.2.Alike pruned.2 ∧
      full.1 = pruned.1.withUndecodable (items.length - left.length) ∧
      full.1.total = items.length ∧
      items.length = full.1.counted +
        (h.feeds.get k).store.bounced h.clock dataset (Feed.decodable k.profile items) := by
  intro h full pruned
  have hprofile : (h.feeds.get k).store.profile = k.profileBy hash :=
    (exact_run config builder clock hash ops k).profile
  have hpruned' : Pruned ((h.feeds.get k).store.profile.malformed dataset) items left := by
    rw [hprofile]
    exact hpruned
  have hdecodable : Feed.decodable k.profile items =
      Feed.decodable (h.feeds.get k).store.profile items := by
    rw [hprofile]
    rfl
  rw [hdecodable]
  obtain ⟨hfeed, hchanged, hsummary⟩ := (h.feeds.get k).ingestJson_pruned h.clock hpruned'
  obtain ⟨htotal, hcounted⟩ := (h.feeds.get k).total_ingestJson h.clock dataset items
  refine ⟨?_, hsummary, htotal, hcounted⟩
  have hread : Alike
      ((h.setFeed k ((h.feeds.get k).ingestJson h.clock dataset items).2).report
        (List.replicate ((h.feeds.get k).ingestJson h.clock dataset items).1.undecodable
          (.itemUndecodable k dataset)))
      ((h.setFeed k ((h.feeds.get k).ingestJson h.clock dataset left).2).report
        (List.replicate ((h.feeds.get k).ingestJson h.clock dataset left).1.undecodable
          (.itemUndecodable k dataset))) := by
    rw [hfeed]
    exact (Alike.refl _).report _ _
  exact hread.concludeIngest k dataset hchanged.symm

/-- Next to a message, something that is no object and a message without an identifier are ignored,
and the subscriber is posted what it would be posted without them. -/
theorem message_among_malformed :
    let request : SubscriptionRequest := {
      kind := .generalMessage, address := some "http://consumer/push" }
    let h := (Hub.new {} (.json "hub") ⟨.epoch, 0⟩).run [.subscribe "sub" request]
    let message := Json.object [("infoMessageIdentifier", .string "m")]
    let full := h.ingestJson .generalMessage "A" [.null, message, .object [("content", .string "x")]]
    full.1 = { total := 3, addedOrUpdated := 1, ignored := 2 } ∧ full.2.posts.length = 1 ∧
      full.2.posts = (h.ingestJson .generalMessage "A" [message]).2.posts := by
  intro request h message full
  have hpruned : Pruned (DataKind.generalMessage.profile.malformed "A")
      [.null, message, .object [("content", .string "x")]] [message] :=
    .drop (by decide +kernel) (.keep message (.drop (by decide +kernel) .nil))
  obtain ⟨halike, -⟩ := malformed_inert {} (.json "hub") ⟨.epoch, 0⟩ Fingerprint.ofText
    [.subscribe "sub" request] .generalMessage "A" hpruned
  exact ⟨by decide +kernel, by decide +kernel, halike.dispatcher.outbound.posts.symm⟩

end Hub

end TransitHub
