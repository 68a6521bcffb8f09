/-
# What batches and requests do to a hub

A batch goes into the store of its kind. What it changed is dispatched if there is any subscription:
it is matched against the directory, the jobs are put into the queue, and the workers go on. A batch
that changes nothing puts nothing into the queue. A request that is accepted goes into the registry,
and the snapshot for it is queried and pushed if its kind wants one.

From the hub before such a step it can be told which jobs the workers get. `Submits` says so: the
registry is changed, jobs are put into the queue, and the workers go on. Unless a job is lost to a
full queue, which is reported, the hub afterwards is what the workers make of that queue.
-/

import TransitHub.Proofs.Hub.Spawned
import TransitHub.Proofs.Push.Delivery

namespace TransitHub

/-- The entities of a batch that can be read. -/
def Batch.items {k : DataKind} (p : Profile k.Entity) : Batch k → List k.Entity
  | .entities items => items
  | .documents items => Feed.decodable p items

theorem Dispatcher.report_report (d : Dispatcher) (es es' : List LogEvent) :
    (d.report es).report es' = d.report (es ++ es') := by
  simp [report, Outbound.report]

namespace Hub

variable {h h' : Hub} {producer : String} {registry : Registry} {jobs : List PushJob}

/-! ## Letting the workers go on -/

theorem clock_settle (h : Hub) : h.settle.clock = h.clock := by
  unfold settle
  dsimp only
  split
  · split <;> rfl
  · rfl
  · rfl

theorem feeds_settle (h : Hub) : h.settle.feeds = h.feeds := by
  unfold settle
  dsimp only
  split
  · split <;> rfl
  · rfl
  · rfl

theorem pool_settle (h : Hub) :
    h.settle.dispatcher.pool =
      (h.dispatcher.pool.settle (Outbound.work h.now) h.dispatcher.outbound).1 := by
  unfold settle
  dsimp only
  split
  · split <;> rfl
  · rfl
  · rfl

/-- What the workers do is followed by reports at most. -/
theorem outbound_settle (h : Hub) :
    ∃ es, h.settle.dispatcher.outbound =
      (h.dispatcher.pool.settle (Outbound.work h.now) h.dispatcher.outbound).2.report es := by
  unfold settle
  dsimp only
  split
  · split
    · exact ⟨_, congrArg (·.outbound) (Dispatcher.report_report _ _ _)⟩
    · exact ⟨_, rfl⟩
  · exact ⟨_, rfl⟩
  · exact ⟨_, rfl⟩

/-- An operation that changes the registry, puts jobs into the queue and lets the workers go on. -/
def Submits (h : Hub) (registry : Registry) (jobs : List PushJob) (h' : Hub) : Prop :=
  ∃ es between, h' = settle between ∧ between.clock = h.clock ∧
    Dispatcher.Queued ((h.dispatcher.withRegistry registry).report es) jobs between.dispatcher

theorem Submits.clock_eq (hs : h.Submits registry jobs h') : h'.clock = h.clock := by
  obtain ⟨-, between, rfl, hclock, -⟩ := hs
  rw [clock_settle, hclock]

/-- Reports that were made before do not matter. -/
theorem Submits.of_report {reported : Hub} {es : List LogEvent}
    (hs : reported.Submits registry jobs h') (hclock : reported.clock = h.clock)
    (hdispatcher : reported.dispatcher = h.dispatcher.report es) : h.Submits registry jobs h' := by
  obtain ⟨es', between, hsettled, hbetween, hqueued⟩ := hs
  refine ⟨es ++ es', between, hsettled, hbetween.trans hclock, ?_⟩
  rw [← Dispatcher.report_report]
  rw [hdispatcher] at hqueued
  exact hqueued

/-- Unless a job was lost to a full queue, the workers go on with all jobs behind what was
waiting. -/
theorem Submits.turns (hs : h.Submits registry jobs h') (hopen : h.dispatcher.pool.closed = false)
    (hroom : ∀ id, LogEvent.queueFull id ∉ h'.journal.drop h.journal.length) :
    ∃ o es, o.posts = h.posts ∧ o.registry = registry ∧
      let pool := h.dispatcher.pool
      let settled :=
        (pool.withJobs (pool.waiting ++ jobs) pool.running).settle (Outbound.work h.now) o
      h'.dispatcher.pool = settled.1 ∧ h'.dispatcher.outbound = settled.2.report es := by
  obtain ⟨es, between, rfl, hclock, hqueued⟩ := hs
  obtain ⟨queued, hjournal, hpool⟩ := hqueued.journal
  obtain ⟨es', houtbound⟩ := between.outbound_settle
  obtain ⟨posts, hextends⟩ := Outbound.extends_settle between.now between.dispatcher.pool
    between.dispatcher.outbound
  obtain ⟨settled, hsettled⟩ := hextends.journal
  have hstart : ((h.dispatcher.withRegistry registry).report es).outbound.journal =
      es.reverse ++ h.dispatcher.outbound.journal := rfl
  have hreported : between.settle.journal =
      h.journal ++ (es ++ queued.reverse ++ settled.reverse ++ es') := by
    rw [journal, houtbound, Outbound.report, hsettled, hjournal, hstart, journal]
    simp
  have hfits : ∀ id, LogEvent.queueFull id ∉ queued := by
    intro id hmem
    refine hroom id ?_
    rw [hreported, List.drop_left]
    simp [hmem]
  have hnow : between.now = h.now := congrArg Clock.now hclock
  have hfull := hpool hopen hfits
  rw [hnow] at houtbound
  refine ⟨between.dispatcher.outbound, es', hqueued.posts, hqueued.registry, ?_⟩
  intro pool _
  have hsame : between.dispatcher.pool = pool.withJobs (pool.waiting ++ jobs) pool.running := hfull
  rw [pool_settle, houtbound, hnow, hsame]
  exact ⟨rfl, rfl⟩

/-! ## Changes -/

/-- The jobs of entities that changed. -/
def changeJobs (h : Hub) (producer : String) {k : DataKind} (dataset : String)
    (changed : List k.Entity) : List PushJob :=
  (h.registry.lookup h.clock k dataset).1.matching.flatMap
    (Dispatcher.batchJob producer h.clock.wall k.profile dataset changed h.dispatcher.limit)


theorem dispatch_eq (h : Hub) (k : DataKind) (dataset : String) (changed : List k.Entity)
    (hcount : (h.dispatcher.onChange h.clock k.profile dataset changed).1 ≠ none) :
    h.dispatch k dataset changed =
      { h with dispatcher := (h.dispatcher.onChange h.clock k.profile dataset changed).2 } := by
  unfold dispatch
  split
  · next hanswer => rw [hanswer]
  · next hanswer => exact absurd (by rw [hanswer]) hcount

theorem feeds_dispatch (h : Hub) (k : DataKind) (dataset : String) (changed : List k.Entity) :
    (h.dispatch k dataset changed).feeds = h.feeds := by
  unfold dispatch
  split <;> rfl

theorem clock_dispatch (h : Hub) (k : DataKind) (dataset : String) (changed : List k.Entity) :
    (h.dispatch k dataset changed).clock = h.clock := by
  unfold dispatch
  split <;> rfl

/-- Dispatching what changed submits its jobs. -/
theorem submits_dispatch (h : Hub) (hbuilder : h.dispatcher.builder = .json producer) {k : DataKind}
    (dataset : String) {changed : List k.Entity} (hchanged : changed ≠ []) :
    h.Submits (h.registry.lookup h.clock k dataset).2 (h.changeJobs producer dataset changed)
      (h.dispatch k dataset changed).settle := by
  obtain ⟨hqueued, hcount⟩ :=
    Dispatcher.queued_onChange hbuilder h.clock k.profile dataset hchanged
  rw [DataKind.kind_profile] at hqueued
  exact ⟨Dispatcher.matchEvents k dataset (h.registry.lookup h.clock k dataset).1, _, rfl,
    h.clock_dispatch k dataset changed, by rw [dispatch_eq h k dataset _ hcount]; exact hqueued⟩

/-! ## Batches -/

/-- What putting a batch into the store would do. -/
def upserted (h : Hub) {k : DataKind} (dataset : String) (batch : Batch k) :
    UpsertResult k.Entity × EntityStore k.Entity :=
  (h.feeds.get k).store.upsertAll h.clock dataset (batch.items (h.feeds.get k).store.profile)

/-- The entities that a batch would change, in the order of their first change. -/
def changedBy (h : Hub) {k : DataKind} (dataset : String) (batch : Batch k) : List k.Entity :=
  (h.upserted dataset batch).1.changedValues

theorem ingested_eq (h : Hub) (k : DataKind) (dataset : String) (i : Ingested k.Entity) :
    ∃ counted es, counted.clock = h.clock ∧ counted.feeds = h.feeds ∧
      counted.dispatcher = h.dispatcher.report es ∧
      h.ingested k dataset i =
        if i.result.changedValues.isEmpty || h.registry.size h.now = 0 then ([], counted.settle)
        else ([.change k dataset i.result.changed], counted) := by
  have hempty : i.result.changedValues.isEmpty = i.result.changed.isEmpty := List.isEmpty_map
  rw [hempty]
  exact ⟨Hub.report { h with totals := h.totals.add i.summary }
    (.ingestCounted k dataset i.summary :: storeEvents k dataset i.result), _, rfl, rfl, rfl, rfl⟩

/-- A batch goes into the store, reports are made, and what changed is left to a task if there is any
subscription. -/
theorem call_ingest (h : Hub) (k : DataKind) (dataset : String) (batch : Batch k) :
    ∃ counted feed es, counted.clock = h.clock ∧ counted.feeds = h.feeds.set k feed ∧
      feed.store = (h.upserted dataset batch).2 ∧ counted.dispatcher = h.dispatcher.report es ∧
      h.call (.ingest k dataset batch) =
        if (h.changedBy dataset batch).isEmpty || h.registry.size h.now = 0 then
          ([], counted.settle)
        else ([.change k dataset (h.upserted dataset batch).1.changed], counted) := by
  have hread : ∃ feed es i, h.call (.ingest k dataset batch) =
        ((h.setFeed k feed).report es).ingested k dataset i ∧
      feed.store = (h.upserted dataset batch).2 ∧ i.result = (h.upserted dataset batch).1 := by
    cases batch with
    | entities items => exact ⟨_, [], _, rfl, rfl, rfl⟩
    | documents items =>
      let i := (h.feeds.get k).ingestJson h.clock dataset items
      exact ⟨i.2, List.replicate i.1.undecodable (.itemUndecodable k dataset), i.1, rfl, rfl, rfl⟩
  obtain ⟨feed, es, i, hcall, hstore, hresult⟩ := hread
  obtain ⟨counted, es', hclock, hfeeds, hdispatcher, hingested⟩ :=
    ((h.setFeed k feed).report es).ingested_eq k dataset i
  rw [hresult] at hingested
  exact ⟨counted, feed, es ++ es', hclock, hfeeds, hstore,
    hdispatcher.trans (Dispatcher.report_report _ _ _), hcall.trans hingested⟩

/-- Where something changed and there is a subscription, a batch submits the jobs of the change. -/
theorem submits_take (h : Hub) (hbuilder : h.dispatcher.builder = .json producer) {k : DataKind}
    {dataset : String} {batch : Batch k} (hchanged : h.changedBy dataset batch ≠ [])
    (hsize : h.registry.size h.now ≠ 0) :
    h.Submits (h.registry.lookup h.clock k dataset).2
      (h.changeJobs producer dataset (h.changedBy dataset batch)) (h.take k dataset batch) := by
  obtain ⟨counted, feed, es, hclock, -, -, hdispatcher, hcall⟩ := h.call_ingest k dataset batch
  have hheard : ¬ ((h.changedBy dataset batch).isEmpty || h.registry.size h.now = 0) = true := by
    rw [Bool.or_eq_true, List.isEmpty_iff]
    exact fun hskip => hskip.elim hchanged fun hzero => hsize (of_decide_eq_true hzero)
  have htake : h.take k dataset batch =
      (counted.dispatch k dataset (h.changedBy dataset batch)).settle := by
    show h.perform (.ingest k dataset batch) = _
    rw [perform_eq_call, hcall, if_neg hheard]
    rfl
  have hsubmits := counted.submits_dispatch (by rw [hdispatcher]; exact hbuilder) dataset hchanged
  rw [changeJobs, registry, hclock, hdispatcher] at hsubmits
  rw [htake]
  exact hsubmits.of_report hclock hdispatcher

/-! ## Requests -/

theorem submits_deliverSnapshot (h : Hub) (hbuilder : h.dispatcher.builder = .json producer)
    (k : DataKind) (s : Subscription) :
    h.Submits h.registry (Dispatcher.delivery producer h.clock.wall k (h.dispatcher.limit s) s
      ((h.snapshot k s).map k.profile.toJson)) (h.deliverSnapshot k s) := by
  obtain ⟨hqueued, -⟩ :=
    Dispatcher.queued_deliver_json hbuilder h.clock.wall k s k.profile.toJson (h.snapshot k s)
  unfold deliverSnapshot
  dsimp only
  generalize h.dispatcher.deliver h.clock.wall k s _ = answer at hqueued ⊢
  obtain ⟨submission, d⟩ := answer
  have hreported (es : List LogEvent) := hqueued.trans (d.queued_report es)
  rw [List.append_nil] at hreported
  cases submission with
  | queued => exact ⟨[], _, rfl, rfl, hreported _⟩
  | refused => exact ⟨[], _, rfl, rfl, hreported _⟩
  | crashed => exact ⟨[], _, rfl, rfl, hqueued⟩

theorem feeds_deliverSnapshot (h : Hub) (k : DataKind) (s : Subscription) :
    (h.deliverSnapshot k s).feeds = h.feeds := by
  unfold deliverSnapshot
  dsimp only
  rw [feeds_settle]
  split <;> rfl

theorem clock_deliverSnapshot (h : Hub) (k : DataKind) (s : Subscription) :
    (h.deliverSnapshot k s).clock = h.clock := by
  unfold deliverSnapshot
  dsimp only
  rw [clock_settle]
  split <;> rfl

/-- Tasks do not touch the stores. -/
theorem feeds_runSpawned (h : Hub) (t : Spawned) : (h.runSpawned t).feeds = h.feeds := by
  cases t with
  | change k dataset changed => exact (feeds_settle _).trans (h.feeds_dispatch k dataset _)
  | snapshot s => exact h.feeds_deliverSnapshot s.kind s

theorem clock_runSpawned (h : Hub) (t : Spawned) : (h.runSpawned t).clock = h.clock := by
  cases t with
  | change k dataset changed => exact (clock_settle _).trans (h.clock_dispatch k dataset _)
  | snapshot s => exact h.clock_deliverSnapshot s.kind s

theorem subscribe_of_accept {d : Dispatcher} {c : Clock} {id : String}
    {request : SubscriptionRequest} {s : Subscription} {ttl : Duration}
    (haccept : d.registry.accept c id request = .ok (s, ttl)) :
    ∃ es, d.subscribe c id request =
      (.ok s, (d.withRegistry ((d.registry.put c.now s ttl).refresh c.now).2).report es) := by
  have haccept' : d.outbound.registry.accept c id request = .ok (s, ttl) := haccept
  obtain rfl := Registry.id_of_accept haccept
  unfold Dispatcher.subscribe Registry.subscribe
  rw [haccept']
  exact ⟨_, rfl⟩

/-- A request that is accepted puts the subscription into the registry, and leaves the snapshot to a
task if its kind wants one. Any other request is only reported. -/
theorem call_subscribe (h : Hub) (fresh : String) (request : SubscriptionRequest) :
    (∃ e, (h.subscribe fresh request).1 = .error e ∧
      (h.call (.subscribe fresh request)).1 = [] ∧
      Quietly h (h.call (.subscribe fresh request)).2) ∨
    ∃ s ttl es, ttl ≠ 0 ∧ (h.subscribe fresh request).1 = .ok s ∧
      h.call (.subscribe fresh request) =
        (if s.kind = .situationExchange then [.snapshot s] else [],
          { h with dispatcher := (h.dispatcher.withRegistry
              ((h.registry.put h.now s ttl).refresh h.now).2).report es }) := by
  cases haccept : h.registry.accept h.clock (request.id.getD fresh) request with
  | error e =>
    have haccept' : h.dispatcher.outbound.registry.accept h.clock (request.id.getD fresh) request =
      .error e := haccept
    show (∃ e, _ ∧ (h.subscribed fresh request).1 = [] ∧ Quietly h (h.subscribed fresh request).2) ∨ _
    unfold subscribe subscribed Dispatcher.subscribe Registry.subscribe
    rw [haccept']
    exact Or.inl ⟨e, rfl, rfl, quietly_dispatch (Dispatcher.Quiet.report _).path rfl rfl⟩
  | ok answer =>
    obtain ⟨s, ttl⟩ := answer
    obtain ⟨_, -, hretention⟩ := Registry.accept_ok haccept
    have hpos := Registry.retention_pos hretention
    obtain ⟨es, hanswer⟩ := subscribe_of_accept (d := h.dispatcher) haccept
    have hcontains : ((h.registry.put h.now s ttl).refresh h.now).2.contains h.now s.id = true := by
      rw [Registry.contains_eq, Registry.slot?_refresh, Registry.slot?_put _ _ _ hpos, if_pos rfl]
      rfl
    refine Or.inr ⟨s, ttl, es, hpos, by unfold subscribe; rw [hanswer], ?_⟩
    show h.subscribed fresh request = _
    unfold subscribed
    rw [hanswer]
    show (if (decide (s.kind = .situationExchange) &&
      ((h.registry.put h.now s ttl).refresh h.now).2.contains h.now s.id) = true then _ else _, _) = _
    rw [hcontains, Bool.and_true]
    by_cases hkind : s.kind = .situationExchange
    · rw [if_pos hkind, if_pos (decide_eq_true hkind)]
      rfl
    · rw [if_neg hkind, if_neg (by simpa using hkind)]
      rfl

/-! ## Workers at rest -/

/-- Without their tasks, too, operations leave the workers at rest. -/
theorem atRest_call (h : Hub) (op : HubOp) (hrest : h.dispatcher.pool.AtRest) :
    (h.call op).2.dispatcher.pool.AtRest := by
  by_cases hquiet : op.IsQuiet
  · rw [h.call_of_quiet hquiet]
    exact h.atRest_perform op hrest
  cases op with
  | ingest k dataset batch =>
    obtain ⟨counted, -, es, -, -, -, hdispatcher, hcall⟩ := h.call_ingest k dataset batch
    rw [hcall]
    split
    · exact atRest_settle _
    · show counted.dispatcher.pool.AtRest
      rw [hdispatcher]
      exact hrest
  | subscribe fresh request =>
    have hpool := pool_subscribe h.clock h.dispatcher (request.id.getD fresh) request
    show (h.subscribed fresh request).2.dispatcher.pool.AtRest
    unfold subscribed
    generalize h.dispatcher.subscribe h.clock (request.id.getD fresh) request = answer at hpool
    obtain ⟨answer, dispatcher⟩ := answer
    cases answer <;> exact hpool.symm ▸ hrest
  | _ => exact (hquiet trivial).elim

theorem atRest_runSpawned (h : Hub) (t : Spawned) : (h.runSpawned t).dispatcher.pool.AtRest := by
  cases t <;> exact atRest_settle _

end Hub

end TransitHub
