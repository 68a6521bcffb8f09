/-
# Runs of a hub

A run of a hub is a sequence of operations: batches, polls, requests, background work, and what
happens outside of the hub, such as the passing of time, the replies that posts get, and posts that
may go on. The workers go on after every operation that gives them something to do.

An operation is a path of changes, each of a feed, of the dispatcher, or of the clocks. An operation
is quiet if it brings neither a batch nor a request; then the changes are quiet. Every operation
leaves the workers at rest.
-/

import TransitHub.Hub.Background
import TransitHub.Proofs.Feed.Run
import TransitHub.Proofs.Push.Moves

namespace TransitHub

/-- A batch, of entities or of documents. -/
inductive Batch (k : DataKind)
  | entities (items : List k.Entity)
  | documents (items : List Json)

/-- One operation on a hub, or what happens outside of it. -/
inductive HubOp
  | ingest (k : DataKind) (dataset : String) (batch : Batch k)
  | poll (k : DataKind) (consumer : String) (request : ReadRequest)
  | commit (k : DataKind)
  | flush (k : DataKind)
  | clear (k : DataKind) (dataset : String)
  | subscribe (fresh : String) (request : SubscriptionRequest)
  | terminate (id : String) (acknowledge : Bool)
  | refresh
  | matching (k : DataKind) (dataset : String)
  /-- The scan for due heartbeats. -/
  | scan
  | sweep
  /-- The background loops are started. -/
  | start
  /-- Time passes, and everything that is due is done. -/
  | advance (d : Duration)
  /-- Time passes at once, and what came due in between is done late. -/
  | jump (d : Duration)
  /-- The wall clock alone is set. -/
  | moveWall (d : Int)
  | shutDown
  /-- What the posts to an address get from now on. -/
  | script (address : String) (replies : List Reply)
  /-- Held posts to an address may go on. -/
  | release (address : String) (n : Nat)

/-- Whether an operation brings neither a batch nor a request. -/
def HubOp.IsQuiet : HubOp → Prop
  | .ingest .. => False
  | .subscribe .. => False
  | _ => True

/-- Whether an operation brings no batch. -/
def FeedOp.IsQuiet {α : Type} : FeedOp α → Prop
  | .ingest .. => False
  | .ingestJson .. => False
  | _ => True

namespace Hub

variable {h h' : Hub}

/-- Scan for due heartbeats and let the workers go on. -/
def scan (h : Hub) : Hub :=
  let (_, heartbeats, h) := h.scanWith h.heartbeats h.now
  { h with heartbeats }.settle

/-- Ingest a batch. -/
def take (h : Hub) (k : DataKind) (dataset : String) : Batch k → Hub
  | .entities items => (h.ingest k dataset items).2
  | .documents items => (h.ingestJson k dataset items).2

/-- Perform one operation. -/
def perform (h : Hub) : HubOp → Hub
  | .ingest k dataset batch => h.take k dataset batch
  | .poll k consumer request => (h.poll k consumer request).2
  | .commit k => (h.commit k).2
  | .flush k => (h.flush k).2
  | .clear k dataset => (h.clear k dataset).2
  | .subscribe fresh request => (h.subscribe fresh request).2
  | .terminate id acknowledge => (h.terminate id acknowledge).2
  | .refresh => h.refresh.2
  | .matching k dataset => (h.matching k dataset).2
  | .scan => h.scan
  | .sweep => h.sweep
  | .start => h.start
  | .advance d => h.advance d
  | .jump d => h.jump d
  | .moveWall d => h.moveWall d
  | .shutDown => h.shutDown.2
  | .script address replies => { h with dispatcher := h.dispatcher.setScript address replies }
  | .release address n => h.release address n

/-- The operations of a run in their order. -/
def run (h : Hub) (ops : List HubOp) : Hub := ops.foldl perform h

/-- A change of the dispatcher by a path of moves, of a feed by an operation, or of the clocks. Which
moves and operations there are is left open; bookkeeping may change at any time. -/
inductive Change (path : Clock → Dispatcher → Dispatcher → Prop)
    (allowed : ∀ k : DataKind, FeedOp k.Entity → Prop) (h h' : Hub) : Prop
  | dispatch (hpath : path h.clock h.dispatcher h'.dispatcher) (hclock : h'.clock = h.clock)
      (hfeeds : h'.feeds = h.feeds)
  | feed (k : DataKind) (op : FeedOp k.Entity) (hop : allowed k op)
      (hfeeds : h'.feeds = h.feeds.set k ((h.feeds.get k).perform h.clock op).2)
      (hclock : h'.clock = h.clock) (hdispatcher : h'.dispatcher = h.dispatcher)
  | pass (t : TimeStep) (hclock : h'.clock = t.apply h.clock) (hfeeds : h'.feeds = h.feeds)
      (hdispatcher : h'.dispatcher = h.dispatcher)

/-- Quiet changes one after another. -/
abbrev Quietly : Hub → Hub → Prop :=
  Relation.ReflTransGen (Change Dispatcher.Quietly fun _ op => op.IsQuiet)

/-- Changes one after another. -/
abbrev Moves : Hub → Hub → Prop := Relation.ReflTransGen (Change Dispatcher.Moves fun _ _ => True)

theorem Quietly.moves (hpath : Quietly h h') : Moves h h' := by
  refine Relation.ReflTransGen.mono (fun h h' hchange => ?_) _ _ hpath
  cases hchange with
  | dispatch hpath hclock hfeeds => exact .dispatch hpath.moves hclock hfeeds
  | feed k op _ hfeeds hclock hdispatcher => exact .feed k op trivial hfeeds hclock hdispatcher
  | pass t hclock hfeeds hdispatcher => exact .pass t hclock hfeeds hdispatcher

theorem quietly_dispatch (hpath : Dispatcher.Quietly h.clock h.dispatcher h'.dispatcher)
    (hclock : h'.clock = h.clock) (hfeeds : h'.feeds = h.feeds) : Quietly h h' :=
  .single (.dispatch hpath hclock hfeeds)

/-- Bookkeeping is not seen. -/
theorem quietly_keep (hdispatcher : h'.dispatcher = h.dispatcher) (hclock : h'.clock = h.clock)
    (hfeeds : h'.feeds = h.feeds) : Quietly h h' :=
  quietly_dispatch (by rw [hdispatcher]) hclock hfeeds

/-- Bookkeeping after a path. -/
theorem Quietly.keep {h'' : Hub} (hpath : Quietly h h') (hdispatcher : h''.dispatcher = h'.dispatcher)
    (hclock : h''.clock = h'.clock) (hfeeds : h''.feeds = h'.feeds) : Quietly h h'' :=
  hpath.trans (quietly_keep hdispatcher hclock hfeeds)

theorem Quietly.report (hpath : Quietly h h') (es : List LogEvent) : Quietly h (h'.report es) :=
  hpath.trans (quietly_dispatch (Dispatcher.Quiet.report es).path rfl rfl)

theorem quietly_feed (h : Hub) (k : DataKind) (op : FeedOp k.Entity) (hop : op.IsQuiet) :
    Quietly h (h.setFeed k ((h.feeds.get k).perform h.clock op).2) :=
  .single (.feed k op hop rfl rfl rfl)

theorem quietly_pass (t : TimeStep) (hclock : h'.clock = t.apply h.clock)
    (hfeeds : h'.feeds = h.feeds) (hdispatcher : h'.dispatcher = h.dispatcher) : Quietly h h' :=
  .single (.pass t hclock hfeeds hdispatcher)

/-! ## Quiet operations -/

theorem quietly_settle (h : Hub) : Quietly h h.settle := by
  let settled : Hub := { h with dispatcher := h.dispatcher.settle h.now }
  have hsettled : Quietly h settled := quietly_dispatch Dispatcher.Quiet.settle.path rfl rfl
  unfold settle
  dsimp only
  split
  · split
    · apply Quietly.report
      exact hsettled.keep rfl rfl rfl
    · exact hsettled.keep rfl rfl rfl
  · exact hsettled.keep rfl rfl rfl
  · exact hsettled.keep rfl rfl rfl

theorem Quietly.settle (hpath : Quietly h h') : Quietly h h'.settle :=
  hpath.trans h'.quietly_settle

theorem quietly_poll (h : Hub) (k : DataKind) (consumer : String) (request : ReadRequest) :
    Quietly h (h.poll k consumer request).2 :=
  Quietly.report (h.quietly_feed k (.poll consumer request) trivial) _

theorem quietly_commit (h : Hub) (k : DataKind) : Quietly h (h.commit k).2 := by
  have hfeed := h.quietly_feed k .commit trivial
  unfold commit
  dsimp only
  split
  · exact hfeed
  · exact hfeed.report _

theorem quietly_flush (h : Hub) (k : DataKind) : Quietly h (h.flush k).2 :=
  Quietly.report (h.quietly_commit k) _

theorem quietly_flushEach (h : Hub) (ks : List DataKind) : Quietly h (h.flushEach ks).2 :=
  List.foldlRecOn (motive := fun acc : Nat × Hub => Quietly h acc.2) ks _ .refl
    fun acc hpath k _ => hpath.trans (acc.2.quietly_flush k)

theorem quietly_clear (h : Hub) (k : DataKind) (dataset : String) :
    Quietly h (h.clear k dataset).2 :=
  Quietly.report (h.quietly_feed k (.clearDataset dataset) trivial) _

theorem quietly_sweepFeed (h : Hub) (k : DataKind) : Quietly h (h.sweepFeed k) :=
  Quietly.report (h.quietly_feed k .sweep trivial) _

theorem quietly_sweep (h : Hub) : Quietly h h.sweep := by
  unfold sweep
  split
  · have hregistry : Dispatcher.Quietly h.clock h.dispatcher
        ((h.dispatcher.afterOp h.clock .sweep).report
          (sweepEvent "subscriptions" (h.registry.subscriptions.expired h.now))) :=
      (Dispatcher.Quiet.registry .sweep trivial).path.tail (.report _)
    exact List.foldlRecOn (motive := Quietly h) DataKind.all sweepFeed
      (quietly_dispatch hregistry rfl rfl) fun h' hpath k _ => hpath.trans (h'.quietly_sweepFeed k)
  · exact .refl

theorem quietly_terminate (h : Hub) (id : String) (acknowledge : Bool) :
    Quietly h (h.terminate id acknowledge).2 := by
  have hremoved := h.dispatcher.quietly_terminate h.clock id
  unfold terminate
  rw [now]
  generalize h.dispatcher.terminate h.clock.now id = answer at hremoved
  obtain ⟨removed, dispatcher⟩ := answer
  cases removed with
  | none => exact quietly_dispatch hremoved rfl rfl
  | some s =>
    have hsent : Dispatcher.Quietly h.clock h.dispatcher
        (dispatcher.sendTermination h.clock.wall s).2 :=
      hremoved.tail (.notice s .termination trivial)
    dsimp only
    split
    · apply Quietly.settle
      generalize dispatcher.sendTermination h.clock.wall s = answer at hsent
      obtain ⟨submission, dispatcher'⟩ := answer
      cases submission with
      | queued => exact quietly_dispatch hsent rfl rfl
      | refused =>
        apply Quietly.report
        exact quietly_dispatch hsent rfl rfl
      | crashed => exact quietly_dispatch hsent rfl rfl
    · exact quietly_dispatch hremoved rfl rfl

theorem quietly_refresh (h : Hub) : Quietly h h.refresh.2 :=
  quietly_dispatch (h.dispatcher.quietly_refresh h.clock) rfl rfl

theorem quietly_matching (h : Hub) (k : DataKind) (dataset : String) :
    Quietly h (h.matching k dataset).2 :=
  quietly_dispatch (h.dispatcher.quietly_matching h.clock k dataset) rfl rfl

theorem quietly_scanWith (h : Hub) (schedule : HeartbeatSchedule) (now : Instant) :
    Quietly h (h.scanWith schedule now).2.2 :=
  quietly_dispatch (schedule.quietly_scan h.clock h.dispatcher now) rfl rfl

theorem quietly_scan (h : Hub) : Quietly h h.scan := by
  apply Quietly.settle
  exact Quietly.keep (h.quietly_scanWith h.heartbeats h.now) rfl rfl rfl

theorem quietly_start (h : Hub) : Quietly h h.start := by
  unfold start
  split
  · exact .refl
  · apply Quietly.report
    exact quietly_keep rfl rfl rfl

theorem quietly_release (h : Hub) (address : String) (n : Nat) :
    Quietly h (h.release address n) := by
  apply Quietly.settle
  exact quietly_dispatch (Dispatcher.Quiet.release address n).path rfl rfl

theorem quietly_shutDown (h : Hub) : Quietly h h.shutDown.2 := by
  have hstopped (es : List LogEvent) : Quietly h (Hub.report { h with loops := [] } es) := by
    apply Quietly.report
    exact quietly_keep rfl rfl rfl
  unfold shutDown
  dsimp only
  generalize hanswer : flushEach _ DataKind.all = answer
  have hflushed : Quietly h answer.2 := by
    rw [← hanswer]
    exact (hstopped _).trans (quietly_flushEach _ DataKind.all)
  obtain ⟨flushed, h'⟩ := answer
  apply Quietly.settle
  split
  · exact hflushed.trans (quietly_dispatch Dispatcher.Quiet.close.path rfl rfl)
  · apply Quietly.report
    exact hflushed.keep rfl rfl rfl

/-! ## Background work -/

theorem quietly_runTask (h : Hub) (task : Task) : Quietly h (h.runTask task) := by
  cases task with
  | commit k => exact h.quietly_commit k
  | heartbeatScan =>
    have hscanned := h.quietly_scanWith h.heartbeats h.now
    unfold runTask
    dsimp only
    split
    · exact hscanned.keep rfl rfl rfl
    · apply Quietly.report
      exact hscanned.keep rfl rfl rfl
  | subscriptionRefresh => exact h.quietly_refresh
  | storePurge => exact h.quietly_sweep

theorem quietly_runTicks (task : Task) (fuel : Nat) (l : PeriodicLoop) (h : Hub) :
    Quietly h (runTicks task fuel l h).2 := by
  induction fuel generalizing l h with
  | zero => exact .refl
  | succ fuel ih =>
    unfold runTicks
    split
    · exact (h.quietly_runTask task).trans (ih _ _)
    · exact .refl

theorem quietly_runDue (h : Hub) : Quietly h h.runDue := by
  apply Quietly.settle
  apply List.foldlRecOn (motive := Quietly h)
  · exact quietly_keep rfl rfl rfl
  · intro h' hpath l _
    exact Quietly.keep (hpath.trans (quietly_runTicks l.1 (l.2.budget h'.now) l.2 h')) rfl rfl rfl

theorem quietly_moveTo (h : Hub) (t : Instant) : Quietly h (h.moveTo t) :=
  quietly_pass (.advance (t.since h.now)) rfl rfl rfl

theorem quietly_passUntil (stop : Instant) (fuel : Nat) (h : Hub) :
    Quietly h (passUntil stop fuel h) := by
  induction fuel generalizing h with
  | zero => exact h.quietly_moveTo stop
  | succ fuel ih =>
    unfold passUntil
    split
    · next t _ => exact ((h.quietly_moveTo t).trans (h.moveTo t).quietly_runDue).trans (ih _)
    · exact h.quietly_moveTo stop

theorem quietly_jump (h : Hub) (d : Duration) : Quietly h (h.jump d) := by
  have hmoved : Quietly h { h with clock := h.clock.advance d } :=
    quietly_pass (.advance d) rfl rfl rfl
  exact hmoved.trans (quietly_runDue _)

/-- A quiet operation is a path of quiet changes. -/
theorem quietly_perform (h : Hub) {op : HubOp} (hop : op.IsQuiet) : Quietly h (h.perform op) := by
  cases op with
  | ingest => exact hop.elim
  | subscribe => exact hop.elim
  | poll k consumer request => exact h.quietly_poll k consumer request
  | commit k => exact h.quietly_commit k
  | flush k => exact h.quietly_flush k
  | clear k dataset => exact h.quietly_clear k dataset
  | terminate id acknowledge => exact h.quietly_terminate id acknowledge
  | refresh => exact h.quietly_refresh
  | matching k dataset => exact h.quietly_matching k dataset
  | scan => exact h.quietly_scan
  | sweep => exact h.quietly_sweep
  | start => exact h.quietly_start
  | advance d => exact quietly_passUntil _ _ h
  | jump d => exact h.quietly_jump d
  | moveWall d => exact quietly_pass (.setWall d) rfl rfl rfl
  | shutDown => exact h.quietly_shutDown
  | script address replies =>
    exact quietly_dispatch (Dispatcher.Quiet.script address replies).path rfl rfl
  | release address n => exact h.quietly_release address n

/-- What every change keeps up holds over a run. -/
theorem run_induction {P : Hub → Prop} (ops : List HubOp) (hstart : P h)
    (hstep : ∀ h op, P h → P (h.perform op)) : P (h.run ops) :=
  List.foldlRecOn (motive := P) ops perform hstart fun h hp op _ => hstep h op hp

/-! ## Workers at rest -/

theorem atRest_settle (h : Hub) : h.settle.dispatcher.pool.AtRest := by
  have hrest : (h.dispatcher.settle h.now).pool.AtRest :=
    (WorkerPool.settle_settles (Outbound.work h.now) h.dispatcher.pool h.dispatcher.outbound).atRest
  unfold settle
  dsimp only
  split
  · split <;> exact hrest
  · exact hrest
  · exact hrest

theorem pool_commit (h : Hub) (k : DataKind) :
    (h.commit k).2.dispatcher.pool = h.dispatcher.pool := by
  unfold commit
  dsimp only
  split <;> rfl

theorem pool_sweep (h : Hub) : h.sweep.dispatcher.pool = h.dispatcher.pool := by
  unfold sweep
  split
  · exact List.foldlRecOn (motive := fun h' : Hub => h'.dispatcher.pool = h.dispatcher.pool)
      DataKind.all sweepFeed rfl fun _ hpool _ _ => hpool
  · rfl

theorem pool_subscribe (c : Clock) (d : Dispatcher) (id : String) (request : SubscriptionRequest) :
    (d.subscribe c id request).2.pool = d.pool := by
  unfold Dispatcher.subscribe
  dsimp only
  split <;> rfl

theorem pool_terminate (now : Instant) (d : Dispatcher) (id : String) :
    (d.terminate now id).2.pool = d.pool := by
  unfold Dispatcher.terminate
  dsimp only
  split <;> rfl

theorem atRest_passUntil (stop : Instant) (fuel : Nat) (h : Hub)
    (hrest : h.dispatcher.pool.AtRest) : (passUntil stop fuel h).dispatcher.pool.AtRest := by
  induction fuel generalizing h with
  | zero => exact hrest
  | succ fuel ih =>
    unfold passUntil
    split
    · exact ih _ (atRest_settle _)
    · exact hrest

/-- Every operation leaves the workers at rest. -/
theorem atRest_perform (h : Hub) (op : HubOp) (hrest : h.dispatcher.pool.AtRest) :
    (h.perform op).dispatcher.pool.AtRest := by
  cases op with
  | ingest k dataset batch => cases batch <;> exact atRest_settle _
  | poll => exact hrest
  | commit k => exact (h.pool_commit k).symm ▸ hrest
  | flush k => exact (h.pool_commit k).symm ▸ hrest
  | clear => exact hrest
  | subscribe fresh request =>
    have hpool := pool_subscribe h.clock h.dispatcher (request.id.getD fresh) request
    show (h.subscribe fresh request).2.dispatcher.pool.AtRest
    unfold subscribe
    generalize h.dispatcher.subscribe h.clock (request.id.getD fresh) request = answer at hpool
    obtain ⟨answer, dispatcher⟩ := answer
    dsimp only at hpool
    cases answer with
    | error e => exact hpool.symm ▸ hrest
    | ok s =>
      dsimp only
      split
      · exact atRest_settle _
      · exact hpool.symm ▸ hrest
  | terminate id acknowledge =>
    have hpool := pool_terminate h.now h.dispatcher id
    show (h.terminate id acknowledge).2.dispatcher.pool.AtRest
    unfold terminate
    generalize h.dispatcher.terminate h.now id = answer at hpool
    obtain ⟨removed, dispatcher⟩ := answer
    dsimp only at hpool
    cases removed with
    | none => exact hpool.symm ▸ hrest
    | some s =>
      dsimp only
      split
      · exact atRest_settle _
      · exact hpool.symm ▸ hrest
  | refresh => exact hrest
  | matching => exact hrest
  | scan => exact atRest_settle _
  | sweep => exact h.pool_sweep.symm ▸ hrest
  | start =>
    show h.start.dispatcher.pool.AtRest
    unfold start
    split <;> exact hrest
  | advance => exact atRest_passUntil _ _ h hrest
  | jump => exact atRest_settle _
  | moveWall => exact hrest
  | shutDown =>
    unfold perform shutDown
    dsimp only
    exact atRest_settle _
  | script => exact hrest
  | release => exact atRest_settle _

end Hub

end TransitHub
