/-
# Tasks that have not run yet

Not everything that an operation leads to is done by the operation. What a batch changed is matched
and pushed by a task of its own, and so is the snapshot for a new subscription queried and pushed.
Until it is their turn, other operations may come, time may pass, and the registry and the stores
may change. A hub performs an operation as if its tasks ran at once; here they wait.

Nothing says in which order they run: any task that waits may be the next. A task runs as a whole,
and the workers go on after it. Where the tasks of every operation run before the next one, this is
what a hub performs.
-/

import TransitHub.Proofs.Hub.Run

namespace TransitHub

/-- What an operation leaves to a task. -/
inductive Spawned
  /-- What a batch changed is dispatched. The keys are kept for the account, the task does not use
  them. -/
  | change (k : DataKind) (dataset : String) (changed : List (RecordKey × k.Entity))
  /-- A new subscription is sent the current state. -/
  | snapshot (s : Subscription)

namespace Hub

variable {h h' : Hub}

def runSpawned (h : Hub) : Spawned → Hub
  | .change k dataset changed => (h.dispatch k dataset (changed.map (·.2))).settle
  | .snapshot s => h.deliverSnapshot s.kind s

/-- Count and report an ingested batch, and spawn the task for what it changed if there is any
subscription. -/
def ingested (h : Hub) (k : DataKind) (dataset : String) (i : Ingested k.Entity) :
    List Spawned × Hub :=
  let h := { h with totals := h.totals.add i.summary }.report
    (.ingestCounted k dataset i.summary :: storeEvents k dataset i.result)
  if i.result.changed.isEmpty || h.registry.size h.now = 0 then ([], h.settle)
  else ([.change k dataset i.result.changed], h)

/-- Accept or refuse a request, and spawn the task for the snapshot if one is wanted. -/
def subscribed (h : Hub) (fresh : String) (request : SubscriptionRequest) : List Spawned × Hub :=
  match h.dispatcher.subscribe h.clock (request.id.getD fresh) request with
  | (.error _, dispatcher) => ([], { h with dispatcher })
  | (.ok s, dispatcher) =>
    let h := { h with dispatcher }
    (if s.kind.wantsSnapshot && h.registry.contains h.now s.id then [.snapshot s] else [], h)

/-- Perform an operation without its tasks. -/
def call (h : Hub) : HubOp → List Spawned × Hub
  | .ingest k dataset (.entities items) =>
    let (i, feed) := (h.feeds.get k).ingest h.clock dataset items 0
    (h.setFeed k feed).ingested k dataset i
  | .ingest k dataset (.documents items) =>
    let (i, feed) := (h.feeds.get k).ingestJson h.clock dataset items
    let unread := List.replicate i.undecodable (.itemUndecodable k dataset)
    ((h.setFeed k feed).report unread).ingested k dataset i
  | .subscribe fresh request => h.subscribed fresh request
  | op => ([], h.perform op)

/-- A quiet operation has no tasks. -/
theorem call_of_quiet (h : Hub) {op : HubOp} (hop : op.IsQuiet) :
    h.call op = ([], h.perform op) := by
  cases op with
  | ingest => exact hop.elim
  | subscribe => exact hop.elim
  | _ => rfl

theorem quietly_call (h : Hub) {op : HubOp} (hop : op.IsQuiet) : Quietly h (h.call op).2 := by
  rw [h.call_of_quiet hop]
  exact h.quietly_perform hop

theorem concludeIngest_eq_ingested (h : Hub) (k : DataKind) (dataset : String)
    (i : Ingested k.Entity) :
    (h.concludeIngest k dataset i).2 =
      (h.ingested k dataset i).1.foldl runSpawned (h.ingested k dataset i).2 := by
  unfold concludeIngest ingested
  dsimp only
  split <;> rfl

theorem subscribe_eq_subscribed (h : Hub) (fresh : String) (request : SubscriptionRequest) :
    (h.subscribe fresh request).2 =
      (h.subscribed fresh request).1.foldl runSpawned (h.subscribed fresh request).2 := by
  unfold subscribe subscribed
  generalize h.dispatcher.subscribe h.clock (request.id.getD fresh) request = answer
  obtain ⟨answer, dispatcher⟩ := answer
  cases answer with
  | error e => rfl
  | ok s =>
    dsimp only
    split <;> rfl

/-- An operation is performed by running its tasks at once. -/
theorem perform_eq_call (h : Hub) (op : HubOp) :
    h.perform op = (h.call op).1.foldl runSpawned (h.call op).2 := by
  by_cases hquiet : op.IsQuiet
  · rw [h.call_of_quiet hquiet]
    rfl
  cases op with
  | ingest k dataset batch =>
    cases batch with
    | entities => exact concludeIngest_eq_ingested ..
    | documents => exact concludeIngest_eq_ingested ..
  | subscribe fresh request => exact h.subscribe_eq_subscribed fresh request
  | _ => exact (hquiet trivial).elim

/-! ## Paths of changes -/

theorem moves_dispatch (hpath : Dispatcher.Moves h.clock h.dispatcher h'.dispatcher)
    (hclock : h'.clock = h.clock) (hfeeds : h'.feeds = h.feeds) : Moves h h' :=
  .single (.dispatch hpath hclock hfeeds)

theorem Moves.quietly {h'' : Hub} (hpath : Moves h h') (hquiet : Quietly h' h'') : Moves h h'' :=
  hpath.trans hquiet.moves

theorem moves_dispatchBatch (h : Hub) (k : DataKind) (dataset : String) (changed : List k.Entity) :
    Moves h (h.dispatch k dataset changed) := by
  have hchange := h.dispatcher.moves_onChange h.clock k.profile dataset changed
  unfold dispatch
  generalize h.dispatcher.onChange h.clock k.profile dataset changed = answer at hchange
  obtain ⟨count, dispatcher⟩ := answer
  have hsubmitted : Moves h { h with dispatcher } := moves_dispatch hchange rfl rfl
  cases count with
  | some n => exact hsubmitted
  | none => exact hsubmitted.quietly (Quietly.report .refl _)

theorem moves_deliverSnapshot (h : Hub) (k : DataKind) (s : Subscription) :
    Moves h (h.deliverSnapshot k s) := by
  have hsent : Dispatcher.Moves h.clock h.dispatcher (h.dispatcher.deliver h.clock.wall k s
      ((h.snapshot k s).map fun e => .ok (k.profile.toJson e))).2 :=
    (Dispatcher.Move.delivered k s _).path
  unfold deliverSnapshot
  dsimp only
  generalize h.dispatcher.deliver h.clock.wall k s _ = answer at hsent ⊢
  obtain ⟨submission, dispatcher⟩ := answer
  have hsubmitted : Moves h { h with dispatcher } := moves_dispatch hsent rfl rfl
  apply Moves.quietly _ (quietly_settle _)
  cases submission with
  | queued => exact hsubmitted.quietly (Quietly.report .refl _)
  | refused => exact hsubmitted.quietly (Quietly.report .refl _)
  | crashed => exact hsubmitted

theorem moves_ingested (h : Hub) (k : DataKind) (dataset : String) (i : Ingested k.Entity) :
    Moves h (h.ingested k dataset i).2 := by
  have hcounted (es : List LogEvent) :
      Moves h (Hub.report { h with totals := h.totals.add i.summary } es) := by
    apply Quietly.moves
    apply Quietly.report
    exact quietly_keep rfl rfl rfl
  unfold ingested
  dsimp only
  split
  · exact (hcounted _).quietly (quietly_settle _)
  · exact hcounted _

theorem moves_call (h : Hub) (op : HubOp) : Moves h (h.call op).2 := by
  by_cases hquiet : op.IsQuiet
  · exact (h.quietly_call hquiet).moves
  have hfeed (k : DataKind) (op : FeedOp k.Entity) :
      Moves h (h.setFeed k ((h.feeds.get k).perform h.clock op).2) :=
    .single (.feed k op trivial rfl rfl rfl)
  cases op with
  | ingest k dataset batch =>
    cases batch with
    | entities items => exact (hfeed k (.ingest dataset items)).trans (moves_ingested _ k dataset _)
    | documents items =>
      have hread := Moves.quietly (hfeed k (.ingestJson dataset items)) (Quietly.report .refl
        (List.replicate ((h.feeds.get k).ingestJson h.clock dataset items).1.undecodable
          (.itemUndecodable k dataset)))
      exact hread.trans (moves_ingested _ k dataset _)
  | subscribe fresh request =>
    have hasked := h.dispatcher.moves_subscribe h.clock (request.id.getD fresh) request
    show Moves h (h.subscribed fresh request).2
    unfold subscribed
    generalize h.dispatcher.subscribe h.clock (request.id.getD fresh) request = answer at hasked
    obtain ⟨answer, dispatcher⟩ := answer
    cases answer <;> exact moves_dispatch hasked rfl rfl
  | _ => exact (hquiet trivial).elim

theorem moves_runSpawned (h : Hub) (t : Spawned) : Moves h (h.runSpawned t) := by
  cases t with
  | change k dataset changed =>
    exact (h.moves_dispatchBatch k dataset _).quietly (quietly_settle _)
  | snapshot s => exact h.moves_deliverSnapshot s.kind s

/-- Every operation is a path of changes: its own, and those of its tasks. -/
theorem moves_perform (h : Hub) (op : HubOp) : Moves h (h.perform op) := by
  rw [perform_eq_call]
  exact List.foldlRecOn (motive := Moves h) (h.call op).1 runSpawned (h.moves_call op)
    fun h' hpath t _ => hpath.trans (h'.moves_runSpawned t)

theorem moves_run (h : Hub) (ops : List HubOp) : Moves h (h.run ops) :=
  run_induction ops .refl fun h' op hpath => hpath.trans (h'.moves_perform op)

end Hub

/-- A hub with the tasks that have not run yet. Each has its number among all that were spawned,
which is kept for the account; the tasks do not use it. -/
structure Lagging where
  hub : Hub
  tasks : List (Spawned × Nat) := []
  /-- How many tasks were spawned. -/
  spawned : Nat := 0

/-- What happens to a hub whose tasks lag behind. -/
inductive LaggingOp
  | call (op : HubOp)
  /-- A task that waits runs, whichever of them; `place` is its place among them. -/
  | work (place : Nat)

namespace Lagging

def next (l : Lagging) : LaggingOp → Lagging
  | .call op =>
    { hub := (l.hub.call op).2
      tasks := l.tasks ++ (l.hub.call op).1.zipIdx l.spawned
      spawned := l.spawned + (l.hub.call op).1.length }
  | .work place =>
    match l.tasks[place]? with
    | some (t, _) => { l with hub := l.hub.runSpawned t, tasks := l.tasks.eraseIdx place }
    | none => l

def run (l : Lagging) (ops : List LaggingOp) : Lagging := ops.foldl next l

/-- Where no task waits at the place nothing happens; otherwise the task runs and waits no more. -/
theorem work_cases (l : Lagging) (place : Nat) :
    (l.tasks[place]? = none ∧ l.next (.work place) = l) ∨
    ∃ t n, l.tasks[place]? = some (t, n) ∧
      l.next (.work place) =
        { l with hub := l.hub.runSpawned t, tasks := l.tasks.eraseIdx place } := by
  cases hwaits : l.tasks[place]? with
  | none => exact Or.inl ⟨rfl, by simp only [next, hwaits]⟩
  | some task => exact Or.inr ⟨task.1, task.2, rfl, by simp only [next, hwaits]⟩

/-- A task that waits after an operation waited before, or the operation spawned it. -/
theorem task_of_call (l : Lagging) {op : HubOp} {task : Spawned × Nat}
    (h : task ∈ (l.next (.call op)).tasks) :
    task ∈ l.tasks ∨ task.1 ∈ (l.hub.call op).1 :=
  (List.mem_append.1 h).imp_right List.fst_mem_of_mem_zipIdx

theorem run_work (h : Hub) (tasks : List (Spawned × Nat)) (n : Nat) :
    run ⟨h, tasks, n⟩ (List.replicate tasks.length (.work 0)) =
      ⟨(tasks.map Prod.fst).foldl Hub.runSpawned h, [], n⟩ := by
  induction tasks generalizing h with
  | nil => rfl
  | cons task rest ih => exact ih (h.runSpawned task.1)

/-- A run of a hub is one in which no task lags behind an operation. -/
theorem exists_run (h : Hub) (ops : List HubOp) (n : Nat) :
    ∃ ops' n', run ⟨h, [], n⟩ ops' = ⟨h.run ops, [], n'⟩ := by
  induction ops generalizing h n with
  | nil => exact ⟨[], n, rfl⟩
  | cons op rest ih =>
    have hop : run ⟨h, [], n⟩ (.call op :: List.replicate (h.call op).1.length (.work 0)) =
        ⟨h.perform op, [], n + (h.call op).1.length⟩ := by
      have hwork := run_work (h.call op).2 ((h.call op).1.zipIdx n) (n + (h.call op).1.length)
      rw [List.length_zipIdx, List.zipIdx_map_fst, ← Hub.perform_eq_call] at hwork
      exact hwork
    obtain ⟨ops', n', hrest⟩ := ih (h.perform op) (n + (h.call op).1.length)
    refine ⟨.call op :: List.replicate (h.call op).1.length (.work 0) ++ ops', n', ?_⟩
    rw [run, List.foldl_append]
    exact (congrArg (List.foldl next · ops') hop).trans hrest

theorem moves_next (l : Lagging) (op : LaggingOp) : Hub.Moves l.hub (l.next op).hub := by
  cases op with
  | call op => exact l.hub.moves_call op
  | work place =>
    rcases l.work_cases place with ⟨-, hnext⟩ | ⟨t, n, -, hnext⟩
    · rw [hnext]
    · rw [hnext]
      exact l.hub.moves_runSpawned t

theorem moves_run (l : Lagging) (ops : List LaggingOp) : Hub.Moves l.hub (l.run ops).hub :=
  List.foldlRecOn (motive := fun l' => Hub.Moves l.hub l'.hub) ops next .refl
    fun l' hpath op _ => hpath.trans (l'.moves_next op)

end Lagging

end TransitHub
