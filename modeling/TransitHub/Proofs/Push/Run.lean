/-
# Runs of a dispatcher

A run of a dispatcher is a sequence of operations with time passing in between: requests, batches and
notices come in, a worker takes a job, a worker goes on with its job, in any order. Each time that a
worker goes on is a `Turn`. Its posts are made at once, and it ends as the job does, or where a post
is held.

Letting the workers go on until nothing can move is one such sequence of steps. The posts of a run are
those of its turns, and only a turn tells the registry of a failed push.
-/

import TransitHub.Proofs.Push.Delivery
import TransitHub.Proofs.Push.Job
import TransitHub.Proofs.Push.Moves

namespace TransitHub

/-! ## Turns -/

/-- One turn of a worker with a job. -/
structure Turn where
  job : PushJob
  madeAt : Instant
  before : Registry
  after : Registry
  posts : List Post
  progress : Progress PushJob
  goes : Posting madeAt job.subscription job.chunks job.payloads before posts after progress

/-- The posts of a turn go to the subscription of its job. -/
theorem Turn.subscription_eq {turn : Turn} {post : Post} (hpost : post ∈ turn.posts) :
    post.subscription = turn.job.subscription.id :=
  (turn.goes.addressed post hpost).1

/-- The turn of a worker that goes on with a job now. -/
def Outbound.turn (o : Outbound) (now : Instant) (job : PushJob) : Turn where
  job
  madeAt := now
  before := o.registry
  after := (work now job o).2.registry
  posts := (work now job o).2.posts.drop o.posts.length
  progress := (work now job o).1
  goes := by
    obtain ⟨posts, hextends, hposting⟩ := work_posting now job o
    rw [hextends.posts, List.drop_left]
    exact hposting

theorem Outbound.posts_turn (o : Outbound) (now : Instant) (job : PushJob) :
    (work now job o).2.posts = o.posts ++ (o.turn now job).posts := by
  obtain ⟨posts, hextends, -⟩ := work_posting now job o
  show _ = o.posts ++ (work now job o).2.posts.drop o.posts.length
  rw [hextends.posts, List.drop_left]

/-- A worker goes on with the job in a seat, if that may go on. -/
def WorkerPool.goOn? {J : Type} (p : WorkerPool J) (seat : Nat) : Option (J × WorkerPool J) :=
  (p.running[seat]?.filter Seat.ready).map fun taken =>
    (taken.job, { p with running := p.running.eraseIdx seat ++ [taken] })

theorem WorkerPool.goOn?_length {J : Type} {p : WorkerPool J} {job : J} {before after : List (Seat J)}
    (hrunning : p.running = before ++ ⟨job, true⟩ :: after) :
    p.goOn? before.length =
      some (job, p.withJobs p.waiting (before ++ after ++ [⟨job, true⟩])) := by
  have hseat : p.running[before.length]? = some ⟨job, true⟩ := by rw [hrunning]; simp
  have hrest : p.running.eraseIdx before.length = before ++ after := by
    rw [hrunning, List.eraseIdx_append_of_length_le (Nat.le_refl _), Nat.sub_self,
      List.eraseIdx_cons_zero]
  rw [goOn?, hseat, hrest]
  rfl

/-! ## Operations -/

/-- One operation on a dispatcher, one step of its workers, or what happens outside of it. -/
inductive DispatcherOp
  | subscribe (id : String) (request : SubscriptionRequest)
  | terminate (id : String)
  | refresh
  | matching (kind : DataKind) (dataset : String)
  | touch (id : String)
  | sweep
  | deliver (kind : DataKind) (s : Subscription) (documents : List (Except String Json))
  | notify (s : Subscription) (content : Content)
  /-- A free worker takes the job that waits longest. -/
  | start
  /-- The worker in a seat goes on with its job. -/
  | turn (seat : Nat)
  | close
  | script (address : String) (replies : List Reply)
  | release (address : String) (n : Nat)
  | pass (t : TimeStep)

/-- Whether an operation on a registry is no failed push. -/
def RegistryOp.IsCalm : RegistryOp → Prop
  | .failure _ => False
  | _ => True

namespace Dispatcher

variable {d : Dispatcher} {c : Clock}

/-- A free worker takes the job that waits longest. -/
def startJob (d : Dispatcher) : Dispatcher :=
  match d.pool.start? with
  | some (_, pool) => { d with pool }
  | none => d

/-- The worker in a seat goes on with its job. -/
def goOn (d : Dispatcher) (now : Instant) (seat : Nat) : Dispatcher :=
  match d.pool.goOn? seat with
  | some (job, pool) =>
    let (progress, outbound) := Outbound.work now job d.outbound
    { d with pool := pool.conclude progress, outbound }
  | none => d

/-- Perform one operation. -/
def perform (d : Dispatcher) (c : Clock) : DispatcherOp → Dispatcher
  | .subscribe id request => (d.subscribe c id request).2
  | .terminate id => (d.terminate c.now id).2
  | .refresh => (d.refresh c.now).2
  | .matching kind dataset => (d.matching c kind dataset).2
  | .touch id => d.afterOp c (.touch id)
  | .sweep => d.afterOp c .sweep
  | .deliver kind s documents => (d.deliver c.wall kind s documents).2
  | .notify s content => (d.submit c.wall s [content]).2
  | .start => d.startJob
  | .turn seat => d.goOn c.now seat
  | .close => d.close
  | .script address replies => d.setScript address replies
  | .release address n => d.release address n
  | .pass _ => d

/-- The turn that an operation is, if a worker goes on in it. -/
def turn? (d : Dispatcher) (c : Clock) : DispatcherOp → Option Turn
  | .turn seat => (d.pool.goOn? seat).map fun (job, _) => d.outbound.turn c.now job
  | _ => none

theorem subscribe_noted (d : Dispatcher) (c : Clock) (id : String) (request : SubscriptionRequest) :
    (d.subscribe c id request).2.registry = d.registry.perform c (.subscribe id request) ∧
      (d.subscribe c id request).2.outbound.posts = d.outbound.posts := by
  unfold subscribe
  dsimp only
  split <;> exact ⟨rfl, rfl⟩

theorem terminate_noted (d : Dispatcher) (c : Clock) (id : String) :
    (d.terminate c.now id).2.registry = d.registry.perform c (.terminate id) ∧
      (d.terminate c.now id).2.outbound.posts = d.outbound.posts := by
  unfold terminate
  dsimp only
  split <;> exact ⟨rfl, rfl⟩

/-- A worker goes on, and then its turn says what becomes of the registry and of the posts; or there
is none that can. -/
theorem goOn_cases (d : Dispatcher) (c : Clock) (seat : Nat) :
    (∃ turn, d.turn? c (.turn seat) = some turn ∧ turn.madeAt = c.now ∧ turn.before = d.registry ∧
      turn.after = (d.goOn c.now seat).registry ∧
      (d.goOn c.now seat).outbound.posts = d.outbound.posts ++ turn.posts) ∨
    (d.turn? c (.turn seat) = none ∧ d.goOn c.now seat = d) := by
  unfold goOn turn?
  dsimp only
  cases d.pool.goOn? seat with
  | none => exact Or.inr ⟨rfl, rfl⟩
  | some taken =>
    obtain ⟨job, pool⟩ := taken
    exact Or.inl ⟨d.outbound.turn c.now job, rfl, rfl, rfl, rfl, d.outbound.posts_turn c.now job⟩

/-- What an operation does to the registry and to the posts. Either it is a turn, or it makes no post
and tells the registry of no failed push. -/
theorem perform_cases (d : Dispatcher) (c : Clock) (op : DispatcherOp) :
    (∃ turn, d.turn? c op = some turn ∧ turn.madeAt = c.now ∧ turn.before = d.registry ∧
      turn.after = (d.perform c op).registry ∧
      (d.perform c op).outbound.posts = d.outbound.posts ++ turn.posts) ∨
    (d.turn? c op = none ∧ (d.perform c op).outbound.posts = d.outbound.posts ∧
      ((d.perform c op).registry = d.registry ∨
        ∃ op' : RegistryOp, op'.IsCalm ∧
          (d.perform c op).registry = d.registry.perform c op')) := by
  cases op with
  | turn seat =>
    refine (d.goOn_cases c seat).imp_right fun hnone => ⟨hnone.1, ?_, Or.inl ?_⟩
    · exact congrArg (fun d => d.outbound.posts) hnone.2
    · exact congrArg registry hnone.2
  | subscribe id request =>
    obtain ⟨hregistry, hposts⟩ := d.subscribe_noted c id request
    exact Or.inr ⟨rfl, hposts, Or.inr ⟨.subscribe id request, trivial, hregistry⟩⟩
  | terminate id =>
    obtain ⟨hregistry, hposts⟩ := d.terminate_noted c id
    exact Or.inr ⟨rfl, hposts, Or.inr ⟨.terminate id, trivial, hregistry⟩⟩
  | refresh => exact Or.inr ⟨rfl, rfl, Or.inr ⟨.refresh, trivial, rfl⟩⟩
  | matching kind dataset =>
    exact Or.inr ⟨rfl, rfl, Or.inr ⟨.lookup kind dataset, trivial, rfl⟩⟩
  | touch id => exact Or.inr ⟨rfl, rfl, Or.inr ⟨.touch id, trivial, rfl⟩⟩
  | sweep => exact Or.inr ⟨rfl, rfl, Or.inr ⟨.sweep, trivial, rfl⟩⟩
  | deliver kind s documents =>
    obtain ⟨jobs, hjobs⟩ := d.queued_deliver c.wall kind s documents
    exact Or.inr ⟨rfl, hjobs.posts, Or.inl hjobs.registry⟩
  | notify s content =>
    obtain ⟨jobs, hjobs⟩ := d.queued_submit c.wall s [content]
    exact Or.inr ⟨rfl, hjobs.posts, Or.inl hjobs.registry⟩
  | start =>
    refine Or.inr ⟨rfl, ?_⟩
    show d.startJob.outbound.posts = _ ∧ (d.startJob.registry = _ ∨ _)
    unfold startJob
    split
    · exact ⟨rfl, Or.inl rfl⟩
    · exact ⟨rfl, Or.inl rfl⟩
  | close => exact Or.inr ⟨rfl, rfl, Or.inl rfl⟩
  | script address replies => exact Or.inr ⟨rfl, rfl, Or.inl rfl⟩
  | release address n => exact Or.inr ⟨rfl, rfl, Or.inl rfl⟩
  | pass time => exact Or.inr ⟨rfl, rfl, Or.inl rfl⟩

end Dispatcher

/-- A dispatcher at a moment. -/
structure TimedDispatcher where
  clock : Clock
  dispatcher : Dispatcher

namespace TimedDispatcher

/-- A dispatcher to which nothing has happened. -/
def start (c : Clock) (workers capacity : Nat) (builder : PayloadBuilder) (maxElements : Nat) :
    TimedDispatcher :=
  ⟨c, { pool := .new workers capacity, builder, maxElements }⟩

/-- The dispatcher after one operation more. -/
def next (t : TimedDispatcher) (op : DispatcherOp) : TimedDispatcher where
  clock := match op with
    | .pass time => time.apply t.clock
    | _ => t.clock
  dispatcher := t.dispatcher.perform t.clock op

/-- The operations of a run in their order. -/
def run (t : TimedDispatcher) (ops : List DispatcherOp) : TimedDispatcher := ops.foldl next t

/-- The workers go on by steps of a run. -/
theorem exists_run_of_settles {c : Clock} {d : Dispatcher} {p' : WorkerPool PushJob} {o' : Outbound}
    (h : WorkerPool.Settles (Outbound.work c.now) d.pool d.outbound p' o') :
    ∃ ops, run ⟨c, d⟩ ops = ⟨c, { d with pool := p', outbound := o' }⟩ := by
  generalize hpool : d.pool = p at h
  generalize houtbound : d.outbound = o at h
  induction h generalizing d with
  | rest => exact ⟨[], by rw [← hpool, ← houtbound]; rfl⟩
  | @turn p q p' o o' job htake _ ih =>
    subst hpool houtbound
    have hturn (d' : Dispatcher) (seat : Nat) (hbuilder : d'.builder = d.builder)
        (hlimit : d'.maxElements = d.maxElements) (houtbound : d'.outbound = d.outbound)
        (hseat : d'.pool.goOn? seat = some (job, q)) :
        ∃ ops, run ⟨c, d'⟩ ops = ⟨c, { d with pool := p', outbound := o' }⟩ := by
      obtain ⟨later, hlater⟩ := ih (d := d'.goOn c.now seat) (by rw [Dispatcher.goOn, hseat, houtbound])
        (by rw [Dispatcher.goOn, hseat, houtbound])
      refine ⟨.turn seat :: later, hlater.trans ?_⟩
      rw [Dispatcher.goOn, hseat, ← hbuilder, ← hlimit]
    rcases WorkerPool.take?_some htake with ⟨waiting, hwaiting, hfree, rfl⟩ |
      ⟨before, after, hrunning, rfl⟩
    · let seats := d.pool.running ++ [(⟨job, true⟩ : Seat PushJob)]
      have hstart : d.startJob = { d with pool := d.pool.withJobs waiting seats } := by
        rw [Dispatcher.startJob, WorkerPool.start?_eq_some_iff.2 ⟨waiting, hwaiting, hfree, rfl⟩]
      have hseat : (d.pool.withJobs waiting seats).goOn? d.pool.running.length =
          some (job, d.pool.withJobs waiting seats) := by
        rw [WorkerPool.goOn?_length (p := d.pool.withJobs waiting seats) rfl, List.append_nil]
        rfl
      obtain ⟨later, hlater⟩ :=
        hturn { d with pool := d.pool.withJobs waiting seats } _ rfl rfl rfl hseat
      refine ⟨.start :: later, ?_⟩
      show run ⟨c, d.startJob⟩ later = _
      rw [hstart]
      exact hlater
    · exact hturn d _ rfl rfl rfl (WorkerPool.goOn?_length hrunning)

/-- Letting the workers go on until nothing can move is a part of a run. -/
theorem exists_run_settle (c : Clock) (d : Dispatcher) :
    ∃ ops es, d.settle c.now = (run ⟨c, d⟩ ops).dispatcher.report es := by
  obtain ⟨ops, hops⟩ :=
    exists_run_of_settles (WorkerPool.settle_settles (Outbound.work c.now) d.pool d.outbound)
  exact ⟨ops, _, by rw [hops]; rfl⟩

/-- The turns of a run in their order. -/
def turns (t : TimedDispatcher) : List DispatcherOp → List Turn
  | [] => []
  | op :: rest => (t.dispatcher.turn? t.clock op).toList ++ (t.next op).turns rest

/-- Every post, in the order of the calls. -/
def posts (t : TimedDispatcher) : List Post := t.dispatcher.outbound.posts

/-- Whether there is a subscription with an identifier now. -/
def contains (t : TimedDispatcher) (id : String) : Bool :=
  t.dispatcher.registry.contains t.clock.now id

theorem turns_append (t : TimedDispatcher) (ops later : List DispatcherOp) :
    t.turns (ops ++ later) = t.turns ops ++ (t.run ops).turns later := by
  induction ops generalizing t with
  | nil => rfl
  | cons op rest ih =>
    rw [List.cons_append, turns, turns, ih, List.append_assoc]
    rfl

/-- The posts of a run are those of its turns. -/
theorem posts_run (t : TimedDispatcher) (ops : List DispatcherOp) :
    (t.run ops).posts = t.posts ++ (t.turns ops).flatMap Turn.posts := by
  induction ops generalizing t with
  | nil => exact (List.append_nil _).symm
  | cons op rest ih =>
    have hnext : (t.next op).posts =
        t.posts ++ (t.dispatcher.turn? t.clock op).toList.flatMap Turn.posts := by
      rcases t.dispatcher.perform_cases t.clock op with ⟨turn, hturn, -, -, -, hposts⟩ |
        ⟨hturn, hposts, -⟩
      · rw [hturn, Option.toList_some, List.flatMap_singleton]
        exact hposts
      · rw [hturn, Option.toList_none, List.flatMap_nil, List.append_nil]
        exact hposts
    rw [turns, List.flatMap_append, ← List.append_assoc, ← hnext]
    exact ih (t.next op)

end TimedDispatcher

end TransitHub
