/-
# Reports have no effect

What is reported goes into the journal and is never read again by the dispatcher: two dispatchers
that are equal but for their journals answer alike, post alike and stay equal but for their
journals, whatever they are made to report. So where two operations differ in their reports only,
nothing that happens afterwards tells them apart.

The workers are covered by one fact about pools: where a job goes the same way in related
surroundings and leaves them related, so do all jobs of a pool.
-/

import TransitHub.Push.Dispatcher
import TransitHub.Proofs.Push.Job

namespace TransitHub

namespace WorkerPool

variable {J S : Type} {work : J → S → Progress J × S} {R : S → S → Prop}

/-- Where single jobs go the same way in related surroundings, a run of the pool does. -/
theorem run_related
    (hwork : ∀ job s s', R s s' → (work job s').1 = (work job s).1 ∧ R (work job s).2 (work job s').2)
    (fuel : Nat) (p : WorkerPool J) {s s' : S} (h : R s s') :
    (run work fuel p s').1 = (run work fuel p s).1 ∧
      R (run work fuel p s).2 (run work fuel p s').2 := by
  induction fuel generalizing p s s' with
  | zero => exact ⟨rfl, h⟩
  | succ fuel ih =>
    unfold run
    cases p.take? with
    | none => exact ⟨rfl, h⟩
    | some taken =>
      obtain ⟨hprogress, hleft⟩ := hwork taken.1 s s' h
      dsimp only
      rw [hprogress]
      exact ih _ hleft

end WorkerPool

namespace Outbound

variable {o o' : Outbound}

/-- Equal but for what was reported. -/
structure Alike (o o' : Outbound) : Prop where
  registry : o'.registry = o.registry
  transport : o'.transport = o.transport
  posts : o'.posts = o.posts

theorem Alike.refl (o : Outbound) : o.Alike o := ⟨rfl, rfl, rfl⟩

/-- Reports can be left out, added and exchanged. -/
theorem Alike.report (h : o.Alike o') (es es' : List LogEvent) :
    (o.report es).Alike (o'.report es') := ⟨h.registry, h.transport, h.posts⟩

theorem Alike.withRegistry (h : o.Alike o') (registry : Registry) :
    ({ o with registry } : Outbound).Alike { o' with registry } := ⟨rfl, h.transport, h.posts⟩

theorem Alike.noteFailure (h : o.Alike o') (now failedAt : Instant) (s : Subscription)
    (e : PushError) :
    (o.noteFailure now failedAt s e).2.Alike (o'.noteFailure now failedAt s e).2 := by
  unfold Outbound.noteFailure
  rw [h.registry]
  dsimp only
  cases (o.registry.noteFailure now failedAt s).1 with
  | ignored => exact h.withRegistry _
  | degraded => exact h.withRegistry _
  | cancelled => exact (h.withRegistry _).report _ _

theorem Alike.noteSuccess (h : o.Alike o') (id : String) :
    (o.noteSuccess id).Alike (o'.noteSuccess id) := by
  unfold Outbound.noteSuccess
  rw [h.registry]
  dsimp only
  split
  · exact (h.withRegistry _).report _ _
  · exact h.withRegistry _

theorem Alike.attempt (h : o.Alike o') (now : Instant) (s : Subscription) (chunk chunks : Nat)
    (p : Payload) :
    (o'.attempt now s chunk chunks p).1 = (o.attempt now s chunk chunks p).1 ∧
      (o.attempt now s chunk chunks p).2.Alike (o'.attempt now s chunk chunks p).2 := by
  have hreported := h.report [.sendAttempted s.id s.address chunk chunks]
    [.sendAttempted s.id s.address chunk chunks]
  unfold Outbound.attempt Outbound.post
  rw [hreported.transport]
  exact ⟨rfl, hreported.registry, rfl, congrArg (· ++ [_]) hreported.posts⟩

/-- A job goes the same way. -/
theorem Alike.send (now : Instant) (s : Subscription) (chunks : Nat) (ps : List Payload)
    (h : o.Alike o') :
    (Outbound.send now s chunks ps o').1 = (Outbound.send now s chunks ps o).1 ∧
      (Outbound.send now s chunks ps o).2.Alike (Outbound.send now s chunks ps o').2 := by
  induction ps generalizing o o' with
  | nil => exact ⟨rfl, h.noteSuccess s.id⟩
  | cons p rest ih =>
    obtain ⟨hreply, hleft⟩ := h.attempt now s (chunks - rest.length) chunks p
    rw [send_cons, send_cons]
    generalize o.attempt now s (chunks - rest.length) chunks p = answer at hreply hleft
    generalize o'.attempt now s (chunks - rest.length) chunks p = answer' at hreply hleft
    obtain ⟨_, o⟩ := answer
    obtain ⟨reply, o'⟩ := answer'
    dsimp only at hreply hleft
    subst hreply
    cases reply with
    | accept => exact ih hleft
    | fail e => exact ⟨rfl, (hleft.report _ _).noteFailure now now s e⟩
    | crash => exact ⟨rfl, hleft.report _ _⟩
    | hold =>
      dsimp only
      rw [hleft.transport]
      cases o.transport.takePermit? s.address with
      | some transport => exact ih ⟨hleft.registry, rfl, hleft.posts⟩
      | none => exact ⟨rfl, hleft⟩

end Outbound

namespace Dispatcher

variable {d d' : Dispatcher}

/-- Equal but for what was reported. -/
structure Alike (d d' : Dispatcher) : Prop where
  outbound : d.outbound.Alike d'.outbound
  pool : d'.pool = d.pool
  builder : d'.builder = d.builder
  maxElements : d'.maxElements = d.maxElements

theorem Alike.refl (d : Dispatcher) : d.Alike d := ⟨.refl _, rfl, rfl, rfl⟩

theorem Alike.report (h : d.Alike d') (es es' : List LogEvent) :
    (d.report es).Alike (d'.report es') :=
  ⟨h.outbound.report es es', h.pool, h.builder, h.maxElements⟩

theorem Alike.settle (h : d.Alike d') (now : Instant) : (d.settle now).Alike (d'.settle now) := by
  have hwork (job : PushJob) (o o' : Outbound) (ho : o.Alike o') :
      (Outbound.work now job o').1 = (Outbound.work now job o).1 ∧
        (Outbound.work now job o).2.Alike (Outbound.work now job o').2 :=
    ho.send now job.subscription job.chunks job.payloads
  obtain ⟨hpool, houtbound⟩ := WorkerPool.run_related hwork d.pool.moves d.pool h.outbound
  unfold Dispatcher.settle WorkerPool.settle
  rw [h.pool]
  exact ⟨houtbound.report _ _, hpool, h.builder, h.maxElements⟩

theorem Alike.enqueue (h : d.Alike d') (job : PushJob) :
    (d'.enqueue job).1 = (d.enqueue job).1 ∧ (d.enqueue job).2.Alike (d'.enqueue job).2 := by
  have hplaced : ({ d with pool := (d.pool.submit job).2 } : Dispatcher).Alike
      { d' with pool := (d.pool.submit job).2 } := ⟨h.outbound, rfl, h.builder, h.maxElements⟩
  unfold Dispatcher.enqueue
  rw [h.pool]
  dsimp only
  cases (d.pool.submit job).1 with
  | queued => exact ⟨rfl, hplaced⟩
  | full => exact ⟨rfl, hplaced.report _ _⟩
  | closed => exact ⟨rfl, hplaced.report _ _⟩

theorem Alike.submit (h : d.Alike d') (wall : Timestamp) (s : Subscription)
    (contents : List Content) :
    (d'.submit wall s contents).1 = (d.submit wall s contents).1 ∧
      (d.submit wall s contents).2.Alike (d'.submit wall s contents).2 := by
  unfold Dispatcher.submit
  rw [h.builder]
  split
  · exact ⟨rfl, h⟩
  · cases assemble (d.builder wall s) contents with
    | payloads ps => exact h.enqueue _
    | failed label reason => exact ⟨rfl, h.report _ _⟩
    | crashed => exact ⟨rfl, h⟩

theorem Alike.deliver (h : d.Alike d') (wall : Timestamp) (kind : DataKind) (s : Subscription)
    (items : List (Except String Json)) :
    (d'.deliver wall kind s items).1 = (d.deliver wall kind s items).1 ∧
      (d.deliver wall kind s items).2.Alike (d'.deliver wall kind s items).2 := by
  have hlimit : d'.limit s = d.limit s := by rw [limit, limit, h.maxElements]
  unfold Dispatcher.deliver
  rw [hlimit]
  exact (h.report _ _).submit wall s _

theorem Alike.deliverEach {α : Type} (p : Profile α) (wall : Timestamp) (dataset : String)
    (changed : List α) (count : Nat) (subscriptions : List Subscription) (h : d.Alike d') :
    (Dispatcher.deliverEach p wall dataset changed count subscriptions d').1 =
        (Dispatcher.deliverEach p wall dataset changed count subscriptions d).1 ∧
      (Dispatcher.deliverEach p wall dataset changed count subscriptions d).2.Alike
        (Dispatcher.deliverEach p wall dataset changed count subscriptions d').2 := by
  induction subscriptions generalizing d d' count with
  | nil => exact ⟨rfl, h⟩
  | cons s rest ih =>
    unfold Dispatcher.deliverEach
    split
    · obtain ⟨hsubmission, hleft⟩ := h.deliver wall p.kind s
        ((selected p s changed).map fun e => .ok (p.toJson e))
      dsimp only
      rw [hsubmission]
      cases (d.deliver wall p.kind s ((selected p s changed).map fun e => .ok (p.toJson e))).1 with
      | queued => exact ih (count + 1) hleft
      | refused => exact ih count hleft
      | crashed => exact ⟨rfl, hleft⟩
    · exact ih count h

theorem Alike.matching (h : d.Alike d') (c : Clock) (kind : DataKind) (dataset : String) :
    (d'.matching c kind dataset).1 = (d.matching c kind dataset).1 ∧
      (d.matching c kind dataset).2.Alike (d'.matching c kind dataset).2 := by
  unfold Dispatcher.matching
  rw [h.outbound.registry]
  exact ⟨rfl, (h.outbound.withRegistry _).report _ _, h.pool, h.builder, h.maxElements⟩

/-- A change leads to the same jobs. -/
theorem Alike.onChange {α : Type} (h : d.Alike d') (c : Clock) (p : Profile α) (dataset : String)
    (changed : List α) :
    (d'.onChange c p dataset changed).1 = (d.onChange c p dataset changed).1 ∧
      (d.onChange c p dataset changed).2.Alike (d'.onChange c p dataset changed).2 := by
  unfold Dispatcher.onChange
  split
  · exact ⟨rfl, h⟩
  · obtain ⟨hfound, hmatched⟩ := h.matching c p.kind dataset
    dsimp only
    rw [hfound]
    obtain ⟨hcount, hleft⟩ := hmatched.deliverEach p c.wall dataset changed 0
      (d.matching c p.kind dataset).1
    generalize Dispatcher.deliverEach p c.wall dataset changed 0 _ (d.matching c p.kind dataset).2
      = answer at hcount hleft
    generalize Dispatcher.deliverEach p c.wall dataset changed 0 _ (d'.matching c p.kind dataset).2
      = answer' at hcount hleft
    obtain ⟨_, d⟩ := answer
    obtain ⟨count, d'⟩ := answer'
    dsimp only at hcount hleft
    subst hcount
    cases count with
    | some n => exact ⟨rfl, hleft.report _ _⟩
    | none => exact ⟨rfl, hleft⟩

end Dispatcher

end TransitHub
