/-
# Heartbeats one after another

A scan submits the heartbeats that are due one after another. `Sends` says which heartbeats were
submitted to a dispatcher, what became of each, and which dispatcher they left. What they left is
the dispatcher that there was, but for one more job at the end of the queue for each heartbeat that
was queued, and for the reports about the others.
-/

import Mathlib.Data.List.Forall2
import TransitHub.Proofs.Push.Delivery
import TransitHub.Push.HeartbeatSchedule

namespace TransitHub

/-- Whether a job posts the heartbeat to a subscription and nothing else. -/
def PushJob.IsHeartbeat (builder : PayloadBuilder) (wall : Timestamp) (s : Subscription)
    (job : PushJob) : Prop :=
  ∃ p, builder wall s .heartbeat = .payload p ∧ job = ⟨s, [p], 1⟩

namespace Dispatcher

variable {wall : Timestamp} {d d' : Dispatcher} {attempts : List (Subscription × Submission)}

/-- Heartbeats that are submitted to a dispatcher one after another, with what becomes of each, and
the dispatcher that they leave. A builder that crashes ends this. -/
inductive Sends (wall : Timestamp) :
    Dispatcher → List (Subscription × Submission) → Dispatcher → Prop
  | nothing (d : Dispatcher) : Sends wall d [] d
  | crash {d d' : Dispatcher} {s : Subscription} (hs : d.sendHeartbeat wall s = (.crashed, d')) :
    Sends wall d [(s, .crashed)] d'
  | send {d d' d'' : Dispatcher} {s : Subscription} {submission : Submission}
    {rest : List (Subscription × Submission)} (hs : d.sendHeartbeat wall s = (submission, d'))
    (hgoes : submission ≠ .crashed) (hrest : Sends wall d' rest d'') :
    Sends wall d ((s, submission) :: rest) d''

/-- The subscriptions whose heartbeats were queued. -/
def queuedOf (attempts : List (Subscription × Submission)) : List Subscription :=
  (attempts.filter fun attempt => attempt.2 = .queued).map Prod.fst

/-- A heartbeat that is queued is one more job at the end of the queue; otherwise there is none. -/
theorem sendHeartbeat_pool (d : Dispatcher) (wall : Timestamp) (s : Subscription) :
    ∃ jobs, (d.sendHeartbeat wall s).2.pool =
        d.pool.withJobs (d.pool.waiting ++ jobs) d.pool.running ∧
      List.Forall₂ (PushJob.IsHeartbeat d.builder wall)
        (queuedOf [(s, (d.sendHeartbeat wall s).1)]) jobs := by
  have hnone : d.pool = d.pool.withJobs (d.pool.waiting ++ []) d.pool.running := by
    rw [List.append_nil]
    rfl
  unfold sendHeartbeat submit assemble
  rw [if_neg (by simp)]
  cases hbuilt : d.builder wall s .heartbeat with
  | failed reason => exact ⟨[], hnone, .nil⟩
  | crashed => exact ⟨[], hnone, .nil⟩
  | payload p =>
    dsimp only [assemble]
    unfold enqueue
    rcases d.pool.submit_cases ⟨s, [p], [p].length⟩ with
      ⟨-, hsubmit⟩ | ⟨-, -, hsubmit⟩ | ⟨-, -, hsubmit⟩
    · rw [hsubmit]
      exact ⟨[], hnone, .nil⟩
    · rw [hsubmit]
      exact ⟨[⟨s, [p], 1⟩], rfl, .cons ⟨p, hbuilt, rfl⟩ .nil⟩
    · rw [hsubmit]
      exact ⟨[], hnone, .nil⟩

theorem queued_sendHeartbeat {s : Subscription} {submission : Submission}
    (hs : d.sendHeartbeat wall s = (submission, d')) : ∃ jobs, Queued d jobs d' := by
  obtain ⟨jobs, hqueued⟩ := d.queued_submit wall s [.heartbeat]
  rw [show d.submit wall s [.heartbeat] = (submission, d') from hs] at hqueued
  exact ⟨jobs, hqueued⟩

theorem Sends.queued (h : Sends wall d attempts d') : ∃ jobs, Queued d jobs d' := by
  induction h with
  | nothing d => exact ⟨[], .refl d⟩
  | crash hs => exact queued_sendHeartbeat hs
  | send hs _ _ ih =>
    obtain ⟨_, hfirst⟩ := queued_sendHeartbeat hs
    obtain ⟨_, hrest⟩ := ih
    exact ⟨_, hfirst.trans hrest⟩

/-- The heartbeats that were queued are the jobs that were added to the queue. -/
theorem Sends.pool (h : Sends wall d attempts d') :
    ∃ jobs, d'.pool = d.pool.withJobs (d.pool.waiting ++ jobs) d.pool.running ∧
      List.Forall₂ (PushJob.IsHeartbeat d.builder wall) (queuedOf attempts) jobs := by
  induction h with
  | nothing d =>
    refine ⟨[], ?_, .nil⟩
    rw [List.append_nil]
    rfl
  | @crash d _ s hs =>
    have hone := d.sendHeartbeat_pool wall s
    rwa [hs] at hone
  | @send d d₁ d₂ s submission rest hs hgoes hrest ih =>
    obtain ⟨_, hqueued⟩ := queued_sendHeartbeat hs
    obtain ⟨first, hfirst, hjob⟩ := d.sendHeartbeat_pool wall s
    obtain ⟨later, hlater, hjobs⟩ := ih
    rw [hs] at hfirst hjob
    rw [hqueued.builder] at hjobs
    refine ⟨first ++ later, ?_, ?_⟩
    · rw [hlater, hfirst, ← List.append_assoc]
      rfl
    · have hsplit : queuedOf ((s, submission) :: rest) =
          queuedOf [(s, submission)] ++ queuedOf rest := by
        rw [queuedOf, ← List.singleton_append, List.filter_append, List.map_append]
        rfl
      rw [hsplit]
      exact List.rel_append hjob hjobs

end Dispatcher

namespace HeartbeatSchedule

/-- What becomes of heartbeats that are submitted one after another, up to one at which the builder
crashes. -/
def attempts (wall : Timestamp) : List Subscription → Dispatcher → List (Subscription × Submission)
  | [], _ => []
  | s :: rest, d =>
    (s, (d.sendHeartbeat wall s).1) ::
      if (d.sendHeartbeat wall s).1 = .crashed then []
      else attempts wall rest (d.sendHeartbeat wall s).2

/-- The attempts lead to the dispatcher that is left, and the answer is the number of those that
were queued, unless the builder crashed. -/
theorem sendEach_sends (wall : Timestamp) (count : Nat) (found : List Subscription)
    (d : Dispatcher) :
    d.Sends wall (attempts wall found d) (sendEach wall count found d).2 ∧
      (sendEach wall count found d).1 =
        if .crashed ∈ (attempts wall found d).map Prod.snd then none
        else some (count + (Dispatcher.queuedOf (attempts wall found d)).length) := by
  induction found generalizing count d with
  | nil => exact ⟨.nothing d, rfl⟩
  | cons s rest ih =>
    rw [sendEach, attempts]
    cases hs : d.sendHeartbeat wall s with
    | mk submission d' =>
      cases submission with
      | crashed => exact ⟨.crash hs, by simp⟩
      | queued =>
        obtain ⟨hsends, hanswer⟩ := ih (count + 1) d'
        refine ⟨.send hs (by simp) hsends, hanswer.trans (if_congr (by simp) rfl ?_)⟩
        simp [Dispatcher.queuedOf, Nat.add_assoc, Nat.add_comm 1]
      | refused =>
        obtain ⟨hsends, hanswer⟩ := ih count d'
        refine ⟨.send hs (by simp) hsends, hanswer.trans (if_congr (by simp) rfl ?_)⟩
        simp [Dispatcher.queuedOf]

/-- Where the builder does not crash, everything that was found is attempted. -/
theorem length_attempts {wall : Timestamp} {found : List Subscription} {d : Dispatcher}
    (hgoes : .crashed ∉ (attempts wall found d).map Prod.snd) :
    (attempts wall found d).length = found.length := by
  induction found generalizing d with
  | nil => rfl
  | cons s rest ih =>
    rw [attempts, List.map_cons, List.mem_cons, not_or] at hgoes
    obtain ⟨hgoes, hrest⟩ := hgoes
    rw [if_neg (Ne.symm hgoes)] at hrest
    rw [attempts, if_neg (Ne.symm hgoes)]
    exact congrArg (· + 1) (ih hrest)

/-- The attempts are made in the order of what was found. -/
theorem attempts_found (wall : Timestamp) (found : List Subscription) (d : Dispatcher) :
    (attempts wall found d).map Prod.fst ++ found.drop (attempts wall found d).length = found := by
  induction found generalizing d with
  | nil => rfl
  | cons s rest ih =>
    rw [attempts]
    split
    · rfl
    · simpa using ih _

end HeartbeatSchedule

end TransitHub
