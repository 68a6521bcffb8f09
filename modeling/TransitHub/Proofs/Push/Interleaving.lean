/-
# The orders in which a pool can work

A pool is used from several sides at once: jobs are submitted, workers take them, jobs end or crash,
and the pool is closed, in any order. A `PoolStep` is one such step. It is made of the transitions of
the pool, with one difference: as workers go on side by side, any job that a worker has taken may
come next, and not only the one that was taken last. A `PoolRun` is a sequence of steps, so it is one
interleaving of all the sides.

A step shows as an event in which jobs have names. What is proved of a run is about its events
alone: which jobs were submitted, accepted and started, and which have ended. Whether a job ever
ends is up to the job, so nothing is said about how long anything takes; what is said is that only
the jobs themselves can keep others waiting.
-/

import Mathlib.Data.List.Perm.Subperm
import TransitHub.Proofs.Push.Turns
import TransitHub.Push.Dispatcher

namespace TransitHub

open scoped List

/-- What can be seen of a pool. -/
inductive PoolEvent (ι : Type)
  | submitted (job : ι) (admission : Admission)
  | started (job : ι)
  | ended (job : ι) (crashed : Bool)
  /-- A job waits for something, and its worker with it. -/
  | held (job : ι)
  /-- Jobs that were held may go on. -/
  | granted
  | closed
  /-- Every worker has stopped, so that closing is over. -/
  | returned
deriving DecidableEq

namespace PoolEvent

variable {ι : Type}

/-- The jobs that were submitted, in the order of submission. -/
def submissions (events : List (PoolEvent ι)) : List ι :=
  events.filterMap fun
    | .submitted job _ => some job
    | _ => none

/-- The jobs that were accepted, in the order of submission. -/
def acceptances (events : List (PoolEvent ι)) : List ι :=
  events.filterMap fun
    | .submitted job .queued => some job
    | _ => none

/-- The jobs that workers took, in the order in which they took them. -/
def starts (events : List (PoolEvent ι)) : List ι :=
  events.filterMap fun
    | .started job => some job
    | _ => none

/-- The jobs that ended in one way or the other. -/
def ends (events : List (PoolEvent ι)) : List ι :=
  events.filterMap fun
    | .ended job _ => some job
    | _ => none

variable (events later : List (PoolEvent ι))

@[simp]
theorem acceptances_append : acceptances (events ++ later) = acceptances events ++ acceptances later :=
  List.filterMap_append

@[simp]
theorem starts_append : starts (events ++ later) = starts events ++ starts later :=
  List.filterMap_append

@[simp]
theorem ends_append : ends (events ++ later) = ends events ++ ends later :=
  List.filterMap_append

theorem acceptances_sublist : acceptances events <+ submissions events := by
  induction events with
  | nil => exact .slnil
  | cons event events ih =>
    cases event with
    | submitted job admission =>
      cases admission with
      | queued => exact ih.cons_cons job
      | full => exact ih.cons job
      | closed => exact ih.cons job
    | started | ended | held | granted | closed | returned => exact ih

variable {events}

/-- A job that was refused is not among the accepted ones, if every job is submitted once. -/
theorem not_mem_acceptances {job : ι} {admission : Admission}
    (hnodup : (submissions events).Nodup) (hmem : .submitted job admission ∈ events)
    (hrefused : admission ≠ .queued) : job ∉ acceptances events := by
  obtain ⟨before, after, rfl⟩ := List.append_of_mem hmem
  have hsubmissions : submissions (before ++ .submitted job admission :: after) =
      submissions before ++ job :: submissions after := List.filterMap_append
  have hacceptances : acceptances (before ++ .submitted job admission :: after) =
      acceptances before ++ acceptances after := by
    cases admission with
    | queued => exact absurd rfl hrefused
    | full => exact acceptances_append _ _
    | closed => exact acceptances_append _ _
  have hother : job ∉ submissions before ++ submissions after := by
    rw [hsubmissions] at hnodup
    exact (List.nodup_cons.1 (List.perm_middle.nodup hnodup)).1
  rw [hacceptances]
  intro hjob
  apply hother
  rcases List.mem_append.1 hjob with hbefore | hafter
  · exact List.mem_append_left _ ((acceptances_sublist before).subset hbefore)
  · exact List.mem_append_right _ ((acceptances_sublist after).subset hafter)

end PoolEvent

namespace WorkerPool

variable {J : Type} {p q : WorkerPool J} {job : J}

/-- A worker goes on with a job that it has taken; the job counts as taken last. -/
def GoesOn (p : WorkerPool J) (job : J) (q : WorkerPool J) : Prop :=
  ∃ before ready after, p.running = before ++ ⟨job, ready⟩ :: after ∧
    q = p.withJobs p.waiting (before ++ after ++ [⟨job, true⟩])

/-- After a turn the other jobs are where they were, and what is left of the job follows them. -/
theorem GoesOn.conclude (h : p.GoesOn job q) (progress : Progress J) :
    ∃ before ready after, p.running = before ++ ⟨job, ready⟩ :: after ∧
      q.conclude progress = p.withJobs p.waiting (before ++ after ++ heldSeats progress.remains) := by
  obtain ⟨before, ready, after, hrunning, rfl⟩ := h
  exact ⟨before, ready, after, hrunning, conclude_withJobs p _ _ _ progress⟩

theorem exists_goesOn {seat : Seat J} (hseat : seat ∈ p.running) :
    ∃ q, p.GoesOn seat.job q := by
  obtain ⟨before, after, hrunning⟩ := List.append_of_mem hseat
  exact ⟨_, before, seat.ready, after, hrunning, rfl⟩

/-- Letting jobs go on changes neither which jobs workers have taken nor their order. -/
theorem map_job_grantSeats (test : J → Bool) (n : Nat) (seats : List (Seat J)) :
    (grantSeats test n seats).2.map Seat.job = seats.map Seat.job := by
  induction seats generalizing n with
  | nil => simp [grantSeats]
  | cons seat seats ih =>
    cases n with
    | zero => rfl
    | succ n =>
      unfold grantSeats
      split
      · exact congrArg (seat.job :: ·) (ih n)
      · exact congrArg (seat.job :: ·) (ih (n + 1))

/-- A pool has stopped when it is closed and neither holds a job nor waits for one to be taken. -/
theorem stopped_eq_workers_iff :
    p.stopped = p.workers ↔ p.closed = true ∧ p.waiting = [] ∧ p.running = [] := by
  have hworkers := p.workers_pos
  unfold stopped
  split
  next hdone =>
    obtain ⟨hclosed, hempty⟩ := Bool.and_eq_true_iff.1 hdone
    rw [← List.length_eq_zero_iff (l := p.running), ← List.isEmpty_iff (l := p.waiting)]
    constructor
    · intro hall
      exact ⟨hclosed, hempty, by omega⟩
    · intro hnone
      rw [hnone.2.2, Nat.sub_zero]
  next hbusy =>
    constructor
    · intro hall
      exact absurd hall (Nat.ne_of_lt hworkers)
    · intro hnone
      exact absurd (Bool.and_eq_true_iff.2 ⟨hnone.1, List.isEmpty_iff.2 hnone.2.1⟩) hbusy

end WorkerPool

open WorkerPool

variable {J ι S : Type} {name : J → ι} {p q r : WorkerPool J} {event : PoolEvent ι}
  {events past : List (PoolEvent ι)} {workers capacity : Nat}

/-- One step of one of the sides that use a pool. It is closed once. -/
inductive PoolStep (name : J → ι) : WorkerPool J → PoolEvent ι → WorkerPool J → Prop
  | submit (p : WorkerPool J) (job : J) :
      PoolStep name p (.submitted (name job) (p.submit job).1) (p.submit job).2
  | start {p q : WorkerPool J} {job : J} (hstart : p.start? = some (job, q)) :
      PoolStep name p (.started (name job)) q
  | finish {p q : WorkerPool J} {job : J} (hon : p.GoesOn job q) :
      PoolStep name p (.ended (name job) false) (q.conclude .finished)
  | crash {p q : WorkerPool J} {job : J} (hon : p.GoesOn job q) :
      PoolStep name p (.ended (name job) true) (q.conclude .crashed)
  | hold {p q : WorkerPool J} {job rest : J} (hon : p.GoesOn job q) (hname : name rest = name job) :
      PoolStep name p (.held (name job)) (q.conclude (.held rest))
  | grant (p : WorkerPool J) (test : J → Bool) (n : Nat) :
      PoolStep name p .granted (p.grant test n).2
  | close {p : WorkerPool J} (hopen : p.closed = false) : PoolStep name p .closed p.close
  | stop {p : WorkerPool J} (hstopped : p.stopped = p.workers) : PoolStep name p .returned p

/-- An interleaving of steps. -/
inductive PoolRun (name : J → ι) : WorkerPool J → List (PoolEvent ι) → WorkerPool J → Prop
  | nil (p : WorkerPool J) : PoolRun name p [] p
  | cons {p q r : WorkerPool J} {event : PoolEvent ι} {events : List (PoolEvent ι)}
      (hstep : PoolStep name p event q) (hrun : PoolRun name q events r) :
      PoolRun name p (event :: events) r

namespace PoolRun

theorem append {later : List (PoolEvent ι)} (hrun : PoolRun name p events q)
    (hlater : PoolRun name q later r) : PoolRun name p (events ++ later) r := by
  induction hrun with
  | nil => exact hlater
  | cons hstep _ ih => exact .cons hstep (ih hlater)

/-- A run can be cut at any place. -/
theorem split {later : List (PoolEvent ι)} (hrun : PoolRun name p (events ++ later) r) :
    ∃ q, PoolRun name p events q ∧ PoolRun name q later r := by
  induction events generalizing p with
  | nil => exact ⟨p, .nil p, hrun⟩
  | cons event events ih =>
    cases hrun with
    | cons hstep hrest =>
      obtain ⟨q, hfirst, hlater⟩ := ih hrest
      exact ⟨q, .cons hstep hfirst, hlater⟩

/-- Where an event stands in a run, there was a step with that event. -/
theorem split_at {later : List (PoolEvent ι)} (hrun : PoolRun name p (events ++ event :: later) r) :
    ∃ q q', PoolRun name p events q ∧ PoolStep name q event q' ∧ PoolRun name q' later r := by
  obtain ⟨q, hfirst, hrest⟩ := hrun.split
  cases hrest with
  | cons hstep hlater => exact ⟨q, _, hfirst, hstep, hlater⟩

end PoolRun

/-! ## Accounting for every job -/

/-- The names of the jobs that workers have taken. -/
def WorkerPool.taken (name : J → ι) (p : WorkerPool J) : List ι := (p.running.map Seat.job).map name

/-- How a pool is related to the events that led to it: accepted jobs have been started or wait, in
the order of acceptance, and started jobs have ended or are with a worker. -/
structure Accounted (name : J → ι) (workers capacity : Nat) (past : List (PoolEvent ι))
    (p : WorkerPool J) : Prop where
  workers_eq : p.workers = workers
  capacity_eq : p.capacity = capacity
  waiting : PoolEvent.acceptances past = PoolEvent.starts past ++ p.waiting.map name
  taken_perm : PoolEvent.starts past ~ PoolEvent.ends past ++ p.taken name
  busy : p.running.length ≤ workers
  closed_iff : p.closed = true ↔ .closed ∈ past

/-- A new pool owes nothing. -/
theorem accounted_new (name : J → ι) (workers capacity : Nat) :
    Accounted name (max workers 1) (max capacity 1) [] (new workers capacity) where
  workers_eq := rfl
  capacity_eq := rfl
  waiting := rfl
  taken_perm := .refl _
  busy := Nat.zero_le _
  closed_iff := by simp [new]

namespace Accounted

variable (h : Accounted name workers capacity past p)

include h

/-- How many jobs wait is known from the events. -/
theorem length_waiting : (PoolEvent.acceptances past).length =
    (PoolEvent.starts past).length + p.waiting.length := by
  rw [h.waiting, List.length_append, List.length_map]

/-- How many jobs are with a worker is known from the events. -/
theorem length_running : (PoolEvent.starts past).length =
    (PoolEvent.ends past).length + p.running.length := by
  rw [h.taken_perm.length_eq, List.length_append, taken, List.length_map, List.length_map]

/-- A step keeps the account if it does so by itself: what waits and what is accepted is what is
started and what waits then, and what is taken and what is started is what ends and what is taken
then. -/
theorem extend (hworkers : q.workers = p.workers) (hcapacity : q.capacity = p.capacity)
    (hwaiting : p.waiting.map name ++ PoolEvent.acceptances [event] =
      PoolEvent.starts [event] ++ q.waiting.map name)
    (htaken : PoolEvent.starts [event] ++ p.taken name ~ PoolEvent.ends [event] ++ q.taken name)
    (hbusy : q.running.length ≤ workers)
    (hclosed : q.closed = true ↔ p.closed = true ∨ event = .closed) :
    Accounted name workers capacity (past ++ [event]) q where
  workers_eq := hworkers.trans h.workers_eq
  capacity_eq := hcapacity.trans h.capacity_eq
  waiting := by
    rw [PoolEvent.acceptances_append, PoolEvent.starts_append, h.waiting, List.append_assoc,
      hwaiting, List.append_assoc]
  taken_perm := by
    rw [PoolEvent.starts_append, PoolEvent.ends_append, List.append_assoc]
    calc PoolEvent.starts past ++ PoolEvent.starts [event]
      _ ~ (PoolEvent.ends past ++ p.taken name) ++ PoolEvent.starts [event] :=
        h.taken_perm.append_right _
      _ ~ PoolEvent.ends past ++ (PoolEvent.starts [event] ++ p.taken name) := by
        rw [List.append_assoc]
        exact List.perm_append_comm.append_left _
      _ ~ PoolEvent.ends past ++ (PoolEvent.ends [event] ++ q.taken name) :=
        htaken.append_left _
  busy := hbusy
  closed_iff := by
    rw [hclosed, h.closed_iff, List.mem_append, List.mem_singleton, eq_comm (a := event)]

theorem submit (job : J) :
    Accounted name workers capacity (past ++ [.submitted (name job) (p.submit job).1])
      (p.submit job).2 := by
  rcases p.submit_cases job with ⟨-, hsubmit⟩ | ⟨-, -, hsubmit⟩ | ⟨-, -, hsubmit⟩ <;> rw [hsubmit]
  · exact h.extend rfl rfl (List.append_nil _) (.refl _) h.busy (by simp)
  · apply h.extend
    · rfl
    · rfl
    · rw [waiting_withJobs, List.map_append]
      rfl
    · exact .refl _
    · exact h.busy
    · simp [withJobs]
  · exact h.extend rfl rfl (List.append_nil _) (.refl _) h.busy (by simp)

theorem start (hstart : p.start? = some (job, q)) :
    Accounted name workers capacity (past ++ [.started (name job)]) q := by
  obtain ⟨waiting, hwaiting, hfree, rfl⟩ := start?_eq_some_iff.1 hstart
  rw [h.workers_eq] at hfree
  apply h.extend
  · rfl
  · rfl
  · rw [hwaiting]
    exact List.append_nil _
  · rw [taken, taken, running_withJobs, List.map_append, List.map_append]
    exact List.perm_append_comm
  · rw [running_withJobs, List.length_append]
    exact hfree
  · simp [withJobs]

/-- A turn that leaves of a job what the event says leaves of it keeps the account. -/
theorem turn (hon : p.GoesOn job q) (progress : Progress J)
    (hevent : PoolEvent.acceptances [event] = [] ∧ PoolEvent.starts [event] = [] ∧ event ≠ .closed)
    (hends : [name job] = PoolEvent.ends [event] ++ progress.remains.map name) :
    Accounted name workers capacity (past ++ [event]) (q.conclude progress) := by
  obtain ⟨before, ready, after, hrunning, hconclude⟩ := hon.conclude progress
  obtain ⟨hacceptances, hstarts, hopen⟩ := hevent
  have hremains : (heldSeats progress.remains).map Seat.job = progress.remains := by
    rw [heldSeats, List.map_map]
    exact List.map_id _
  rw [hconclude]
  apply h.extend
  · rfl
  · rfl
  · rw [hacceptances, hstarts]
    exact List.append_nil _
  · rw [hstarts, taken, taken, running_withJobs, hrunning]
    simp only [List.map_append, List.map_cons, hremains, List.nil_append]
    calc (before.map Seat.job).map name ++ name job :: (after.map Seat.job).map name
      _ ~ [name job] ++ ((before.map Seat.job).map name ++ (after.map Seat.job).map name) :=
        List.perm_middle
      _ ~ PoolEvent.ends [event] ++ (progress.remains.map name ++
          ((before.map Seat.job).map name ++ (after.map Seat.job).map name)) := by
        rw [hends, List.append_assoc]
      _ ~ PoolEvent.ends [event] ++ ((before.map Seat.job).map name ++
          (after.map Seat.job).map name ++ progress.remains.map name) :=
        List.perm_append_comm.append_left _
  · have hbusy := h.busy
    have hshort : progress.remains.length ≤ 1 := by cases progress <;> simp [Progress.remains]
    rw [hrunning] at hbusy
    simp only [running_withJobs, heldSeats, List.length_append, List.length_cons,
      List.length_map] at hbusy ⊢
    omega
  · simp [withJobs, hopen]

theorem grant (test : J → Bool) (n : Nat) :
    Accounted name workers capacity (past ++ [.granted]) (p.grant test n).2 := by
  have hjobs : (p.grant test n).2.running.map Seat.job = p.running.map Seat.job :=
    map_job_grantSeats test n p.running
  apply h.extend
  · rfl
  · rfl
  · exact List.append_nil _
  · rw [taken, taken, hjobs]
    exact .refl _
  · rw [← List.length_map (f := Seat.job), hjobs, List.length_map]
    exact h.busy
  · simp [WorkerPool.grant]

theorem close : Accounted name workers capacity (past ++ [.closed]) p.close :=
  h.extend rfl rfl (List.append_nil _) (.refl _) h.busy (by simp [WorkerPool.close])

theorem step (hstep : PoolStep name p event q) :
    Accounted name workers capacity (past ++ [event]) q := by
  cases hstep with
  | submit job => exact h.submit job
  | start hstart => exact h.start hstart
  | finish hon => exact h.turn hon .finished ⟨rfl, rfl, nofun⟩ rfl
  | crash hon => exact h.turn hon .crashed ⟨rfl, rfl, nofun⟩ rfl
  | hold hon hname => exact h.turn hon (.held _) ⟨rfl, rfl, nofun⟩ (by rw [← hname]; rfl)
  | grant test n => exact h.grant test n
  | close => exact h.close
  | stop => exact h.extend rfl rfl (List.append_nil _) (.refl _) h.busy (by simp)

theorem run (hrun : PoolRun name p events q) :
    Accounted name workers capacity (past ++ events) q := by
  induction hrun generalizing past with
  | nil p => rwa [List.append_nil]
  | @cons p q r event events hstep _ ih =>
    have hall := ih (h.step hstep)
    rwa [List.append_assoc] at hall

end Accounted

/-! ## Steps and what they ask of a pool -/

namespace PoolStep

variable {named : ι} {admission : Admission} {crashed : Bool}

/-- A job is accepted by an open pool in which there is room for it. -/
theorem queued_iff (hstep : PoolStep name p (.submitted named admission) q) :
    admission = .queued ↔ p.closed = false ∧ p.waiting.length < p.capacity := by
  cases hstep with
  | submit job =>
    rcases p.submit_cases job with ⟨hclosed, hsubmit⟩ | ⟨hopen, hroom, hsubmit⟩ |
      ⟨hopen, hfull, hsubmit⟩ <;> rw [hsubmit]
    · simp [hclosed]
    · simp [hopen, hroom]
    · simp [hfull]

/-- A pool goes on in the same way whether a job crashed or ended by itself. -/
theorem of_ended (hstep : PoolStep name p (.ended named crashed) q) (crashed' : Bool) :
    PoolStep name p (.ended named crashed') q := by
  have hends {q : WorkerPool J} {job : J} (hon : p.GoesOn job q) :
      PoolStep name p (.ended (name job) crashed') (q.conclude .finished) := by
    cases crashed' with
    | false => exact .finish hon
    | true => exact .crash hon
  cases hstep with
  | finish hon => exact hends hon
  | crash hon => exact hends hon

theorem of_returned (hstep : PoolStep name p .returned q) :
    p.closed = true ∧ p.waiting = [] ∧ p.running = [] := by
  cases hstep with
  | stop hstopped => exact stopped_eq_workers_iff.1 hstopped

/-- A closed pool accepts nothing and stays closed. -/
theorem of_closed (hstep : PoolStep name p event q) (hclosed : p.closed = true) :
    PoolEvent.acceptances [event] = [] ∧ q.closed = true := by
  cases hstep with
  | submit job =>
    have hsubmit : p.submit job = (.closed, p) := if_pos hclosed
    rw [hsubmit]
    exact ⟨rfl, hclosed⟩
  | start hstart =>
    obtain ⟨waiting, -, -, rfl⟩ := start?_eq_some_iff.1 hstart
    exact ⟨rfl, hclosed⟩
  | finish hon | crash hon =>
    obtain ⟨before, ready, after, -, rfl⟩ := hon
    exact ⟨rfl, hclosed⟩
  | hold hon =>
    obtain ⟨before, ready, after, -, rfl⟩ := hon
    exact ⟨rfl, hclosed⟩
  | grant => exact ⟨rfl, hclosed⟩
  | close => exact ⟨rfl, rfl⟩
  | stop => exact ⟨rfl, hclosed⟩

/-- The turn of a job is a step, however far the worker comes with it. -/
theorem exists_turn (hon : p.GoesOn job q) (progress : Progress J)
    (hname : ∀ rest ∈ progress.remains, name rest = name job) :
    ∃ event, PoolStep name p event (q.conclude progress) := by
  cases progress with
  | finished => exact ⟨_, .finish hon⟩
  | crashed => exact ⟨_, .crash hon⟩
  | held rest => exact ⟨_, .hold hon (hname rest List.mem_cons_self)⟩

end PoolStep

theorem PoolRun.acceptances_of_closed (hrun : PoolRun name p events q) (hclosed : p.closed = true) :
    PoolEvent.acceptances events = [] := by
  induction hrun with
  | nil => rfl
  | @cons p q r event events hstep _ ih =>
    obtain ⟨hnone, hstill⟩ := hstep.of_closed hclosed
    rw [← List.singleton_append, PoolEvent.acceptances_append, hnone, ih hstill]
    rfl

/-- Letting the workers go on until nothing can move is one of the interleavings. -/
theorem WorkerPool.Settles.exists_poolRun {work : J → S → Progress J × S} {s s' : S}
    {p p' : WorkerPool J} (h : Settles work p s p' s')
    (hname : ∀ job s, ∀ rest ∈ (work job s).1.remains, name rest = name job) :
    ∃ events, PoolRun name p events p' := by
  induction h with
  | @rest p s => exact ⟨[], .nil p⟩
  | @turn p q p' s s' job htake _ ih =>
    obtain ⟨later, hlater⟩ := ih
    rcases take?_some htake with ⟨waiting, hwaiting, hfree, rfl⟩ | ⟨before, after, hrunning, rfl⟩
    · let q := p.withJobs waiting (p.running ++ [⟨job, true⟩])
      have hstart : PoolStep name p (.started (name job)) q :=
        .start (start?_eq_some_iff.2 ⟨waiting, hwaiting, hfree, rfl⟩)
      have hon : q.GoesOn job q := ⟨p.running, true, [], rfl, by simp [q]⟩
      obtain ⟨event, hturn⟩ := PoolStep.exists_turn hon _ (hname job s)
      exact ⟨_, .cons hstart (.cons hturn hlater)⟩
    · have hon : p.GoesOn job _ := ⟨before, true, after, hrunning, rfl⟩
      obtain ⟨event, hturn⟩ := PoolStep.exists_turn hon _ (hname job s)
      exact ⟨_, .cons hturn hlater⟩

/-- The workers of a dispatcher go on in one of the interleavings, in which a job goes by the name of
its subscription. -/
theorem Dispatcher.exists_poolRun (d : Dispatcher) (now : Instant) :
    ∃ events, PoolRun (fun job : PushJob => job.subscription.id) d.pool events
      (d.settle now).pool := by
  apply (settle_settles (Outbound.work now) d.pool d.outbound).exists_poolRun
  intro job o rest hrest
  obtain ⟨posts, -, hposting⟩ := Outbound.work_posting now job o
  rw [hposting.rest_subscription rest hrest]

/-! ## What every interleaving keeps -/

namespace Accounted

variable (h : Accounted name workers capacity events p) {named : ι} {rest : List ι}

include h

/-- The next job in line can be started as soon as a worker is free. -/
theorem exists_start (hnext : PoolEvent.acceptances events = PoolEvent.starts events ++ named :: rest)
    (hfree : (PoolEvent.starts events).length < (PoolEvent.ends events).length + workers) :
    ∃ q, PoolStep name p (.started named) q := by
  have hwaiting : p.waiting.map name = named :: rest :=
    List.append_cancel_left (h.waiting.symm.trans hnext)
  obtain ⟨job, waiting, hjobs, rfl, -⟩ := List.map_eq_cons_iff.1 hwaiting
  have hroom : p.running.length < p.workers := by
    have hrunning := h.length_running
    rw [h.workers_eq]
    omega
  exact ⟨_, .start (start?_eq_some_iff.2 ⟨waiting, hjobs, hroom, rfl⟩)⟩

/-- A job that was started and has not ended is with a worker, so it can end. -/
theorem exists_end (htaken : PoolEvent.starts events ~ PoolEvent.ends events ++ named :: rest)
    (crashed : Bool) : ∃ q, PoolStep name p (.ended named crashed) q := by
  have hperm : p.taken name ~ named :: rest :=
    (List.perm_append_left_iff _).1 (h.taken_perm.symm.trans htaken)
  obtain ⟨job, hjob, rfl⟩ := List.mem_map.1 (hperm.mem_iff.2 List.mem_cons_self)
  obtain ⟨seat, hseat, rfl⟩ := List.mem_map.1 hjob
  obtain ⟨q, hon⟩ := exists_goesOn hseat
  exact ⟨_, (PoolStep.finish hon).of_ended crashed⟩

/-- When the pool is closed and every accepted job has ended, closing is over. -/
theorem returns (hclosed : .closed ∈ events)
    (hall : PoolEvent.ends events ~ PoolEvent.acceptances events) :
    PoolStep name p .returned p := by
  have hwaiting := h.length_waiting
  have hrunning := h.length_running
  have hlength := hall.length_eq
  refine .stop (stopped_eq_workers_iff.2 ⟨h.closed_iff.2 hclosed, ?_, ?_⟩)
  · exact List.length_eq_zero_iff.1 (by omega)
  · exact List.length_eq_zero_iff.1 (by omega)

end Accounted

/-- A pool neither loses nor repeats a job, in whatever order its users come. A job is accepted
exactly if the pool was not closed before and fewer accepted jobs wait than the queue holds. Jobs are
started in the order of acceptance; where each is submitted once, none is started twice and a refused
one never. Only started jobs end, and no more are under way than there are workers. A crash could as
well have been a regular end: everything else goes the same way. When closing is over, every job
that is accepted in the whole run has been started and has ended. Nothing but jobs under way can
keep the next one, or the end of closing, from coming. -/
theorem PoolRun.jobs_once {workers capacity : Nat}
    (hrun : PoolRun name (new workers capacity) events p) :
    (∀ before job admission after, events = before ++ .submitted job admission :: after →
      (admission = .queued ↔ .closed ∉ before ∧
        (PoolEvent.acceptances before).length <
          (PoolEvent.starts before).length + max capacity 1)) ∧
    PoolEvent.starts events <+: PoolEvent.acceptances events ∧
    ((PoolEvent.submissions events).Nodup →
      (PoolEvent.starts events).Nodup ∧
      ∀ job admission, .submitted job admission ∈ events → admission ≠ .queued →
        job ∉ PoolEvent.starts events) ∧
    PoolEvent.ends events <+~ PoolEvent.starts events ∧
    (PoolEvent.starts events).length ≤ (PoolEvent.ends events).length + max workers 1 ∧
    (∀ before job crashed after, events = before ++ .ended job crashed :: after →
      PoolRun name (new workers capacity) (before ++ .ended job (!crashed) :: after) p) ∧
    (∀ before after, events = before ++ .returned :: after →
      PoolEvent.starts before = PoolEvent.acceptances events ∧
      PoolEvent.ends before ~ PoolEvent.acceptances events) ∧
    (∀ job rest, PoolEvent.acceptances events = PoolEvent.starts events ++ job :: rest →
      (PoolEvent.starts events).length < (PoolEvent.ends events).length + max workers 1 →
      ∃ q, PoolStep name p (.started job) q) ∧
    (∀ job rest, PoolEvent.starts events ~ PoolEvent.ends events ++ job :: rest →
      ∃ q, PoolStep name p (.ended job false) q) ∧
    (.closed ∈ events → PoolEvent.ends events ~ PoolEvent.acceptances events →
      PoolStep name p .returned p) := by
  have hnew := accounted_new name workers capacity
  have h := hnew.run hrun
  rw [List.nil_append] at h
  have hstarts : PoolEvent.starts events <+: PoolEvent.acceptances events :=
    ⟨_, h.waiting.symm⟩
  refine ⟨?_, hstarts, ?_, ?_, ?_, ?_, ?_, fun job rest => h.exists_start,
    fun job rest htaken => h.exists_end htaken false, h.returns⟩
  · rintro before job admission after rfl
    obtain ⟨q, q', hbefore, hstep, -⟩ := hrun.split_at
    have hq := hnew.run hbefore
    rw [List.nil_append] at hq
    rw [hstep.queued_iff, ← hq.closed_iff, hq.length_waiting, hq.capacity_eq,
      Nat.add_lt_add_iff_left, Bool.not_eq_true]
  · intro hnodup
    have haccepted : (PoolEvent.acceptances events).Nodup :=
      hnodup.sublist (PoolEvent.acceptances_sublist events)
    refine ⟨haccepted.sublist hstarts.sublist, ?_⟩
    intro job admission hmem hrefused hstarted
    exact PoolEvent.not_mem_acceptances hnodup hmem hrefused (hstarts.subset hstarted)
  · exact ((List.sublist_append_left _ _).subperm).trans h.taken_perm.symm.subperm
  · rw [h.length_running]
    exact Nat.add_le_add_left h.busy _
  · rintro before job crashed after rfl
    obtain ⟨q, q', hbefore, hstep, hafter⟩ := hrun.split_at
    exact hbefore.append (.cons (hstep.of_ended _) hafter)
  · rintro before after rfl
    obtain ⟨q, q', hbefore, hstep, hafter⟩ := hrun.split_at
    have hq := hnew.run hbefore
    rw [List.nil_append] at hq
    obtain ⟨hclosed, hwaiting, hrunning⟩ := hstep.of_returned
    have hnone : PoolEvent.acceptances (.returned :: after) = [] :=
      (PoolRun.cons hstep hafter).acceptances_of_closed hclosed
    have hstarted : PoolEvent.acceptances before = PoolEvent.starts before := by
      rw [hq.waiting, hwaiting, List.map_nil, List.append_nil]
    have hended : PoolEvent.starts before ~ PoolEvent.ends before := by
      have hperm := hq.taken_perm
      rwa [taken, hrunning, List.map_nil, List.map_nil, List.append_nil] at hperm
    rw [PoolEvent.acceptances_append, hnone, List.append_nil, hstarted]
    exact ⟨rfl, hended.symm⟩

/-- A pool with one worker and room for one job: the second job is refused, the first one crashes,
and the fourth one comes after the pool is closed. -/
def crashBeforeClose (crashed : Bool) : List (PoolEvent Nat) :=
  [.submitted 1 .queued, .submitted 2 .full, .started 1, .submitted 3 .queued, .ended 1 crashed,
    .closed, .submitted 4 .closed, .started 3, .ended 3 false, .returned]

theorem exists_crashBeforeClose :
    ∃ p : WorkerPool Nat, PoolRun id (new 0 0) (crashBeforeClose true) p := by
  have hfirst {p : WorkerPool Nat} {job : Nat} (hrunning : p.running = [⟨job, true⟩]) :
      p.GoesOn job (p.withJobs p.waiting [⟨job, true⟩]) := ⟨[], true, [], hrunning, rfl⟩
  exact ⟨_, .cons (.submit _ 1) <| .cons (.submit _ 2) <| .cons (.start rfl) <|
    .cons (.submit _ 3) <| .cons (.crash (hfirst rfl)) <| .cons (.close rfl) <|
    .cons (.submit _ 4) <| .cons (.start rfl) <| .cons (.finish (hfirst rfl)) <|
    .cons (.stop rfl) <| .nil _⟩

/-- The third job is started and ends before closing is over, as it would without the crash. -/
theorem jobs_once_of_crash : ∃ p : WorkerPool Nat,
    PoolRun id (new 0 0) (crashBeforeClose true) p ∧
    2 ∉ PoolEvent.starts (crashBeforeClose true) ∧ 4 ∉ PoolEvent.starts (crashBeforeClose true) ∧
    PoolEvent.ends ((crashBeforeClose true).take 9) ~ [1, 3] ∧
    PoolRun id (new 0 0) (crashBeforeClose false) p := by
  obtain ⟨p, hrun⟩ := exists_crashBeforeClose
  obtain ⟨-, -, hunique, -, -, hcrash, hreturned, -⟩ := hrun.jobs_once
  obtain ⟨-, hrefused⟩ := hunique (by decide)
  obtain ⟨-, hended⟩ := hreturned ((crashBeforeClose true).take 9) [] rfl
  exact ⟨p, hrun, hrefused 2 .full (by decide) nofun, hrefused 4 .closed (by decide) nofun, hended,
    hcrash ((crashBeforeClose true).take 4) 1 true ((crashBeforeClose true).drop 5) rfl⟩

end TransitHub
