/-
# Letting workers go on

A pool is at rest when no worker can do anything: no job that a worker holds may go on, and a job
waits only if every worker holds one. Letting the workers go on is a sequence of turns, in each of
which a worker takes a job and comes as far with it as it can; the sequence ends at rest. `Settles`
is that sequence, so that what every turn keeps up is kept up by all of them.

If no job may go on at the start, every turn starts the job that waits longest. The workers then
work through a part of the queue, in its order, and what they leave in it waits behind jobs that are
held.
-/

import TransitHub.Push.WorkerPool

namespace TransitHub

/-- What is left of a job after a turn: the rest if it is held, and nothing otherwise. -/
def Progress.remains {J : Type} : Progress J → List J
  | .held rest => [rest]
  | .finished => []
  | .crashed => []

namespace WorkerPool

variable {J S : Type} {work : J → S → Progress J × S} {p p' q : WorkerPool J} {s s' : S} {job : J}

/-- The pool with other jobs. -/
def withJobs (p : WorkerPool J) (waiting : List J) (running : List (Seat J)) : WorkerPool J :=
  { p with waiting, running }

@[simp]
theorem waiting_withJobs (p : WorkerPool J) (waiting : List J) (running : List (Seat J)) :
    (p.withJobs waiting running).waiting = waiting := rfl

@[simp]
theorem running_withJobs (p : WorkerPool J) (waiting : List J) (running : List (Seat J)) :
    (p.withJobs waiting running).running = running := rfl

@[simp]
theorem withJobs_withJobs (p : WorkerPool J) (waiting waiting' : List J)
    (running running' : List (Seat J)) :
    (p.withJobs waiting running).withJobs waiting' running' = p.withJobs waiting' running' := rfl

/-- Nothing can move. -/
def AtRest (p : WorkerPool J) : Prop := p.take? = none

/-- No job that a worker has taken may go on. -/
def AllHeld (p : WorkerPool J) : Prop := ∀ seat ∈ p.running, seat.ready = false

/-- The workers go on until nothing can move. -/
inductive Settles (work : J → S → Progress J × S) :
    WorkerPool J → S → WorkerPool J → S → Prop
  | rest {p : WorkerPool J} {s : S} (hrest : p.AtRest) : Settles work p s p s
  | turn {p q p' : WorkerPool J} {s s' : S} {job : J} (htake : p.take? = some (job, q))
      (hon : Settles work (q.conclude (work job s).1) (work job s).2 p' s') :
      Settles work p s p' s'

/-! ## Taking a job -/

theorem start?_eq_some_iff : p.start? = some (job, q) ↔
    ∃ waiting, p.waiting = job :: waiting ∧ p.running.length < p.workers ∧
      q = p.withJobs waiting (p.running ++ [⟨job, true⟩]) := by
  unfold start?
  cases p.waiting with
  | nil => simp
  | cons first waiting =>
    simp only [Option.ite_none_right_eq_some, Option.some.injEq, Prod.mk.injEq, List.cons.injEq]
    constructor
    · intro h
      obtain ⟨hfree, rfl, rfl⟩ := h
      exact ⟨waiting, ⟨rfl, rfl⟩, hfree, rfl⟩
    · intro h
      obtain ⟨_, ⟨rfl, rfl⟩, hfree, rfl⟩ := h
      exact ⟨hfree, rfl, rfl⟩

theorem start?_eq_none_iff :
    p.start? = none ↔ p.waiting = [] ∨ p.workers ≤ p.running.length := by
  unfold start?
  cases p.waiting with
  | nil => simp
  | cons first waiting => simp

theorem firstReady?_eq_none_iff {seats : List (Seat J)} :
    firstReady? seats = none ↔ ∀ seat ∈ seats, seat.ready = false := by
  induction seats with
  | nil => simp [firstReady?]
  | cons seat rest ih =>
    unfold firstReady?
    cases hready : seat.ready <;> simp [hready, ih]

theorem firstReady?_some {seats rest : List (Seat J)} (h : firstReady? seats = some (job, rest)) :
    ∃ before after, seats = before ++ ⟨job, true⟩ :: after ∧ rest = before ++ after := by
  induction seats generalizing rest with
  | nil => exact nomatch h
  | cons seat seats ih =>
    unfold firstReady? at h
    cases hready : seat.ready with
    | true =>
      rw [hready, if_pos rfl] at h
      obtain ⟨rfl, rfl⟩ := Prod.mk.inj (Option.some.inj h)
      exact ⟨[], seats, by rw [← hready]; rfl, rfl⟩
    | false =>
      rw [hready, if_neg Bool.false_ne_true] at h
      obtain ⟨⟨job', rest'⟩, hfirst, hmap⟩ := Option.map_eq_some_iff.1 h
      obtain ⟨rfl, rfl⟩ := Prod.mk.inj hmap
      obtain ⟨before, after, rfl, rfl⟩ := ih hfirst
      exact ⟨seat :: before, after, rfl, rfl⟩

theorem resume?_eq_none_iff : p.resume? = none ↔ p.AllHeld := by
  rw [resume?, Option.map_eq_none_iff, firstReady?_eq_none_iff, AllHeld]

theorem atRest_iff :
    p.AtRest ↔ (p.waiting = [] ∨ p.workers ≤ p.running.length) ∧ p.AllHeld := by
  unfold AtRest take?
  rw [← start?_eq_none_iff, ← resume?_eq_none_iff]
  cases p.start? <;> simp

/-- The ways to take a job: it is started, or a job that may go on is taken up again. -/
theorem take?_some (h : p.take? = some (job, q)) :
    (∃ waiting, p.waiting = job :: waiting ∧ p.running.length < p.workers ∧
      q = p.withJobs waiting (p.running ++ [⟨job, true⟩])) ∨
    (∃ before after, p.running = before ++ ⟨job, true⟩ :: after ∧
      q = p.withJobs p.waiting (before ++ after ++ [⟨job, true⟩])) := by
  unfold take? at h
  cases hstart : p.start? with
  | some taken =>
    rw [hstart] at h
    obtain rfl := Option.some.inj h
    exact Or.inl (start?_eq_some_iff.1 hstart)
  | none =>
    rw [hstart] at h
    obtain ⟨⟨job', rest⟩, hfirst, hmap⟩ := Option.map_eq_some_iff.1 h
    obtain ⟨rfl, rfl⟩ := Prod.mk.inj hmap
    obtain ⟨before, after, hrunning, rfl⟩ := firstReady?_some hfirst
    exact Or.inr ⟨before, after, hrunning, rfl⟩

/-- What becomes of a submitted job. -/
theorem submit_cases (p : WorkerPool J) (job : J) :
    (p.closed = true ∧ p.submit job = (.closed, p)) ∨
    (p.closed = false ∧ p.waiting.length < p.capacity ∧
      p.submit job = (.queued, p.withJobs (p.waiting ++ [job]) p.running)) ∨
    (p.closed = false ∧ p.capacity ≤ p.waiting.length ∧ p.submit job = (.full, p)) := by
  unfold submit
  by_cases hclosed : p.closed = true
  · exact Or.inl ⟨hclosed, if_pos hclosed⟩
  · have hopen : p.closed = false := Bool.eq_false_iff.2 hclosed
    rw [if_neg hclosed]
    by_cases hroom : p.waiting.length < p.capacity
    · exact Or.inr (Or.inl ⟨hopen, hroom, if_pos hroom⟩)
    · exact Or.inr (Or.inr ⟨hopen, Nat.not_lt.1 hroom, if_neg hroom⟩)

/-! ## Concluding a turn -/

/-- The seats of jobs that are held. -/
def heldSeats (rests : List J) : List (Seat J) := rests.map fun rest => ⟨rest, false⟩

theorem ready_of_mem_heldSeats {rests : List J} {seat : Seat J} (h : seat ∈ heldSeats rests) :
    seat.ready = false ∧ seat.job ∈ rests := by
  obtain ⟨rest, hrest, rfl⟩ := List.mem_map.1 h
  exact ⟨rfl, hrest⟩

theorem conclude_withJobs (p : WorkerPool J) (waiting : List J) (seats : List (Seat J))
    (seat : Seat J) (progress : Progress J) :
    (p.withJobs waiting (seats ++ [seat])).conclude progress =
      p.withJobs waiting (seats ++ heldSeats progress.remains) := by
  cases progress <;> simp [conclude, Progress.remains, withJobs, heldSeats]

theorem countP_heldSeats (rests : List J) : (heldSeats rests).countP Seat.ready = 0 := by
  rw [List.countP_eq_zero]
  intro seat hseat
  rw [(ready_of_mem_heldSeats hseat).1]
  exact Bool.false_ne_true

/-- Every turn is one of the moves that were left. -/
theorem moves_turn (h : p.take? = some (job, q)) (progress : Progress J) :
    p.moves = (q.conclude progress).moves + 1 := by
  rcases take?_some h with ⟨waiting, hwaiting, -, rfl⟩ | ⟨before, after, hrunning, rfl⟩
  · rw [conclude_withJobs, moves, moves, waiting_withJobs, running_withJobs, hwaiting,
      List.countP_append, countP_heldSeats, List.length_cons]
    omega
  · rw [conclude_withJobs, moves, moves, waiting_withJobs, running_withJobs, hrunning,
      List.countP_append, List.countP_append, List.countP_append, countP_heldSeats,
      List.countP_cons_of_pos rfl]
    omega

theorem atRest_of_moves_eq_zero (h : p.moves = 0) : p.AtRest := by
  obtain ⟨hwaiting, hrunning⟩ := Nat.add_eq_zero_iff.1 h
  rw [atRest_iff]
  refine ⟨Or.inl (List.length_eq_zero_iff.1 hwaiting), fun seat hseat => ?_⟩
  exact Bool.eq_false_iff.2 (List.countP_eq_zero.1 hrunning seat hseat)

theorem run_settles (fuel : Nat) (p : WorkerPool J) (s : S) (hfuel : p.moves ≤ fuel) :
    Settles work p s (run work fuel p s).1 (run work fuel p s).2 := by
  induction fuel generalizing p s with
  | zero => exact .rest (atRest_of_moves_eq_zero (Nat.le_zero.1 hfuel))
  | succ fuel ih =>
    unfold run
    cases htake : p.take? with
    | none => exact .rest htake
    | some taken =>
      obtain ⟨job, q⟩ := taken
      have hmoves := moves_turn htake (work job s).1
      exact .turn htake (ih _ _ (by omega))

/-- Letting the workers go on is a sequence of turns that ends at rest. -/
theorem settle_settles (work : J → S → Progress J × S) (p : WorkerPool J) (s : S) :
    Settles work p s (p.settle work s).1 (p.settle work s).2 :=
  run_settles p.moves p s (Nat.le_refl _)

theorem Settles.atRest (h : Settles work p s p' s') : p'.AtRest := by
  induction h with
  | rest hrest => exact hrest
  | turn _ _ ih => exact ih

theorem Settles.closed_eq (h : Settles work p s p' s') : p'.closed = p.closed := by
  induction h with
  | rest => rfl
  | turn htake _ ih =>
    rw [ih]
    rcases take?_some htake with ⟨waiting, -, -, rfl⟩ | ⟨before, after, -, rfl⟩ <;>
      rw [conclude_withJobs] <;> rfl

/-- Whether a property holds of every job in the queue and of the rest of every job that was
taken. -/
structure Every (P : J → Prop) (p : WorkerPool J) : Prop where
  waiting : ∀ job ∈ p.waiting, P job
  running : ∀ seat ∈ p.running, P seat.job

theorem Every.taken {P : J → Prop} (h : p.Every P) (htake : p.take? = some (job, q))
    (progress : Progress J) (hrest : ∀ rest ∈ progress.remains, P rest) :
    P job ∧ (q.conclude progress).Every P := by
  have hremains {seats : List (Seat J)} (hseats : ∀ seat ∈ seats, P seat.job) :
      ∀ seat ∈ seats ++ heldSeats progress.remains, P seat.job := by
    intro seat hseat
    rcases List.mem_append.1 hseat with hold | hnew
    · exact hseats seat hold
    · exact hrest seat.job (ready_of_mem_heldSeats hnew).2
  rcases take?_some htake with ⟨waiting, hwaiting, -, rfl⟩ | ⟨before, after, hrunning, rfl⟩
  · have hall := h.waiting
    rw [hwaiting] at hall
    refine ⟨hall job List.mem_cons_self, ?_⟩
    rw [conclude_withJobs]
    exact ⟨fun job' hjob' => hall job' (List.mem_cons_of_mem _ hjob'), hremains h.running⟩
  · have hall := h.running
    rw [hrunning] at hall
    refine ⟨hall ⟨job, true⟩ (List.mem_append_right _ List.mem_cons_self), ?_⟩
    rw [conclude_withJobs]
    refine ⟨h.waiting, hremains fun seat hseat => hall seat ?_⟩
    rcases List.mem_append.1 hseat with hbefore | hafter
    · exact List.mem_append_left _ hbefore
    · exact List.mem_append_right _ (List.mem_cons_of_mem _ hafter)

/-- What every turn keeps up is kept up while the workers go on. -/
theorem Settles.keeps {P : J → Prop} {I : S → Prop}
    (hwork : ∀ job s, P job → I s →
      I (work job s).2 ∧ ∀ rest ∈ (work job s).1.remains, P rest)
    (h : Settles work p s p' s') (hjobs : p.Every P) (hs : I s) : p'.Every P ∧ I s' := by
  induction h with
  | rest => exact ⟨hjobs, hs⟩
  | turn htake _ ih =>
    obtain ⟨hjob, -⟩ := hjobs.taken htake .finished fun _ hnil => nomatch hnil
    obtain ⟨hon, hrest⟩ := hwork _ _ hjob hs
    exact ih (hjobs.taken htake _ hrest).2 hon

/-! ## Working through the queue -/

/-- Take jobs one after another, and collect what remains of those that are held. -/
def workThrough (work : J → S → Progress J × S) : List J → S → List J × S
  | [], s => ([], s)
  | job :: jobs, s =>
    let (progress, s) := work job s
    let (held, s) := workThrough work jobs s
    (progress.remains ++ held, s)

/-- Where no job may go on, the workers work through a part of the queue, and leave the rest of it
only if all of them hold a job. -/
theorem Settles.of_allHeld (h : Settles work p s p' s') (hheld : p.AllHeld) :
    ∃ done, p.waiting = done ++ p'.waiting ∧ s' = (workThrough work done s).2 ∧
      p' = p.withJobs p'.waiting (p.running ++ heldSeats (workThrough work done s).1) ∧
      (p'.waiting = [] ∨ p'.workers ≤ p'.running.length) := by
  induction h with
  | @rest p s hrest =>
    exact ⟨[], rfl, rfl, by simp [workThrough, heldSeats, withJobs], (atRest_iff.1 hrest).1⟩
  | @turn p q p' s s' job htake hon ih =>
    rcases take?_some htake with ⟨waiting, hwaiting, -, rfl⟩ | ⟨before, after, hrunning, rfl⟩
    · rw [conclude_withJobs] at ih
      obtain ⟨done, hdone, hs, hp, hleft⟩ := ih fun seat hseat => by
        rcases List.mem_append.1 hseat with hold | hnew
        · exact hheld seat hold
        · exact (ready_of_mem_heldSeats hnew).1
      refine ⟨job :: done, by rw [hwaiting, ← waiting_withJobs p waiting, hdone]; rfl, hs, ?_, hleft⟩
      rw [running_withJobs, withJobs_withJobs] at hp
      rw [hp, List.append_assoc]
      simp [workThrough, heldSeats]
    · exact nomatch hheld ⟨job, true⟩ (by rw [hrunning]; simp)

theorem Settles.eq_of_atRest (h : Settles work p s p' s') (hrest : p.AtRest) :
    p' = p ∧ s' = s := by
  cases h with
  | rest => exact ⟨rfl, rfl⟩
  | turn htake => exact nomatch hrest.symm.trans htake

/-- Jobs that are put into the queue of a pool at rest are worked through up to some place, and what
is left behind it waits for a worker. -/
theorem settle_of_atRest (work : J → S → Progress J × S) (hrest : p.AtRest) (jobs : List J)
    (s : S) :
    ∃ done left, jobs = done ++ left ∧
      (p.withJobs (p.waiting ++ jobs) p.running).settle work s =
        (p.withJobs (p.waiting ++ left)
            (p.running ++ heldSeats (workThrough work done s).1),
          (workThrough work done s).2) ∧
      (left = [] ∨ p.workers ≤ (p.running ++ heldSeats (workThrough work done s).1).length) ∧
      (p.waiting = [] ∨ done = []) := by
  have hsettles := settle_settles work (p.withJobs (p.waiting ++ jobs) p.running) s
  generalize (p.withJobs (p.waiting ++ jobs) p.running).settle work s = settled at hsettles ⊢
  obtain ⟨p', s'⟩ := settled
  obtain ⟨hfree, hheld⟩ := atRest_iff.1 hrest
  rcases hfree with hwaiting | hbusy
  · obtain ⟨done, hdone, hs, hp, hleft⟩ := hsettles.of_allHeld hheld
    rw [waiting_withJobs, hwaiting, List.nil_append] at hdone
    rw [running_withJobs, withJobs_withJobs] at hp
    refine ⟨done, p'.waiting, hdone, ?_, hleft.imp_right fun hbusy => ?_, Or.inl hwaiting⟩
    · rw [hwaiting, List.nil_append, ← hs, ← hp]
    · rw [hp] at hbusy
      exact hbusy
  · have hstill : (p.withJobs (p.waiting ++ jobs) p.running).AtRest :=
      atRest_iff.2 ⟨Or.inr hbusy, hheld⟩
    obtain ⟨hp, hs⟩ := hsettles.eq_of_atRest hstill
    dsimp only at hp hs
    refine ⟨[], jobs, rfl, ?_, Or.inr ?_, Or.inr rfl⟩
    · rw [hp, hs]
      simp [workThrough, heldSeats]
    · simpa [workThrough, heldSeats] using hbusy

theorem workThrough_append (work : J → S → Progress J × S) (jobs jobs' : List J) (s : S) :
    workThrough work (jobs ++ jobs') s =
      ((workThrough work jobs s).1 ++ (workThrough work jobs' (workThrough work jobs s).2).1,
        (workThrough work jobs' (workThrough work jobs s).2).2) := by
  induction jobs generalizing s with
  | nil => rfl
  | cons job rest ih =>
    have hcons (jobs : List J) : workThrough work (job :: jobs) s =
        ((work job s).1.remains ++ (workThrough work jobs (work job s).2).1,
          (workThrough work jobs (work job s).2).2) := rfl
    rw [List.cons_append, hcons, hcons, ih, List.append_assoc]

end WorkerPool

end TransitHub
