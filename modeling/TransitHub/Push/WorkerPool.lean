/-
# Worker pools

A bounded queue of jobs and a fixed number of workers. Submitting never waits: a job is refused when
the pool is closed or when as many jobs as the queue holds are waiting. Workers take jobs in the
order of submission. A job that a worker has taken ends, crashes, or is held until it may go on; a
crash ends the job and nothing else. After the pool is closed the workers finish what is waiting and
stop.

`submit`, `start?`, `resume?`, `conclude` and `close` are the single transitions. `settle` repeats
them until nothing can move: as long as a worker is free and a job waits, the next job is started;
only then a job that may go on is resumed.
-/

namespace TransitHub

/-- A job that a worker has taken and not finished. -/
structure Seat (J : Type) where
  job : J
  /-- Whether it is not held, or not any more. -/
  ready : Bool

/-- A pool of workers and the queue in front of them. -/
structure WorkerPool (J : Type) where
  workers : Nat
  capacity : Nat
  /-- Jobs that no worker has taken yet, in the order of submission. -/
  waiting : List J := []
  /-- Jobs that workers have taken, in the order in which they were taken or last held. -/
  running : List (Seat J) := []
  closed : Bool := false
  workers_pos : 0 < workers
  capacity_pos : 0 < capacity

/-- What became of a submitted job. -/
inductive Admission
  | queued
  | full
  | closed
deriving DecidableEq

/-- How far a worker came with a job. -/
inductive Progress (J : Type)
  | finished
  | crashed
  /-- The job is held; what remains of it. -/
  | held (rest : J)

namespace WorkerPool

variable {J S : Type}

/-- A pool without jobs. There is at least one worker and room for one job. -/
def new (workers capacity : Nat) : WorkerPool J where
  workers := max workers 1
  capacity := max capacity 1
  workers_pos := by omega
  capacity_pos := by omega

def submit (p : WorkerPool J) (job : J) : Admission × WorkerPool J :=
  if p.closed then (.closed, p)
  else if p.waiting.length < p.capacity then (.queued, { p with waiting := p.waiting ++ [job] })
  else (.full, p)

/-- Accept no more jobs. -/
def close (p : WorkerPool J) : WorkerPool J := { p with closed := true }

/-- A free worker takes the job that waits longest. -/
def start? (p : WorkerPool J) : Option (J × WorkerPool J) :=
  match p.waiting with
  | [] => none
  | job :: waiting =>
    if p.running.length < p.workers then
      some (job, { p with waiting, running := p.running ++ [⟨job, true⟩] })
    else none

/-- The first job that may go on, and the other ones that workers have taken. -/
def firstReady? : List (Seat J) → Option (J × List (Seat J))
  | [] => none
  | seat :: seats =>
    if seat.ready then some (seat.job, seats)
    else (firstReady? seats).map fun (job, rest) => (job, seat :: rest)

/-- A worker goes on with a job; it counts as taken last. -/
def resume? (p : WorkerPool J) : Option (J × WorkerPool J) :=
  (firstReady? p.running).map fun (job, rest) =>
    (job, { p with running := rest ++ [⟨job, true⟩] })

/-- The job that was taken last ends or is held. -/
def conclude (p : WorkerPool J) (progress : Progress J) : WorkerPool J :=
  match progress with
  | .held rest => { p with running := p.running.dropLast ++ [⟨rest, false⟩] }
  | .finished => { p with running := p.running.dropLast }
  | .crashed => { p with running := p.running.dropLast }

/-- Let the first `n` held jobs that pass a test go on; the answer is how many there were not. -/
def grantSeats (p : J → Bool) : Nat → List (Seat J) → Nat × List (Seat J)
  | n, [] => (n, [])
  | 0, seats => (0, seats)
  | n + 1, seat :: seats =>
    if !seat.ready && p seat.job then
      let (left, rest) := grantSeats p n seats
      (left, { seat with ready := true } :: rest)
    else
      let (left, rest) := grantSeats p (n + 1) seats
      (left, seat :: rest)

/-- Let the first `n` held jobs that pass a test go on; the answer is how many there were not. -/
def grant (p : WorkerPool J) (test : J → Bool) (n : Nat) : Nat × WorkerPool J :=
  let (left, running) := grantSeats test n p.running
  (left, { p with running })

/-- What a worker does next, if anything can be done. -/
def take? (p : WorkerPool J) : Option (J × WorkerPool J) :=
  match p.start? with
  | some taken => some taken
  | none => p.resume?

/-- How many steps can be taken at most before nothing moves. -/
def moves (p : WorkerPool J) : Nat := p.waiting.length + p.running.countP Seat.ready

/-- Take up to `fuel` steps. `work` says how far a worker comes with a job, and what that does to
the surroundings. -/
def run (work : J → S → Progress J × S) : (fuel : Nat) → WorkerPool J → S → WorkerPool J × S
  | 0, p, s => (p, s)
  | fuel + 1, p, s =>
    match p.take? with
    | none => (p, s)
    | some (job, p) =>
      let (progress, s) := work job s
      run work fuel (p.conclude progress) s

/-- Let the workers go on until nothing can move. -/
def settle (work : J → S → Progress J × S) (p : WorkerPool J) (s : S) : WorkerPool J × S :=
  run work p.moves p s

def stopped (p : WorkerPool J) : Nat :=
  if p.closed && p.waiting.isEmpty then p.workers - p.running.length else 0

/-- Whether every accepted job has ended. -/
def isIdle (p : WorkerPool J) : Bool := p.waiting.isEmpty && p.running.isEmpty

end WorkerPool

end TransitHub
