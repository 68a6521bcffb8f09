/-
# Scans for heartbeats

A scheduler scans for heartbeats at instants that it is given, and in between the dispatcher goes on
with a run of its own. What each scan did is kept as a `Scan`: which subscriptions were listed, what
became of each heartbeat that was attempted, and which dispatcher the scan found and left. The
account is accurate: submitting these heartbeats one after another, and no others, leads from the
dispatcher that was found to the one that was left.

All that the schedule knows comes from its scans. `Scan.Updates` says what one scan finds due by a
schedule and what schedule it leaves, and `Leads` that a schedule comes from another one by scans;
the scans of a run lead from a schedule that knows nothing to the last one.
-/

import TransitHub.Proofs.Push.Run
import TransitHub.Proofs.Push.Submissions
import TransitHub.Proofs.Registry.Directory

namespace TransitHub

/-- What one scan for heartbeats did. -/
structure Scan where
  madeAt : Instant
  wall : Timestamp
  before : Dispatcher
  after : Dispatcher
  /-- The number of heartbeats that were queued, unless the builder crashed. -/
  answer : Option Nat
  listed : List Subscription
  /-- The heartbeats that were attempted, in their order, and what became of each. -/
  attempts : List (Subscription × Submission)
  /-- The subscriptions whose heartbeat was due but not come to, since the builder crashed. -/
  cut : List Subscription

namespace Scan

/-- The subscriptions whose heartbeat was due. -/
def found (scan : Scan) : List Subscription := scan.attempts.map Prod.fst ++ scan.cut

/-- Whether an identifier was listed. -/
def Lists (scan : Scan) (id : String) : Prop := ∃ s ∈ scan.listed, s.id = id

/-- Whether an identifier was listed with an interval. -/
def ListsEvery (scan : Scan) (id : String) (interval : Duration) : Prop :=
  ∃ s ∈ scan.listed, s.id = id ∧ s.heartbeatInterval = interval

/-- Whether a heartbeat was due. -/
def Finds (scan : Scan) (id : String) : Prop := ∃ s ∈ scan.found, s.id = id

/-- Whether a heartbeat was attempted. -/
def Attempts (scan : Scan) (id : String) : Prop := ∃ attempt ∈ scan.attempts, attempt.1.id = id

/-- Whether a heartbeat was attempted and queued. -/
def Queues (scan : Scan) (id : String) : Prop :=
  ∃ attempt ∈ scan.attempts, attempt.1.id = id ∧ attempt.2 = .queued

/-- Whether a heartbeat was due but not come to, since the builder crashed. -/
def Cuts (scan : Scan) (id : String) : Prop := ∃ s ∈ scan.cut, s.id = id

instance (scan : Scan) (id : String) : Decidable (scan.Lists id) :=
  inferInstanceAs (Decidable (∃ s ∈ scan.listed, s.id = id))

instance (scan : Scan) (id : String) (interval : Duration) :
    Decidable (scan.ListsEvery id interval) :=
  inferInstanceAs (Decidable (∃ s ∈ scan.listed, s.id = id ∧ s.heartbeatInterval = interval))

instance (scan : Scan) (id : String) : Decidable (scan.Attempts id) :=
  inferInstanceAs (Decidable (∃ attempt ∈ scan.attempts, attempt.1.id = id))

instance (scan : Scan) (id : String) : Decidable (scan.Queues id) :=
  inferInstanceAs (Decidable (∃ attempt ∈ scan.attempts, attempt.1.id = id ∧ attempt.2 = .queued))

instance (scan : Scan) (id : String) : Decidable (scan.Cuts id) :=
  inferInstanceAs (Decidable (∃ s ∈ scan.cut, s.id = id))

/-- Whether a scan submitted the heartbeats that it is said to have attempted, one after another,
and nothing else: what they leave is what the scan left, but for its report. So there is one more
job in the queue for each that was queued, and their number is the answer. Only a builder that
crashes cuts heartbeats off. -/
structure Accurate (scan : Scan) : Prop where
  listed : scan.listed = scan.before.outbound.registry.list scan.wall
  sends : ∃ d, scan.before.Sends scan.wall scan.attempts d ∧
    scan.after = d.report (scan.answer.toList.map (.heartbeatsScanned scan.listed.length))
  jobs : ∃ jobs, scan.after.pool = scan.before.pool.withJobs (scan.before.pool.waiting ++ jobs)
      scan.before.pool.running ∧
    List.Forall₂ (PushJob.IsHeartbeat scan.before.builder scan.wall)
      (Dispatcher.queuedOf scan.attempts) jobs
  answer : scan.answer =
    if .crashed ∈ scan.attempts.map Prod.snd then none
    else some (Dispatcher.queuedOf scan.attempts).length
  cut : .crashed ∉ scan.attempts.map Prod.snd → scan.cut = []

/-- A heartbeat that is due is attempted or cut off. -/
theorem finds_iff {scan : Scan} {id : String} :
    scan.Finds id ↔ scan.Attempts id ∨ scan.Cuts id := by
  simp only [Finds, found, Attempts, Cuts, List.mem_append, List.mem_map, or_and_right, exists_or]
  refine or_congr_left ⟨?_, ?_⟩
  · rintro ⟨_, ⟨attempt, hattempt, rfl⟩, hid⟩
    exact ⟨attempt, hattempt, hid⟩
  · rintro ⟨attempt, hattempt, hid⟩
    exact ⟨_, ⟨attempt, hattempt, rfl⟩, hid⟩

end Scan

/-- A span has passed since an instant if the instant comes that much before. -/
theorem Instant.le_since_iff {now earlier : Instant} {d : Duration} (hd : d ≠ 0) :
    d ≤ now.since earlier ↔ earlier + (d : Int) ≤ now := by
  unfold since
  grind

namespace HeartbeatSchedule

variable {h : HeartbeatSchedule} {now : Instant} {active : List Subscription} {s : Subscription}

/-! ## What is due -/

/-- Whether the heartbeat of a subscription is due. -/
def isDue (h : HeartbeatSchedule) (now : Instant) (s : Subscription) : Bool :=
  s.heartbeatInterval ≠ 0 && s.heartbeatInterval ≤ now.since (h.lastSent[s.id]?.getD now)

/-- A heartbeat is due if the interval has passed since an instant that is remembered. -/
theorem isDue_iff : h.isDue now s = true ↔ s.heartbeatInterval ≠ 0 ∧
    ∃ last, h.lastSent[s.id]? = some last ∧ last + (s.heartbeatInterval : Int) ≤ now := by
  simp only [isDue, Bool.and_eq_true, decide_eq_true_eq]
  refine and_congr_right fun hinterval => ?_
  rw [Instant.le_since_iff hinterval]
  cases h.lastSent[s.id]? with
  | none =>
    -- An interval that begins now has not passed.
    have hnot : ¬ now + (s.heartbeatInterval : Int) ≤ now := by grind
    simp [hnot]
  | some last => simp

/-- The schedule after a scan has come to a subscription. -/
def visit (h : HeartbeatSchedule) (now : Instant) (s : Subscription) : HeartbeatSchedule :=
  if s.heartbeatInterval = 0 then h
  else ⟨h.lastSent.insert s.id (if h.isDue now s then now else h.lastSent[s.id]?.getD now)⟩

theorem due_cons (h : HeartbeatSchedule) (now : Instant) (s : Subscription)
    (rest : List Subscription) :
    due now (s :: rest) h =
      ((if h.isDue now s then [s] else []) ++ (due now rest (h.visit now s)).1,
        (due now rest (h.visit now s)).2) := by
  rw [due, visit]
  by_cases hsilent : s.heartbeatInterval = 0
  · have hno : h.isDue now s = false := by simp [isDue, hsilent]
    simp [hsilent, hno]
  · by_cases hdue : h.isDue now s = true
    · have hle : s.heartbeatInterval ≤ now.since (h.lastSent[s.id]?.getD now) := by
        simpa [isDue, hsilent] using hdue
      simp [hsilent, hdue, hle]
    · have hlt : ¬ s.heartbeatInterval ≤ now.since (h.lastSent[s.id]?.getD now) := by
        simpa [isDue, hsilent] using hdue
      simp [hsilent, hdue, hlt]

theorem lastSent_visit (h : HeartbeatSchedule) (now : Instant) (s : Subscription) (id : String) :
    (h.visit now s).lastSent[id]? =
      if s.heartbeatInterval ≠ 0 ∧ s.id = id then
        some (if h.isDue now s then now else h.lastSent[id]?.getD now)
      else h.lastSent[id]? := by
  unfold visit
  by_cases hsilent : s.heartbeatInterval = 0
  · simp [hsilent]
  · rw [if_neg hsilent, Std.ExtTreeMap.getElem?_insert]
    by_cases hid : s.id = id
    · subst hid
      simp [hsilent]
    · simp [hid]

/-- Coming to another subscription changes nothing. -/
theorem lastSent_visit_of_ne {s' : Subscription} (hid : s'.id ≠ s.id) :
    (h.visit now s').lastSent[s.id]? = h.lastSent[s.id]? := by
  rw [lastSent_visit, if_neg fun hboth => hid hboth.2]

theorem isDue_visit_of_ne {s' : Subscription} (hid : s'.id ≠ s.id) :
    (h.visit now s').isDue now s = h.isDue now s := by
  rw [isDue, isDue, lastSent_visit_of_ne hid]

/-- Which heartbeats are due is decided before the scan, where no identifier is listed twice. -/
theorem due_eq_filter (hactive : active.Pairwise fun s s' => s.id ≠ s'.id) :
    (due now active h).1 = active.filter (h.isDue now) := by
  induction active generalizing h with
  | nil => rfl
  | cons s rest ih =>
    obtain ⟨hother, hrest⟩ := List.pairwise_cons.1 hactive
    have hsame : rest.filter ((h.visit now s).isDue now) = rest.filter (h.isDue now) :=
      List.filter_congr fun s' hs' => isDue_visit_of_ne (hother s' hs')
    rw [due_cons, ih hrest, hsame, List.filter_cons]
    split <;> rfl

/-- What is not listed is not come to. -/
theorem lastSent_due_of_absent {id : String} (hid : ∀ s ∈ active, s.id ≠ id) :
    (due now active h).2.lastSent[id]? = h.lastSent[id]? := by
  induction active generalizing h with
  | nil => rfl
  | cons s rest ih =>
    obtain ⟨hs, hrest⟩ := List.forall_mem_cons.1 hid
    rw [due_cons, ih hrest, lastSent_visit, if_neg fun hboth => hs hboth.2]

/-- What is listed is come to once. -/
theorem lastSent_due_of_mem (hactive : active.Pairwise fun s s' => s.id ≠ s'.id) (hs : s ∈ active) :
    (due now active h).2.lastSent[s.id]? = (h.visit now s).lastSent[s.id]? := by
  induction active generalizing h with
  | nil => exact nomatch hs
  | cons s' rest ih =>
    obtain ⟨hother, hrest⟩ := List.pairwise_cons.1 hactive
    rw [due_cons]
    rcases List.mem_cons.1 hs with rfl | hs
    · exact lastSent_due_of_absent fun s' hs' => (hother s' hs').symm
    · have hid : s'.id ≠ s.id := hother s hs
      rw [ih hrest hs, lastSent_visit _ now s, lastSent_visit h now s, isDue_visit_of_ne hid,
        lastSent_visit_of_ne hid]

theorem lastSent_retain (h : HeartbeatSchedule) (active : List Subscription) (id : String) :
    (h.retain active).lastSent[id]? =
      if ∃ s ∈ active, s.id = id then h.lastSent[id]? else none := by
  rw [retain, Std.ExtTreeMap.getElem?_filter']
  by_cases hlisted : ∃ s ∈ active, s.id = id
  · have hany : active.any (fun s => s.id = id) = true := by simpa using hlisted
    rw [if_pos hlisted, hany]
    cases h.lastSent[id]? <;> rfl
  · have hany : active.any (fun s => s.id = id) = false := by simpa using hlisted
    rw [if_neg hlisted, hany]
    cases h.lastSent[id]? <;> rfl

/-- Forgetting what is not listed changes nothing for what is. -/
theorem lastSent_retain_of_mem (hs : s ∈ active) :
    (h.retain active).lastSent[s.id]? = h.lastSent[s.id]? := by
  rw [lastSent_retain, if_pos ⟨s, hs, rfl⟩]

theorem isDue_retain (hs : s ∈ active) : (h.retain active).isDue now s = h.isDue now s := by
  rw [isDue, isDue, lastSent_retain_of_mem hs]

theorem lastSent_visit_retain (hs : s ∈ active) :
    ((h.retain active).visit now s).lastSent[s.id]? = (h.visit now s).lastSent[s.id]? := by
  rw [lastSent_visit, lastSent_visit h, isDue_retain hs, lastSent_retain_of_mem hs]

/-! ## What is attempted -/

/-- What a scan at an instant does. -/
def scanned (h : HeartbeatSchedule) (d : Dispatcher) (wall : Timestamp) (now : Instant) : Scan :=
  let listed := d.outbound.registry.list wall
  let found := (due now listed (h.retain listed)).1
  let attempts := attempts wall found d
  { madeAt := now
    wall
    before := d
    after := (h.scan d wall now).2.2
    answer := (h.scan d wall now).1
    listed
    attempts
    cut := found.drop attempts.length }

/-- A scan submits what is due, and reports the number of heartbeats that were queued. -/
theorem scan_eq (h : HeartbeatSchedule) (d : Dispatcher) (wall : Timestamp) (now : Instant) :
    let listed := d.outbound.registry.list wall
    let sent := sendEach wall 0 (due now listed (h.retain listed)).1 d
    h.scan d wall now = (sent.1, (due now listed (h.retain listed)).2,
      sent.2.report (sent.1.toList.map (.heartbeatsScanned listed.length))) := by
  unfold scan
  dsimp only
  split
  · next heq => rw [heq]; rfl
  · next heq => rw [heq]; rfl

theorem scanned_accurate (h : HeartbeatSchedule) (d : Dispatcher) (wall : Timestamp)
    (now : Instant) : (h.scanned d wall now).Accurate := by
  have hscan := h.scan_eq d wall now
  obtain ⟨hsends, hanswer⟩ := sendEach_sends wall 0
    (due now (d.outbound.registry.list wall) (h.retain (d.outbound.registry.list wall))).1 d
  rw [Nat.zero_add] at hanswer
  constructor
  · rfl
  · refine ⟨_, hsends, ?_⟩
    rw [scanned, hscan]
  · rw [scanned, hscan]
    exact hsends.pool
  · rw [scanned, hscan]
    exact hanswer
  · exact fun hgoes => List.drop_of_length_le (Nat.le_of_eq (length_attempts hgoes).symm)

/-- A scan leaves the registry to itself. -/
theorem registry_scan (h : HeartbeatSchedule) (d : Dispatcher) (wall : Timestamp) (now : Instant) :
    (h.scan d wall now).2.2.registry = d.registry := by
  obtain ⟨d', hsends, hafter⟩ := (h.scanned_accurate d wall now).sends
  obtain ⟨_, hqueued⟩ := hsends.queued
  show (h.scanned d wall now).after.registry = _
  rw [hafter]
  exact hqueued.registry

theorem schedule_scan (h : HeartbeatSchedule) (d : Dispatcher) (wall : Timestamp) (now : Instant) :
    (h.scan d wall now).2.1 =
      (due now (d.outbound.registry.list wall) (h.retain (d.outbound.registry.list wall))).2 := by
  rw [scan_eq]

end HeartbeatSchedule

/-! ## From schedule to schedule -/

/-- What a scan finds due by a schedule, and the schedule that it leaves. -/
structure Scan.Updates (scan : Scan) (h h' : HeartbeatSchedule) : Prop where
  once : scan.listed.Pairwise fun s s' => s.id ≠ s'.id
  found : scan.found = scan.listed.filter (h.isDue scan.madeAt)
  forgets : ∀ id, ¬ scan.Lists id → h'.lastSent[id]? = none
  visits : ∀ s ∈ scan.listed, h'.lastSent[s.id]? = (h.visit scan.madeAt s).lastSent[s.id]?

namespace HeartbeatSchedule

variable {h h' h'' : HeartbeatSchedule}

theorem scanned_updates (h : HeartbeatSchedule) {d : Dispatcher} {wall : Timestamp} (now : Instant)
    (honce : (d.outbound.registry.list wall).Pairwise fun s s' => s.id ≠ s'.id) :
    (h.scanned d wall now).Updates h (h.scan d wall now).2.1 where
  once := honce
  found := by
    refine (attempts_found wall _ d).trans ((due_eq_filter honce).trans ?_)
    exact List.filter_congr fun s hs => isDue_retain hs
  forgets id hid := by
    rw [schedule_scan]
    refine (lastSent_due_of_absent fun s hs heq => hid ⟨s, hs, heq⟩).trans ?_
    exact (lastSent_retain h _ id).trans (if_neg hid)
  visits s hs := by
    rw [schedule_scan]
    exact (lastSent_due_of_mem honce hs).trans (lastSent_visit_retain hs)

/-- Whether scans lead from a schedule to another one. -/
inductive Leads : HeartbeatSchedule → List Scan → HeartbeatSchedule → Prop
  | nil (h : HeartbeatSchedule) : Leads h [] h
  | cons {h h' h'' : HeartbeatSchedule} {scan : Scan} {rest : List Scan}
      (hscan : scan.Updates h h') (hrest : Leads h' rest h'') : Leads h (scan :: rest) h''

theorem leads_cons_iff {scan : Scan} {rest : List Scan} :
    Leads h (scan :: rest) h'' ↔ ∃ h', scan.Updates h h' ∧ Leads h' rest h'' := by
  constructor
  · rintro (_ | ⟨hscan, hrest⟩)
    exact ⟨_, hscan, hrest⟩
  · rintro ⟨h', hscan, hrest⟩
    exact .cons hscan hrest

theorem leads_append_iff {earlier later : List Scan} :
    Leads h (earlier ++ later) h'' ↔ ∃ h', Leads h earlier h' ∧ Leads h' later h'' := by
  induction earlier generalizing h with
  | nil =>
    constructor
    · exact fun hlater => ⟨h, .nil h, hlater⟩
    · rintro ⟨h', ⟨⟩, hlater⟩
      exact hlater
  | cons scan rest ih =>
    simp only [List.cons_append, leads_cons_iff, ih]
    constructor
    · rintro ⟨h₁, hscan, h', hrest, hlater⟩
      exact ⟨h', ⟨h₁, hscan, hrest⟩, hlater⟩
    · rintro ⟨h', ⟨h₁, hscan, hrest⟩, hlater⟩
      exact ⟨h₁, hscan, h', hrest, hlater⟩

end HeartbeatSchedule

/-! ## Runs -/

/-- Whatever a dispatcher does keeps the parts of its registry in step. -/
theorem Dispatcher.coherent_perform {d : Dispatcher} {c : Clock} (h : d.registry.Coherent c.now)
    (op : DispatcherOp) : (d.perform c op).registry.Coherent c.now := by
  rcases d.perform_cases c op with ⟨turn, -, hnow, hbefore, hafter, -⟩ |
    ⟨-, -, hsame | ⟨op', -, hregistry⟩⟩
  · rw [← hafter, ← hnow]
    refine turn.goes.coherent ?_
    rw [hbefore, hnow]
    exact h
  · rw [hsame]
    exact h
  · rw [hregistry]
    exact h.performed (d.registry.perform_performed c op')

/-- A dispatcher with its schedule of heartbeats at a moment. -/
structure TimedScheduler extends TimedDispatcher where
  schedule : HeartbeatSchedule := {}

/-- A scan, or one step of what the dispatcher does beside it. -/
inductive SchedulerOp
  | scan (now : Instant)
  | dispatch (op : DispatcherOp)

namespace TimedScheduler

variable {t : TimedScheduler}

/-- A dispatcher to which nothing has happened, and that was not scanned. -/
def start (c : Clock) (workers capacity : Nat) (builder : PayloadBuilder) (maxElements : Nat) :
    TimedScheduler :=
  { TimedDispatcher.start c workers capacity builder maxElements with }

/-- The scheduler after one operation more. -/
def next (t : TimedScheduler) : SchedulerOp → TimedScheduler
  | .scan now =>
    let (_, schedule, dispatcher) := t.schedule.scan t.dispatcher t.clock.wall now
    { t with dispatcher, schedule }
  | .dispatch op => { t with toTimedDispatcher := t.toTimedDispatcher.next op }

/-- The operations of a run in their order. -/
def run (t : TimedScheduler) (ops : List SchedulerOp) : TimedScheduler := ops.foldl next t

/-- The scan that an operation is, if it is one. -/
def scan? (t : TimedScheduler) : SchedulerOp → Option Scan
  | .scan now => some (t.schedule.scanned t.dispatcher t.clock.wall now)
  | .dispatch _ => none

/-- The scans of a run in their order. -/
def scans (t : TimedScheduler) : List SchedulerOp → List Scan
  | [] => []
  | op :: rest => (t.scan? op).toList ++ (t.next op).scans rest

/-- The parts of the registry agree now. -/
def Coherent (t : TimedScheduler) : Prop := t.dispatcher.registry.Coherent t.clock.now

theorem coherent_start (c : Clock) (workers capacity : Nat) (builder : PayloadBuilder)
    (maxElements : Nat) : (start c workers capacity builder maxElements).Coherent :=
  Registry.coherent_empty c.now

theorem Coherent.next (h : t.Coherent) (op : SchedulerOp) : (t.next op).Coherent := by
  cases op with
  | scan now =>
    show (t.schedule.scan t.dispatcher t.clock.wall now).2.2.registry.Coherent t.clock.now
    rw [HeartbeatSchedule.registry_scan]
    exact h
  | dispatch op =>
    have hperformed := Dispatcher.coherent_perform h op
    cases op with
    | pass time => exact hperformed.later (time.now_le_apply t.clock)
    | _ => exact hperformed

/-- No identifier is listed twice. -/
theorem Coherent.listed_once (h : t.Coherent) (wall : Timestamp) :
    (t.dispatcher.outbound.registry.list wall).Pairwise fun s s' => s.id ≠ s'.id :=
  h.distinct.filter _

theorem accurate_scans (t : TimedScheduler) (ops : List SchedulerOp) {scan : Scan}
    (hscan : scan ∈ t.scans ops) : scan.Accurate := by
  induction ops generalizing t with
  | nil => exact absurd hscan List.not_mem_nil
  | cons op rest ih =>
    rcases List.mem_append.1 hscan with hnow | hlater
    · cases op with
      | scan now =>
        rw [List.mem_singleton.1 hnow]
        exact t.schedule.scanned_accurate t.dispatcher t.clock.wall now
      | dispatch op => exact absurd hnow List.not_mem_nil
    · exact ih (t.next op) hlater

/-- The scans of a run lead from its first schedule to its last one. -/
theorem leads_scans (h : t.Coherent) (ops : List SchedulerOp) :
    HeartbeatSchedule.Leads t.schedule (t.scans ops) (t.run ops).schedule := by
  induction ops generalizing t with
  | nil => exact .nil t.schedule
  | cons op rest ih =>
    have hrest := ih (h.next op)
    cases op with
    | scan now => exact .cons (t.schedule.scanned_updates now (h.listed_once t.clock.wall)) hrest
    | dispatch op => exact hrest

end TimedScheduler

end TransitHub
