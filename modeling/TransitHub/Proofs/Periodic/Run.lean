/-
# Runs of a periodic loop

A loop runs beside a clock that moves forward by any spans, and beside the channel on which it is
told to stop. The channel holds the value that was published last. The loop looks at it when there
is a value that it has not seen, and otherwise when the sender is gone.

A run is a sequence of steps in any order. How late the loop takes up a tick that is due is left
open, and so is which it takes up first where a tick is due and there is something to see on the
channel. A tick that takes long is a tick before a move of the clock.

Letting time pass tick by tick and catching up after a jump of the clock are such runs.
-/

import TransitHub.PeriodicLoop

namespace TransitHub

namespace PeriodicLoop

variable {l : PeriodicLoop} {now : Instant}

theorem isDue_iff : l.isDue now = true ↔ l.stopped = false ∧ l.due ≤ now := by
  simp [isDue]

/-- A tick that is due puts the next one off by a period at least. -/
theorem due_le_due_tick (hdue : l.due ≤ now) : l.due + (l.period : Int) ≤ (l.tick now).due := by
  refine Int.add_le_add_right ?_ _
  split
  · exact Int.le_refl l.due
  · exact hdue

/-- A tick that is due uses up some of what can come due until an instant. -/
theorem budget_tick_lt {ranAt : Instant} (hdue : l.due ≤ ranAt) (hnext : (l.tick ranAt).due ≤ now) :
    (l.tick ranAt).budget now < l.budget now := by
  have hperiod : 0 < l.period := Nat.lt_of_lt_of_le (by decide) l.shortest_le
  have hless : (now - (l.tick ranAt).due).toNat + l.period ≤ (now - l.due).toNat := by
    have hlater := due_le_due_tick hdue
    grind
  have hcount : ((now - (l.tick ranAt).due).toNat + l.period) / l.period ≤
      (now - l.due).toNat / l.period := Nat.div_le_div_right hless
  rw [Nat.add_div_right _ hperiod] at hcount
  exact Nat.succ_lt_succ hcount

/-- Taking up due ticks one after another until the budget is used up leaves none due. -/
theorem isDue_exhausted (drain : Nat → PeriodicLoop → PeriodicLoop)
    (ranAt : PeriodicLoop → Instant) (hzero : ∀ l, drain 0 l = l)
    (hsucc : ∀ fuel l, drain (fuel + 1) l =
      if l.isDue now then drain fuel (l.tick (ranAt l)) else l)
    (hlate : ∀ l : PeriodicLoop, l.due ≤ now → l.due ≤ ranAt l) {fuel : Nat}
    (hfuel : l.due ≤ now → l.budget now ≤ fuel) : (drain fuel l).isDue now = false := by
  induction fuel generalizing l with
  | zero =>
    have hearly : ¬ l.due ≤ now := fun hdue => Nat.not_succ_le_zero _ (hfuel hdue)
    rw [hzero]
    simp [isDue, hearly]
  | succ fuel ih =>
    rw [hsucc]
    by_cases hdue : l.isDue now = true
    · rw [if_pos hdue]
      obtain ⟨-, hbefore⟩ := isDue_iff.1 hdue
      exact ih fun hnext => Nat.le_of_lt_succ
        (Nat.lt_of_lt_of_le (budget_tick_lt (hlate l hbefore) hnext) (hfuel hbefore))
    · rw [if_neg hdue]
      simpa using hdue

theorem catchUpWithin_of_not_due {crashes : Nat → Bool} (fuel : Nat) (hdue : ¬ l.isDue now = true) :
    catchUpWithin crashes fuel l now = ([], l) := by
  cases fuel with
  | zero => rfl
  | succ fuel => rw [catchUpWithin, if_neg hdue]

/-- A tick that is due runs when the loop catches up. -/
theorem catchUp_of_due {crashes : Nat → Bool} (hdue : l.isDue now = true) :
    (l.catchUp crashes now).1 ≠ [] := by
  rw [catchUp, budget, catchUpWithin, if_pos hdue]
  exact List.cons_ne_nil _ _

/-- After catching up no tick is due. -/
theorem isDue_catchUp (crashes : Nat → Bool) (l : PeriodicLoop) (now : Instant) :
    (l.catchUp crashes now).2.isDue now = false := by
  refine isDue_exhausted (fun fuel l => (catchUpWithin crashes fuel l now).2) (fun _ => now)
    (fun _ => rfl) (fun fuel l => ?_) (fun _ hdue => hdue) fun _ => Nat.le_refl _
  show (catchUpWithin crashes (fuel + 1) l now).2 = _
  rw [catchUpWithin]
  split <;> rfl

/-- After time has passed no tick is due. -/
theorem isDue_run (crashes : Nat → Bool) (l : PeriodicLoop) (now : Instant) :
    (l.run crashes now).2.isDue now = false := by
  refine isDue_exhausted (fun fuel l => (runWithin crashes fuel l now).2) due (fun _ => rfl)
    (fun fuel l => ?_) (fun l _ => Int.le_refl l.due) fun _ => Nat.le_refl _
  show (runWithin crashes (fuel + 1) l now).2 = _
  rw [runWithin]
  split <;> rfl

/-- A loop that sees `false` goes on as before. -/
theorem observe_false (l : PeriodicLoop) : l.observe false = l := by
  rw [observe, Bool.or_false]

end PeriodicLoop

/-- The channel on which a loop is told to stop, as the loop finds it. -/
structure ShutdownChannel where
  /-- The value that was published last. -/
  value : Bool
  /-- Whether it was published after the loop looked last. -/
  unseen : Bool := false
  /-- Whether the sender is gone. -/
  ended : Bool := false

/-- Publish a value. Once the sender is gone nobody does. -/
def ShutdownChannel.publish (c : ShutdownChannel) (value : Bool) : ShutdownChannel :=
  if c.ended then c else { c with value, unseen := true }

/-- One step of a loop, or what happens outside of it. -/
inductive LoopOp
  /-- The clock moves forward. -/
  | pass (d : Duration)
  /-- The loop takes up a tick, if one is due. -/
  | tick
  /-- The loop looks at its channel, if there is anything new. -/
  | look
  | publish (value : Bool)
  /-- The sender of the channel is dropped. -/
  | hangUp
deriving DecidableEq

namespace LoopOp

/-- Whether the clock stands still. -/
def KeepsTime : LoopOp → Prop
  | pass _ => False
  | _ => True

/-- Whether an operation is a move of the clock or a tick, so that the channel has no part in it. -/
def isTimely : LoopOp → Bool
  | pass _ | tick => true
  | look | publish _ | hangUp => false

end LoopOp

/-- What a loop does in a step. -/
inductive LoopEvent
  | ran (tick : Tick)
  /-- The loop sees a value that was published. -/
  | saw (value : Bool)
  /-- The loop sees that the sender is gone. -/
  | sawEnd
deriving DecidableEq

namespace LoopEvent

/-- Whether the loop has to stop. -/
def Stops : LoopEvent → Prop
  | ran _ => False
  | saw value => value = true
  | sawEnd => True

instance : DecidablePred Stops
  | ran _ => inferInstanceAs (Decidable False)
  | saw value => inferInstanceAs (Decidable (value = true))
  | sawEnd => inferInstanceAs (Decidable True)

/-- The ticks that have run, in their order. -/
def ticks (events : List LoopEvent) : List Tick :=
  events.filterMap fun
    | ran tick => some tick
    | _ => none

@[simp]
theorem ticks_append (events later : List LoopEvent) :
    ticks (events ++ later) = ticks events ++ ticks later := List.filterMap_append

@[simp]
theorem ticks_map_ran (ts : List Tick) : ticks (ts.map ran) = ts := by
  induction ts with
  | nil => rfl
  | cons t ts ih => exact congrArg (t :: ·) ih

end LoopEvent

/-- A periodic loop with its channel at a moment. -/
structure TimedLoop where
  now : Instant
  loop : PeriodicLoop
  channel : ShutdownChannel

namespace TimedLoop

variable {t t' t'' : TimedLoop} {crashes : Nat → Bool}

/-- A loop that starts now. The value that its channel has is not new. -/
def start (period : Duration) (now : Instant) (initially : Bool) : TimedLoop where
  now
  loop := .start period now
  channel := { value := initially }

/-- Take up a tick, if one is due. `crashes` says of each tick, by its number, whether it crashes.
-/
def takeTick (crashes : Nat → Bool) (t : TimedLoop) : List LoopEvent × TimedLoop :=
  if t.loop.isDue t.now then
    ([.ran ⟨t.loop.ticks, t.now, crashes t.loop.ticks⟩], { t with loop := t.loop.tick t.now })
  else ([], t)

/-- Look at the channel, if there is anything new. A value not seen comes before the end. -/
def look (t : TimedLoop) : List LoopEvent × TimedLoop :=
  if t.loop.stopped then ([], t)
  else if t.channel.unseen then
    ([.saw t.channel.value],
      { t with
        loop := t.loop.observe t.channel.value
        channel := { t.channel with unseen := false } })
  else if t.channel.ended then ([.sawEnd], { t with loop := t.loop.disconnect })
  else ([], t)

/-- Perform one operation. -/
def perform (crashes : Nat → Bool) (t : TimedLoop) : LoopOp → List LoopEvent × TimedLoop
  | .pass d => ([], { t with now := t.now + (d : Int) })
  | .tick => t.takeTick crashes
  | .look => t.look
  | .publish value => ([], { t with channel := t.channel.publish value })
  | .hangUp => ([], { t with channel := { t.channel with ended := true } })

/-- The operations of a run in their order, with what the loop does in them. -/
def run (crashes : Nat → Bool) : TimedLoop → List LoopOp → List LoopEvent × TimedLoop
  | t, [] => ([], t)
  | t, op :: rest =>
    let (events, t) := t.perform crashes op
    let (later, t) := run crashes t rest
    (events ++ later, t)

/-- What the loop does in a run. -/
def events (crashes : Nat → Bool) (t : TimedLoop) (ops : List LoopOp) : List LoopEvent :=
  (t.run crashes ops).1

/-- The ticks of a run in their order. -/
def ticks (crashes : Nat → Bool) (t : TimedLoop) (ops : List LoopOp) : List Tick :=
  LoopEvent.ticks (t.events crashes ops)

/-- The loop after a run. -/
def after (crashes : Nat → Bool) (t : TimedLoop) (ops : List LoopOp) : TimedLoop :=
  (t.run crashes ops).2

@[simp]
theorem events_nil : t.events crashes [] = [] := rfl

@[simp]
theorem after_nil : t.after crashes [] = t := rfl

theorem events_cons (op : LoopOp) (rest : List LoopOp) :
    t.events crashes (op :: rest) =
      (t.perform crashes op).1 ++ (t.perform crashes op).2.events crashes rest := rfl

theorem after_cons (op : LoopOp) (rest : List LoopOp) :
    t.after crashes (op :: rest) = (t.perform crashes op).2.after crashes rest := rfl

theorem ticks_cons (op : LoopOp) (rest : List LoopOp) :
    t.ticks crashes (op :: rest) =
      LoopEvent.ticks (t.perform crashes op).1 ++ (t.perform crashes op).2.ticks crashes rest := by
  rw [ticks, events_cons, LoopEvent.ticks_append]
  rfl

theorem after_append (ops later : List LoopOp) :
    t.after crashes (ops ++ later) = (t.after crashes ops).after crashes later := by
  induction ops generalizing t with
  | nil => rfl
  | cons op rest ih => exact ih

theorem events_append (ops later : List LoopOp) :
    t.events crashes (ops ++ later) =
      t.events crashes ops ++ (t.after crashes ops).events crashes later := by
  induction ops generalizing t with
  | nil => rfl
  | cons op rest ih =>
    rw [List.cons_append, events_cons, ih, events_cons, after_cons, List.append_assoc]

/-! ## Steps of a loop -/

theorem takeTick_of_due (hdue : t.loop.isDue t.now = true) :
    t.takeTick crashes =
      ([.ran ⟨t.loop.ticks, t.now, crashes t.loop.ticks⟩], { t with loop := t.loop.tick t.now }) :=
  if_pos hdue

theorem takeTick_of_not_due (hdue : ¬ t.loop.isDue t.now = true) : t.takeTick crashes = ([], t) :=
  if_neg hdue

/-- What a loop does when it may take up a tick: nothing, or the tick that is due. -/
theorem takeTick_cases (crashes : Nat → Bool) (t : TimedLoop) :
    t.takeTick crashes = ([], t) ∨
    t.takeTick crashes =
      ([.ran ⟨t.loop.ticks, t.now, crashes t.loop.ticks⟩], { t with loop := t.loop.tick t.now }) ∧
      t.loop.due ≤ t.now := by
  by_cases hdue : t.loop.isDue t.now = true
  · exact Or.inr ⟨takeTick_of_due hdue, (PeriodicLoop.isDue_iff.1 hdue).2⟩
  · exact Or.inl (takeTick_of_not_due hdue)

/-- What a loop finds when it looks: nothing new, a value, or the end. -/
theorem look_cases (t : TimedLoop) :
    t.look = ([], t) ∨
    t.look = ([.saw t.channel.value],
      { t with
        loop := t.loop.observe t.channel.value
        channel := { t.channel with unseen := false } }) ∧ t.loop.stopped = false ∧
      t.channel.unseen = true ∨
    t.look = ([.sawEnd], { t with loop := t.loop.disconnect }) ∧ t.loop.stopped = false ∧
      t.channel.ended = true := by
  unfold look
  by_cases hstopped : t.loop.stopped = true
  · exact Or.inl (if_pos hstopped)
  · rw [if_neg hstopped]
    rw [Bool.not_eq_true] at hstopped
    by_cases hunseen : t.channel.unseen = true
    · exact Or.inr (Or.inl ⟨if_pos hunseen, hstopped, hunseen⟩)
    · rw [if_neg hunseen]
      by_cases hended : t.channel.ended = true
      · exact Or.inr (Or.inr ⟨if_pos hended, hstopped, hended⟩)
      · exact Or.inl (if_neg hended)

/-! ## Letting time pass and catching up -/

/-- Whether moves of the clock and ticks lead from one moment to another, with these ticks. -/
def Reaches (crashes : Nat → Bool) (t : TimedLoop) (ticks : List Tick) (t' : TimedLoop) : Prop :=
  ∃ ops, (∀ op ∈ ops, op.isTimely = true) ∧ t.run crashes ops = (ticks.map .ran, t')

theorem Reaches.refl (crashes : Nat → Bool) (t : TimedLoop) : t.Reaches crashes [] t :=
  ⟨[], nofun, rfl⟩

theorem run_append (ops later : List LoopOp) :
    t.run crashes (ops ++ later) =
      ((t.run crashes ops).1 ++ ((t.run crashes ops).2.run crashes later).1,
        ((t.run crashes ops).2.run crashes later).2) :=
  Prod.ext (events_append ops later) (after_append ops later)

theorem Reaches.trans {ticks later : List Tick} (h : t.Reaches crashes ticks t')
    (hlater : t'.Reaches crashes later t'') : t.Reaches crashes (ticks ++ later) t'' := by
  obtain ⟨ops, hops, hrun⟩ := h
  obtain ⟨ops', hops', hrun'⟩ := hlater
  refine ⟨ops ++ ops', List.forall_mem_append.2 ⟨hops, hops'⟩, ?_⟩
  rw [run_append, hrun, hrun', List.map_append]

/-- The clock moves to an instant that is not earlier. -/
theorem reaches_pass {later : Instant} (hle : t.now ≤ later) :
    t.Reaches crashes [] { t with now := later } := by
  refine ⟨[.pass (later.since t.now)], by simp [LoopOp.isTimely], ?_⟩
  have hlater : t.now + ((later.since t.now : Nat) : Int) = later := by
    unfold Instant.since
    grind
  simp [run, perform, hlater]

theorem reaches_tick (hdue : t.loop.isDue t.now = true) :
    t.Reaches crashes [⟨t.loop.ticks, t.now, crashes t.loop.ticks⟩]
      { t with loop := t.loop.tick t.now } := by
  refine ⟨[.tick], by simp [LoopOp.isTimely], ?_⟩
  simp [run, perform, takeTick_of_due hdue]

/-- Catching up is taking up ticks while the clock stands still. -/
theorem run_replicate_tick (crashes : Nat → Bool) (fuel : Nat) (t : TimedLoop) :
    t.run crashes (List.replicate fuel .tick) =
      ((PeriodicLoop.catchUpWithin crashes fuel t.loop t.now).1.map .ran,
        { t with loop := (PeriodicLoop.catchUpWithin crashes fuel t.loop t.now).2 }) := by
  induction fuel generalizing t with
  | zero => rfl
  | succ fuel ih =>
    rw [List.replicate_succ, run, perform]
    by_cases hdue : t.loop.isDue t.now = true
    · rw [takeTick_of_due hdue, PeriodicLoop.catchUpWithin, if_pos hdue]
      dsimp only
      rw [ih]
      rfl
    · rw [takeTick_of_not_due hdue, PeriodicLoop.catchUpWithin_of_not_due _ hdue]
      dsimp only
      rw [ih, PeriodicLoop.catchUpWithin_of_not_due _ hdue]
      rfl

theorem reaches_catchUpWithin (fuel : Nat) (t : TimedLoop) :
    t.Reaches crashes (PeriodicLoop.catchUpWithin crashes fuel t.loop t.now).1
      { t with loop := (PeriodicLoop.catchUpWithin crashes fuel t.loop t.now).2 } :=
  ⟨List.replicate fuel .tick, fun _ hop => List.eq_of_mem_replicate hop ▸ rfl,
    run_replicate_tick crashes fuel t⟩

/-- Catching up after a jump of the clock. -/
theorem reaches_catchUp {later : Instant} (hle : t.now ≤ later) :
    t.Reaches crashes (t.loop.catchUp crashes later).1
      { t with now := later, loop := (t.loop.catchUp crashes later).2 } :=
  (reaches_pass hle).trans (reaches_catchUpWithin _ { t with now := later })

theorem reaches_runWithin {later : Instant} (fuel : Nat) (t : TimedLoop) (hle : t.now ≤ later)
    (hdue : t.loop.stopped = true ∨ t.now ≤ t.loop.due) :
    t.Reaches crashes (PeriodicLoop.runWithin crashes fuel t.loop later).1
      { t with now := later, loop := (PeriodicLoop.runWithin crashes fuel t.loop later).2 } := by
  induction fuel generalizing t with
  | zero => exact reaches_pass hle
  | succ fuel ih =>
    unfold PeriodicLoop.runWithin
    by_cases hlater : t.loop.isDue later = true
    · rw [if_pos hlater]
      obtain ⟨hon, hbefore⟩ : t.loop.stopped = false ∧ t.loop.due ≤ later := by
        simpa [PeriodicLoop.isDue] using hlater
      -- the clock stops at the instant at which the tick is due, and goes on from there
      have harrives : t.Reaches crashes [] { t with now := t.loop.due } :=
        reaches_pass (hdue.resolve_left (by simp [hon]))
      have hticks := harrives.trans (reaches_tick (by simp [PeriodicLoop.isDue, hon]))
      refine hticks.trans (ih _ hbefore (Or.inr ?_))
      exact Int.le_trans (Int.le_add_of_nonneg_right (Int.natCast_nonneg _))
        (PeriodicLoop.due_le_due_tick (Int.le_refl t.loop.due))
    · rw [if_neg hlater]
      exact reaches_pass hle

/-- Letting time pass, each tick at its time. -/
theorem reaches_run {later : Instant} (hle : t.now ≤ later) (hdue : t.loop.isDue t.now = false) :
    t.Reaches crashes (t.loop.run crashes later).1
      { t with now := later, loop := (t.loop.run crashes later).2 } := by
  refine reaches_runWithin _ t hle ?_
  by_cases hstopped : t.loop.stopped = true
  · exact Or.inl hstopped
  · refine Or.inr (Int.le_of_lt (Int.not_le.1 fun hbefore => ?_))
    exact absurd (PeriodicLoop.isDue_iff.2 ⟨by simpa using hstopped, hbefore⟩) (by simp [hdue])

end TimedLoop

end TransitHub
