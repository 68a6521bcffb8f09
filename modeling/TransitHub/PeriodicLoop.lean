/-
# Periodic loops

A loop runs a tick once in every period. The first tick is due one period after the start. After a
tick that ran in time, or at most five milliseconds late, the next one is due a period after that
tick was due; after one that ran later, a period after it ran. So a clock that jumps ahead does not
lead to a burst of ticks. A tick that crashes is a tick like any other.

A loop is stopped by the value `true` on its shutdown channel or by the end of the channel. The
value that the channel has at the start does not count.
-/

import TransitHub.Time.Span

namespace TransitHub

/-- A loop that has been started. -/
structure PeriodicLoop where
  period : Duration
  /-- When the next tick is due. -/
  due : Instant
  /-- How many ticks have run. -/
  ticks : Nat := 0
  stopped : Bool := false
  shortest_le : Duration.millisecond ≤ period

/-- One run of a tick. -/
structure Tick where
  /-- How many ticks of the loop ran before it. -/
  number : Nat
  ranAt : Instant
  crashed : Bool
deriving DecidableEq

namespace PeriodicLoop

/-- How late a tick may run without moving the schedule. -/
def tolerance : Duration := 5 * Duration.millisecond

/-- Start a loop. Its period is at least one millisecond. -/
def start (period : Duration) (now : Instant) : PeriodicLoop where
  period := max period Duration.millisecond
  due := now + (max period Duration.millisecond : Nat)
  shortest_le := Nat.le_max_right ..

def isDue (l : PeriodicLoop) (now : Instant) : Bool := !l.stopped && l.due ≤ now

/-- The loop after a tick that ran at an instant. -/
def tick (l : PeriodicLoop) (now : Instant) : PeriodicLoop :=
  let onTime := now ≤ l.due + (tolerance : Nat)
  { l with
    due := (if onTime then l.due else now) + (l.period : Nat)
    ticks := l.ticks + 1 }

/-- How many ticks can be due at most between the next one and an instant. -/
def budget (l : PeriodicLoop) (now : Instant) : Nat := (now - l.due).toNat / l.period + 1

/-- Run ticks at one instant while any is due, up to `fuel` of them. -/
def catchUpWithin (crashes : Nat → Bool) : (fuel : Nat) → PeriodicLoop → Instant →
    List Tick × PeriodicLoop
  | 0, l, _ => ([], l)
  | fuel + 1, l, now =>
    if l.isDue now then
      let (rest, l') := catchUpWithin crashes fuel (l.tick now) now
      (⟨l.ticks, now, crashes l.ticks⟩ :: rest, l')
    else ([], l)

/-- Run every tick that is due when the clock has jumped to an instant. `crashes` says of each tick,
by its number, whether it crashes. -/
def catchUp (crashes : Nat → Bool) (l : PeriodicLoop) (now : Instant) : List Tick × PeriodicLoop :=
  catchUpWithin crashes (l.budget now) l now

/-- Run each tick at the instant at which it is due, up to `fuel` of them. -/
def runWithin (crashes : Nat → Bool) : (fuel : Nat) → PeriodicLoop → Instant →
    List Tick × PeriodicLoop
  | 0, l, _ => ([], l)
  | fuel + 1, l, now =>
    if l.isDue now then
      let (rest, l') := runWithin crashes fuel (l.tick l.due) now
      (⟨l.ticks, l.due, crashes l.ticks⟩ :: rest, l')
    else ([], l)

/-- Run each tick that comes due while time passes until an instant. -/
def run (crashes : Nat → Bool) (l : PeriodicLoop) (now : Instant) : List Tick × PeriodicLoop :=
  runWithin crashes (l.budget now) l now

/-- Observe a value on the shutdown channel. -/
def observe (l : PeriodicLoop) (shutdown : Bool) : PeriodicLoop :=
  { l with stopped := l.stopped || shutdown }

/-- Observe the end of the shutdown channel. -/
def disconnect (l : PeriodicLoop) : PeriodicLoop := { l with stopped := true }

end PeriodicLoop

end TransitHub
