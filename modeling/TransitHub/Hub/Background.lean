/-
# Background work of the hub

After the start nine loops run: one for each kind that commits its changes, the scan for due
heartbeats, the rebuilding of the directory of subscriptions, and the sweep of the stores. Time
passes tick by tick: the clocks stop at every instant at which a tick is due, all due loops run in
the order in which they were set up, and the workers go on until nothing can move. When the clocks
jump instead, everything that came due in between runs late, at the instant after the jump.

A shutdown stops the loops, flushes the trackers, closes the pool, and waits until the workers have
finished.
-/

import TransitHub.Hub.Basic

namespace TransitHub.Hub

/-- The tasks of the background loops, each with its period. -/
def tasks (c : HubConfig) : List (Task × Duration) :=
  DataKind.all.map (fun k => (.commit k, c.commitInterval)) ++
    [(.heartbeatScan, c.heartbeatScanInterval),
      (.subscriptionRefresh, c.subscriptionRefreshInterval),
      (.storePurge, c.storePurgeInterval)]

/-- Start the background loops. A second start does nothing. -/
def start (h : Hub) : Hub :=
  if h.started then h
  else
    let loops := (tasks h.config).map fun (task, period) => (task, PeriodicLoop.start period h.now)
    let starts := loops.map fun (task, l) => LogEvent.loopStarted task.name l.period
    { h with started := true, loops }.report
      (.hubStarted loops.length h.config.commitInterval :: starts)

def runTask (h : Hub) : Task → Hub
  | .commit k => (h.commit k).2
  | .heartbeatScan =>
    let (sent, heartbeats, h) := h.scanWith h.heartbeats h.now
    let h := { h with heartbeats }
    match sent with
    | some _ => h
    | none => h.report [.tickCrashed Task.heartbeatScan.name]
  | .subscriptionRefresh => h.refresh.2
  | .storePurge => h.sweep

/-- Run a task as often as a tick of its loop is due, up to `fuel` times. -/
def runTicks (task : Task) : (fuel : Nat) → PeriodicLoop → Hub → PeriodicLoop × Hub
  | 0, l, h => (l, h)
  | fuel + 1, l, h =>
    if l.isDue h.now then runTicks task fuel (l.tick h.now) (h.runTask task) else (l, h)

/-- Put a loop behind those that are due no later. -/
def insertByDue (l : Task × PeriodicLoop) : List (Task × PeriodicLoop) → List (Task × PeriodicLoop)
  | [] => [l]
  | l' :: ls => if l.2.due < l'.2.due then l :: l' :: ls else l' :: insertByDue l ls

/-- The loops with a due tick, by the time at which it was due. -/
def dueLoops (h : Hub) : List (Task × PeriodicLoop) :=
  (h.loops.filter fun l => l.2.isDue h.now).foldl (fun ls l => insertByDue l ls) []

/-- Run the due ticks of a loop and set it up again. -/
def runLoop (h : Hub) (l : Task × PeriodicLoop) : Hub :=
  let (loop, h) := runTicks l.1 (l.2.budget h.now) l.2 h
  { h with loops := h.loops ++ [(l.1, loop)] }

/-- Run everything that is due now. -/
def runDue (h : Hub) : Hub :=
  let due := h.dueLoops
  let h := { h with loops := h.loops.filter fun l => !l.2.isDue h.now }
  (due.foldl runLoop h).settle

/-- The earliest instant at which a tick is due, if one is due until `stop`. -/
def nextDue? (h : Hub) (stop : Instant) : Option Instant :=
  h.loops.foldl (fun found l =>
    if l.2.isDue stop then some (match found with | some t => min t l.2.due | none => l.2.due)
    else found) none

/-- Both clocks at an instant that is not earlier. -/
def moveTo (h : Hub) (t : Instant) : Hub := { h with clock := h.clock.advance (t.since h.now) }

/-- Let time pass until `stop`, with up to `fuel` stops on the way. -/
def passUntil (stop : Instant) : (fuel : Nat) → Hub → Hub
  | 0, h => h.moveTo stop
  | fuel + 1, h =>
    match h.nextDue? stop with
    | some t => passUntil stop fuel (h.moveTo t).runDue
    | none => h.moveTo stop

/-- How many ticks can be due until an instant. -/
def tickBudget (h : Hub) (stop : Instant) : Nat :=
  h.loops.foldl (fun n l => n + l.2.budget stop) 0

/-- Let time pass, tick by tick. -/
def advance (h : Hub) (d : Duration) : Hub :=
  passUntil (h.now + (d : Int)) (h.tickBudget (h.now + (d : Int))) h

/-- Let both clocks jump; what came due in between runs late. -/
def jump (h : Hub) (d : Duration) : Hub := { h with clock := h.clock.advance d }.runDue

/-- Move the wall clock alone. -/
def moveWall (h : Hub) (d : Int) : Hub :=
  { h with clock := { h.clock with wall := h.clock.wall.advance d } }

/-- Stop the loops, flush the trackers and close the pool. The first shutdown waits until the
workers have finished, any later one does not. The answer is whether it finished at once. -/
def shutDown (h : Hub) : Bool × Hub :=
  let stops := h.loops.map fun (task, _) => LogEvent.loopStopped task.name
  let h := { h with loops := [] }.report stops
  let (flushed, h) := h.flushEach DataKind.all
  let h := match h.shutdown with
    | .notAsked =>
      { h with
        dispatcher := h.dispatcher.close
        shutdown := .waiting flushed
        lastShutdown := some false }
    | _ => { h with lastShutdown := some true }.report [.hubStopped flushed]
  let h := h.settle
  (h.lastShutdown = some true, h)

end TransitHub.Hub
