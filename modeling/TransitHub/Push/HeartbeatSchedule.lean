/-
# Heartbeats

A subscription with a heartbeat interval is sent a heartbeat as soon as a scan finds that the
interval has passed since the last one. The interval begins when a scan first sees the subscription,
and a subscription that is not listed any more is forgotten.
-/

import TransitHub.Push.Dispatcher

namespace TransitHub

/-- The instant of the last heartbeat of each subscription, or of the scan that first saw it. -/
structure HeartbeatSchedule where
  lastSent : Std.ExtTreeMap String Instant compare := ∅

namespace HeartbeatSchedule

/-- Forget subscriptions that are not listed. -/
def retain (h : HeartbeatSchedule) (active : List Subscription) : HeartbeatSchedule :=
  ⟨h.lastSent.filter fun id _ => active.any fun s => s.id = id⟩

/-- The subscriptions whose heartbeat is due, and the schedule after sending it. -/
def due (now : Instant) : List Subscription → HeartbeatSchedule →
    List Subscription × HeartbeatSchedule
  | [], h => ([], h)
  | s :: rest, h =>
    if s.heartbeatInterval = 0 then due now rest h
    else
      let last := h.lastSent[s.id]?.getD now
      if s.heartbeatInterval ≤ now.since last then
        let (found, h) := due now rest ⟨h.lastSent.insert s.id now⟩
        (s :: found, h)
      else due now rest ⟨h.lastSent.insert s.id last⟩

/-- Submit heartbeats one after another and count those that were queued. A builder that crashes
ends this. -/
def sendEach (wall : Timestamp) (count : Nat) : List Subscription → Dispatcher →
    Option Nat × Dispatcher
  | [], d => (some count, d)
  | s :: rest, d =>
    match d.sendHeartbeat wall s with
    | (.queued, d) => sendEach wall (count + 1) rest d
    | (.refused, d) => sendEach wall count rest d
    | (.crashed, d) => (none, d)

/-- Send what is due at an instant. The answer is the number of heartbeats that were queued, or
nothing if the builder crashed. -/
def scan (h : HeartbeatSchedule) (d : Dispatcher) (wall : Timestamp) (now : Instant) :
    Option Nat × HeartbeatSchedule × Dispatcher :=
  let active := d.outbound.registry.list wall
  let (found, h) := due now active (h.retain active)
  match sendEach wall 0 found d with
  | (some sent, d) => (some sent, h, d.report [.heartbeatsScanned active.length sent])
  | (none, d) => (none, h, d)

end HeartbeatSchedule

end TransitHub
