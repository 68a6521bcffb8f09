/-
# Posting pushes

What jobs act on: the registry, which learns of successes and failures, the transport, and the
record of what was posted and reported. A job posts the payloads of one subscription in their order
and ends with the first one that fails. Only a job that posted all of them counts as a success. When
the transport breaks down the job breaks down with it, and the registry learns nothing.
-/

import TransitHub.Log.Event
import TransitHub.Push.Payload
import TransitHub.Push.Registry
import TransitHub.Push.Transport
import TransitHub.Push.WorkerPool

namespace TransitHub

/-- One call of the transport. -/
structure Post where
  /-- The identifier of the subscription. -/
  subscription : String
  address : String
  payload : Payload
  reply : Reply
  madeAt : Instant

/-- A job: what remains to be posted to one subscription. -/
structure PushJob where
  subscription : Subscription
  /-- The payloads that have not been posted, the next one first. -/
  payloads : List Payload
  /-- How many there were. -/
  chunks : Nat

/-- What jobs act on. -/
structure Outbound where
  registry : Registry := .empty
  transport : Transport := {}
  /-- Every post, in the order of the calls. -/
  posts : List Post := []
  /-- Every report, the latest first. -/
  journal : List LogEvent := []

/-- The report of a directory that was built. -/
def Rebuild.event (b : Rebuild) : LogEvent :=
  .directoryRebuilt b.version b.subscriptions b.staleStreaks

namespace Outbound

def report (o : Outbound) (es : List LogEvent) : Outbound :=
  { o with journal := es.reverse ++ o.journal }

/-- Tell the registry of a push that failed at an instant. -/
def noteFailure (o : Outbound) (now failedAt : Instant) (s : Subscription) (e : PushError) :
    FailureOutcome × Outbound :=
  let (outcome, registry) := o.registry.noteFailure now failedAt s
  let o := { o with registry }
  (outcome, match outcome with
    | .cancelled failingFor grace rebuild => o.report [
        rebuild.event, .subscriptionTerminated s.id rebuild.version,
        .autoCancelled s.id s.address failingFor grace e.message]
    | .ignored => o
    | .degraded _ => o)

/-- Tell the registry that everything was posted to a subscription. -/
def noteSuccess (o : Outbound) (id : String) : Outbound :=
  let (recovered, registry) := o.registry.noteSuccess id
  let o := { o with registry }
  if recovered then o.report [.recovered id] else o

/-- Post one payload; the answer is what the script says. -/
def post (o : Outbound) (now : Instant) (s : Subscription) (p : Payload) : Reply × Outbound :=
  let (reply, transport) := o.transport.next s.address
  (reply, { o with transport, posts := o.posts ++ [⟨s.id, s.address, p, reply, now⟩] })

/-- Post the payloads that remain of `chunks`. -/
def send (now : Instant) (s : Subscription) (chunks : Nat) :
    List Payload → Outbound → Progress PushJob × Outbound
  | [], o => (.finished, o.noteSuccess s.id)
  | p :: rest, o =>
    let chunk := chunks - rest.length
    let (reply, o) := (o.report [.sendAttempted s.id s.address chunk chunks]).post now s p
    match reply with
    | .accept => send now s chunks rest o
    | .fail e =>
      let o := o.report [.sendFailed s.id s.address chunk chunks e.message]
      (.finished, (o.noteFailure now now s e).2)
    | .crash => (.crashed, o.report [.jobCrashed])
    | .hold =>
      match o.transport.takePermit? s.address with
      | some transport => send now s chunks rest { o with transport }
      | none => (.held ⟨s, rest, chunks⟩, o)

/-- What a worker does with a job. -/
def work (now : Instant) (job : PushJob) (o : Outbound) : Progress PushJob × Outbound :=
  send now job.subscription job.chunks job.payloads o

end Outbound

end TransitHub
