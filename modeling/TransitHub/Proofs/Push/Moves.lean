/-
# What a dispatcher does, move by move

Everything that happens to a dispatcher is a path of small moves: it reports something, an operation
is performed on its registry, a job is submitted, the workers go on, the queue is closed, and posts
get other replies or may go on. The clocks stand still on a path.

Most moves are quiet: no subscription is accepted, and no job with entities is submitted. What every
move keeps up holds whatever a dispatcher does; what quiet moves keep up holds between the requests
and the batches.
-/

import Mathlib.Logic.Relation
import TransitHub.Proofs.Push.Job
import TransitHub.Push.HeartbeatSchedule

namespace TransitHub

/-- Whether an operation is no request for a subscription. -/
def RegistryOp.IsQuiet : RegistryOp → Prop
  | .subscribe .. => False
  | _ => True

/-- Whether there are no entities in a content. -/
def Content.IsNotice : Content → Prop
  | .entities .. => False
  | .heartbeat => True
  | .termination => True

namespace Dispatcher

variable {c : Clock} {d d' : Dispatcher}

def registry (d : Dispatcher) : Registry := d.outbound.registry

/-- The dispatcher with another registry. -/
def withRegistry (d : Dispatcher) (registry : Registry) : Dispatcher :=
  { d with outbound := { d.outbound with registry } }

/-- The dispatcher after an operation on its registry. -/
def afterOp (d : Dispatcher) (c : Clock) (op : RegistryOp) : Dispatcher :=
  d.withRegistry (d.registry.perform c op)

/-- Replace the script of an address. -/
def setScript (d : Dispatcher) (address : String) (replies : List Reply) : Dispatcher :=
  { d with
    outbound := { d.outbound with transport := d.outbound.transport.setScript address replies } }

/-- The quiet moves. -/
inductive Quiet (c : Clock) (d : Dispatcher) : Dispatcher → Prop
  | report (es : List LogEvent) : Quiet c d (d.report es)
  | registry (op : RegistryOp) (hop : op.IsQuiet) : Quiet c d (d.afterOp c op)
  | notice (s : Subscription) (content : Content) (hnotice : content.IsNotice) :
      Quiet c d (d.submit c.wall s [content]).2
  | settle : Quiet c d (d.settle c.now)
  | close : Quiet c d d.close
  | script (address : String) (replies : List Reply) : Quiet c d (d.setScript address replies)
  | release (address : String) (n : Nat) : Quiet c d (d.release address n)

/-- All moves. -/
inductive Move (c : Clock) (d : Dispatcher) : Dispatcher → Prop
  | quiet {d' : Dispatcher} (hquiet : Quiet c d d') : Move c d d'
  | requested (id : String) (request : SubscriptionRequest) :
      Move c d (d.afterOp c (.subscribe id request))
  | delivered (kind : DataKind) (s : Subscription) (documents : List (Except String Json)) :
      Move c d (d.deliver c.wall kind s documents).2

/-- Quiet moves one after another. -/
abbrev Quietly (c : Clock) : Dispatcher → Dispatcher → Prop := Relation.ReflTransGen (Quiet c)

/-- Moves one after another. -/
abbrev Moves (c : Clock) : Dispatcher → Dispatcher → Prop := Relation.ReflTransGen (Move c)

theorem Quiet.path (h : Quiet c d d') : Quietly c d d' := .single h

theorem Move.path (h : Move c d d') : Moves c d d' := .single h

theorem Quietly.moves (h : Quietly c d d') : Moves c d d' :=
  Relation.ReflTransGen.mono (fun _ _ hquiet => Move.quiet hquiet) _ _ h

/-! ## The functions of a dispatcher as paths -/

theorem quietly_terminate (c : Clock) (d : Dispatcher) (id : String) :
    Quietly c d (d.terminate c.now id).2 := by
  have hregistry : Quietly c d (d.afterOp c (.terminate id)) :=
    (Quiet.registry (.terminate id) trivial).path
  unfold terminate
  dsimp only
  split
  · exact hregistry
  · exact hregistry.tail (.report _)

theorem quietly_refresh (c : Clock) (d : Dispatcher) : Quietly c d (d.refresh c.now).2 :=
  (Quiet.registry .refresh trivial).path.tail (.report _)

theorem quietly_matching (c : Clock) (d : Dispatcher) (kind : DataKind) (dataset : String) :
    Quietly c d (d.matching c kind dataset).2 :=
  (Quiet.registry (.lookup kind dataset) trivial).path.tail (.report _)

theorem moves_subscribe (c : Clock) (d : Dispatcher) (id : String) (request : SubscriptionRequest) :
    Moves c d (d.subscribe c id request).2 := by
  have hregistry : Moves c d (d.afterOp c (.subscribe id request)) := (Move.requested id request).path
  unfold subscribe
  dsimp only
  split
  · exact hregistry.tail (.quiet (.report _))
  · exact hregistry.tail (.quiet (.report _))

theorem moves_deliverEach {α : Type} (c : Clock) (p : Profile α) (dataset : String)
    (changed : List α) (count : Nat) (subscriptions : List Subscription) (d : Dispatcher) :
    Moves c d (deliverEach p c.wall dataset changed count subscriptions d).2 := by
  induction subscriptions generalizing d count with
  | nil => exact .refl
  | cons s rest ih =>
    unfold deliverEach
    split
    · have hdelivered : Moves c d (d.deliver c.wall p.kind s
          ((selected p s changed).map fun e => .ok (p.toJson e))).2 :=
        (Move.delivered p.kind s _).path
      dsimp only
      split
      · exact hdelivered.trans (ih _ _)
      · exact hdelivered.trans (ih _ _)
      · exact hdelivered
    · exact ih count d

theorem moves_onChange {α : Type} (c : Clock) (d : Dispatcher) (p : Profile α) (dataset : String)
    (changed : List α) : Moves c d (d.onChange c p dataset changed).2 := by
  unfold onChange
  split
  · exact .refl
  · have hmatched : Moves c d (d.matching c p.kind dataset).2 :=
      (d.quietly_matching c p.kind dataset).moves
    have heach := moves_deliverEach c p dataset changed 0 (d.matching c p.kind dataset).1
      (d.matching c p.kind dataset).2
    dsimp only
    split
    · next hcount =>
      rw [hcount] at heach
      exact (hmatched.trans heach).tail (.quiet (.report _))
    · next hcount =>
      rw [hcount] at heach
      exact hmatched.trans heach

end Dispatcher

namespace HeartbeatSchedule

theorem quietly_sendEach (c : Clock) (count : Nat) (due : List Subscription) (d : Dispatcher) :
    Dispatcher.Quietly c d (sendEach c.wall count due d).2 := by
  induction due generalizing d count with
  | nil => exact .refl
  | cons s rest ih =>
    have hsent : Dispatcher.Quietly c d (d.sendHeartbeat c.wall s).2 :=
      (Dispatcher.Quiet.notice s .heartbeat trivial).path
    unfold sendEach
    split
    · next hanswer => rw [hanswer] at hsent; exact hsent.trans (ih _ _)
    · next hanswer => rw [hanswer] at hsent; exact hsent.trans (ih _ _)
    · next hanswer => rw [hanswer] at hsent; exact hsent

/-- A scan submits heartbeats and leaves the registry to itself. -/
theorem quietly_scan (c : Clock) (h : HeartbeatSchedule) (d : Dispatcher) (now : Instant) :
    Dispatcher.Quietly c d (h.scan d c.wall now).2.2 := by
  have hsent := quietly_sendEach c 0
    (due now (d.outbound.registry.list c.wall) (h.retain (d.outbound.registry.list c.wall))).1 d
  unfold scan
  dsimp only
  split
  · next hanswer => rw [hanswer] at hsent; exact hsent.tail (.report _)
  · next hanswer => rw [hanswer] at hsent; exact hsent

end HeartbeatSchedule

end TransitHub
