/-
# Hubs that a run can reach

What holds of every hub that a run leads to, whatever the run: the builder and the limit of payloads
are those that the hub began with, the parts of the registry agree, and the workers are at rest. A
dispatcher keeps this up move by move, jobs included, since all that a job tells the registry is a
success or a failure.
-/

import TransitHub.Proofs.Hub.Spawned
import TransitHub.Proofs.Push.Delivery

namespace TransitHub

namespace Dispatcher

variable {c : Clock} {d d' : Dispatcher} {builder : PayloadBuilder} {limit : Nat}

/-- What a dispatcher keeps up. -/
structure Sound (builder : PayloadBuilder) (limit : Nat) (now : Instant) (d : Dispatcher) :
    Prop where
  builder : d.builder = builder
  maxElements : d.maxElements = limit
  coherent : d.registry.Coherent now

theorem Queued.sound {jobs : List PushJob} {now : Instant} (h : Queued d jobs d')
    (hsound : d.Sound builder limit now) : d'.Sound builder limit now where
  builder := h.builder.trans hsound.builder
  maxElements := h.maxElements.trans hsound.maxElements
  coherent := by
    show d'.outbound.registry.Coherent now
    rw [h.registry]
    exact hsound.coherent

theorem coherent_settle (h : d.registry.Coherent c.now) :
    (d.settle c.now).registry.Coherent c.now := by
  have hsettles := WorkerPool.settle_settles (Outbound.work c.now) d.pool d.outbound
  refine (hsettles.keeps (P := fun _ => True) (I := fun o => o.registry.Coherent c.now)
    (fun job o _ ho => ?_) ⟨fun _ _ => trivial, fun _ _ => trivial⟩ h).2
  obtain ⟨_, -, hposting⟩ := Outbound.work_posting c.now job o
  exact ⟨hposting.coherent ho, fun _ _ => trivial⟩

theorem Sound.afterOp (h : d.Sound builder limit c.now) (op : RegistryOp) :
    (d.afterOp c op).Sound builder limit c.now where
  builder := h.builder
  maxElements := h.maxElements
  coherent := Registry.Coherent.performed h.coherent (d.registry.perform_performed c op)

theorem Quiet.sound (hquiet : Quiet c d d') (h : d.Sound builder limit c.now) :
    d'.Sound builder limit c.now := by
  cases hquiet with
  | report es => exact ⟨h.builder, h.maxElements, h.coherent⟩
  | registry op => exact h.afterOp op
  | notice s content =>
    obtain ⟨jobs, hjobs⟩ := d.queued_submit c.wall s [content]
    exact hjobs.sound h
  | settle => exact ⟨h.builder, h.maxElements, coherent_settle h.coherent⟩
  | close => exact ⟨h.builder, h.maxElements, h.coherent⟩
  | script address replies => exact ⟨h.builder, h.maxElements, h.coherent⟩
  | release address n => exact ⟨h.builder, h.maxElements, h.coherent⟩

theorem Move.sound (hmove : Move c d d') (h : d.Sound builder limit c.now) :
    d'.Sound builder limit c.now := by
  cases hmove with
  | quiet hquiet => exact hquiet.sound h
  | requested id request => exact h.afterOp (.subscribe id request)
  | delivered kind s documents =>
    obtain ⟨jobs, hjobs⟩ := d.queued_deliver c.wall kind s documents
    exact hjobs.sound h

theorem Moves.sound (hpath : Moves c d d') (h : d.Sound builder limit c.now) :
    d'.Sound builder limit c.now := by
  induction hpath with
  | refl => exact h
  | tail _ hmove ih => exact hmove.sound ih

end Dispatcher

namespace Hub

variable {config : HubConfig} {producer : String} {h h' : Hub}

/-- Whether a run leads from a new hub to this one. -/
def Reached (config : HubConfig) (producer : String) (h : Hub) : Prop :=
  ∃ clock hash ops, h = (Hub.new config (.json producer) clock hash).run ops

/-- What a hub keeps up between operations. -/
structure Sound (config : HubConfig) (producer : String) (h : Hub) : Prop where
  dispatcher : h.dispatcher.Sound (.json producer) config.maxElements.toNat h.now
  atRest : h.dispatcher.pool.AtRest

theorem Moves.sound (hpath : Moves h h') {builder : PayloadBuilder} {limit : Nat}
    (hsound : h.dispatcher.Sound builder limit h.now) :
    h'.dispatcher.Sound builder limit h'.now := by
  induction hpath with
  | refl => exact hsound
  | tail _ hchange ih =>
    cases hchange with
    | dispatch hpath hclock =>
      rw [now, hclock]
      exact Dispatcher.Moves.sound hpath ih
    | feed _ _ _ _ hclock hdispatcher =>
      rw [now, hclock, hdispatcher]
      exact ih
    | pass t hclock _ hdispatcher =>
      rw [now, hclock, hdispatcher]
      exact ⟨ih.builder, ih.maxElements, ih.coherent.later (t.now_le_apply _)⟩

theorem sound_new (config : HubConfig) (producer : String) (clock : Clock)
    (hash : String → Fingerprint) :
    (Hub.new config (.json producer) clock hash).Sound config producer where
  dispatcher := ⟨rfl, rfl, Registry.coherent_empty clock.now⟩
  atRest := rfl

theorem Sound.perform (hsound : h.Sound config producer) (op : HubOp) :
    (h.perform op).Sound config producer where
  dispatcher := (h.moves_perform op).sound hsound.dispatcher
  atRest := h.atRest_perform op hsound.atRest

theorem Reached.sound (hreached : h.Reached config producer) : h.Sound config producer := by
  obtain ⟨clock, hash, ops, rfl⟩ := hreached
  exact run_induction ops (sound_new config producer clock hash) fun _ op hsound =>
    hsound.perform op

end Hub

end TransitHub
