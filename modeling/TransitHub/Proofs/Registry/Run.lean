/-
# Runs of a registry

A run of a registry is a sequence of operations with time passing in between: requests, terminations
and matches, pushes that failed or went through, reads, sweeps and rebuilds of the directory, in any
order. The clocks stand still during an operation. Which pushes there are is left open: a run may
have any push to any setup fail or go through at any moment, so that whatever a dispatcher does to
its registry is a run.

`Coherent` is what a run keeps up between the three parts of a registry. What is live is listed in
the directory, which lists an identifier once; what is failing is listed too, and began to fail
before now, unless it is live and fails just now.
-/

import TransitHub.Proofs.Store.Liveness
import TransitHub.Proofs.Time.Passing
import TransitHub.Push.Registry

namespace TransitHub

/-- One operation on a registry, or the passing of time. -/
inductive RegistryOp
  | subscribe (id : String) (request : SubscriptionRequest)
  | terminate (id : String)
  | refresh
  | lookup (kind : DataKind) (dataset : String)
  /-- A push to a subscription failed. -/
  | failure (s : Subscription)
  /-- Everything was posted to a subscription. -/
  | success (id : String)
  /-- A subscription is asked for by its identifier. -/
  | touch (id : String)
  /-- The subscriptions are listed, as for a status or for a scan for heartbeats. -/
  | list
  | sweep
  | pass (t : TimeStep)

/-- The clocks after an operation. -/
def RegistryOp.clock (c : Clock) : RegistryOp → Clock
  | .pass t => t.apply c
  | _ => c

theorem RegistryOp.now_le_clock (c : Clock) (op : RegistryOp) : c.now ≤ (op.clock c).now := by
  cases op with
  | pass t => exact t.now_le_apply c
  | _ => exact Int.le_refl c.now

/-- Perform one operation. -/
def Registry.perform (r : Registry) (c : Clock) : RegistryOp → Registry
  | .subscribe id request => (r.subscribe c id request).2
  | .terminate id => (r.terminate c.now id).2
  | .refresh => (r.refresh c.now).2
  | .lookup kind dataset => (r.lookup c kind dataset).2
  | .failure s => (r.noteFailure c.now c.now s).2
  | .success id => (r.noteSuccess id).2
  | .touch id => r.touch c.now id
  | .list => r
  | .sweep => r.sweep c.now
  | .pass _ => r

/-- A registry at a moment. -/
structure TimedRegistry where
  clock : Clock
  registry : Registry

namespace TimedRegistry

/-- A registry without subscriptions. -/
def start (c : Clock) : TimedRegistry := ⟨c, .empty⟩

/-- The registry after one operation more. -/
def next (t : TimedRegistry) (op : RegistryOp) : TimedRegistry where
  clock := op.clock t.clock
  registry := t.registry.perform t.clock op

/-- The operations of a run in their order. -/
def run (t : TimedRegistry) (ops : List RegistryOp) : TimedRegistry := ops.foldl next t

end TimedRegistry

namespace Registry

variable {r : Registry} {now : Instant} {c : Clock}

/-- The live slot of a subscription. -/
def slot? (r : Registry) (now : Instant) (id : String) : Option (Slot Subscription) :=
  r.subscriptions.live? now id

theorem get?_eq (r : Registry) (now : Instant) (id : String) :
    r.get? now id = (r.slot? now id).map Slot.value := rfl

theorem contains_eq (r : Registry) (now : Instant) (id : String) :
    r.contains now id = (r.slot? now id).isSome := rfl

theorem contains_iff {id : String} : r.contains now id = true ↔ ∃ s, r.get? now id = some s := by
  rw [contains_eq, get?_eq]
  cases r.slot? now id <;> simp

theorem mem_live {s : Subscription} : s ∈ r.live now ↔ ∃ id, r.get? now id = some s := by
  simp only [live, List.mem_map, Prod.exists, TtlStore.mem_values, TtlStore.mem_keys]
  constructor
  · intro h
    obtain ⟨id, s', ⟨-, hs⟩, rfl⟩ := h
    exact ⟨id, hs⟩
  · intro h
    obtain ⟨id, hs⟩ := h
    exact ⟨id, s, ⟨⟨⟨s, hs⟩, trivial⟩, hs⟩, rfl⟩

/-! ## What the operations do to the parts -/

@[simp]
theorem slot?_drop (r : Registry) (now : Instant) (id id' : String) :
    (r.drop id).slot? now id' = if id = id' then none else r.slot? now id' :=
  r.subscriptions.live?_erase now id id'

@[simp]
theorem start?_drop (r : Registry) (id id' : String) :
    (r.drop id).streaks.start? id' = if id = id' then none else r.streaks.start? id' :=
  r.streaks.start?_clear id id'

theorem slot?_foldl_drop (r : Registry) (now : Instant) (ended : List Subscription) (id : String) :
    (ended.foldl (fun r s => r.drop s.id) r).slot? now id =
      if id ∈ ended.map Subscription.id then none else r.slot? now id := by
  induction ended generalizing r with
  | nil => rfl
  | cons s rest ih =>
    rw [List.foldl_cons, ih, slot?_drop]
    by_cases hs : s.id = id
    · simp [hs]
    · simp [hs, Ne.symm hs]

theorem start?_foldl_drop {ended : List Subscription} {id : String} {start : Instant}
    (h : (ended.foldl (fun r s => r.drop s.id) r).streaks.start? id = some start) :
    r.streaks.start? id = some start ∧ id ∉ ended.map Subscription.id := by
  induction ended generalizing r with
  | nil => exact ⟨h, List.not_mem_nil⟩
  | cons s rest ih =>
    obtain ⟨hstart, hrest⟩ := ih h
    rw [start?_drop, Option.ite_none_left_eq_some] at hstart
    refine ⟨hstart.2, ?_⟩
    rw [List.map_cons, List.mem_cons, not_or]
    exact ⟨Ne.symm hstart.1, hrest⟩

/-- Building the directory leaves the subscriptions alone. -/
@[simp]
theorem slot?_refresh (r : Registry) (now : Instant) (id : String) :
    (r.refresh now).2.slot? now id = r.slot? now id := rfl

theorem start?_refresh {id : String} {start : Instant} :
    (r.refresh now).2.streaks.start? id = some start ↔
      r.streaks.start? id = some start ∧ r.contains now id = true := by
  show (r.streaks.retain (r.contains now)).start? id = some start ↔ _
  rw [FailureStreaks.start?_retain, Option.filter_eq_some_iff]

/-! ## Requests -/

/-- A request that is accepted leads to a subscription that it describes. -/
theorem accept_ok {id : String} {request : SubscriptionRequest} {s : Subscription} {ttl : Duration}
    (h : r.accept c id request = .ok (s, ttl)) :
    ∃ address, s = request.subscription id address c.wall ∧
      retention request c.wall = .ok ttl := by
  unfold accept at h
  split at h
  · exact nomatch h
  · next address _ =>
    split at h
    · exact nomatch h
    · next ttl' hretention =>
      have haccepted : request.subscription id address c.wall = s ∧ ttl' = ttl := by
        split at h
        · split at h
          · exact Prod.mk.inj (Except.ok.inj h)
          · exact nomatch h
        · exact Prod.mk.inj (Except.ok.inj h)
      exact ⟨address, haccepted.1.symm, by rw [hretention, haccepted.2]⟩

theorem id_of_accept {id : String} {request : SubscriptionRequest} {s : Subscription}
    {ttl : Duration} (h : r.accept c id request = .ok (s, ttl)) : s.id = id := by
  obtain ⟨address, rfl, -⟩ := accept_ok h
  rfl

theorem retention_pos {request : SubscriptionRequest} {wall : Timestamp} {ttl : Duration}
    (h : retention request wall = .ok ttl) : ttl ≠ 0 := by
  unfold retention at h
  split at h
  · rw [← Except.ok.inj h, openEndedRetention]
    decide
  · split at h
    · next hpos =>
      rw [← Except.ok.inj h]
      exact fun hzero => Int.not_lt.2 (Int.toNat_eq_zero.1 hzero) hpos
    · exact nomatch h

/-- The registry after a subscription was put into it, before its directory is built anew. -/
def put (r : Registry) (now : Instant) (s : Subscription) (ttl : Duration) : Registry :=
  { r with subscriptions := r.subscriptions.put now s.id s ttl }

theorem slot?_put (r : Registry) (now : Instant) (s : Subscription) {ttl : Duration}
    (h : ttl ≠ 0) (id : String) :
    (r.put now s ttl).slot? now id =
      if s.id = id then some ⟨s, now.deadline ttl⟩ else r.slot? now id := by
  show (r.subscriptions.put now s.id s ttl).live? now id = _
  rw [TtlStore.live?_put, if_neg h]
  rfl

theorem get?_refresh_put (r : Registry) (now : Instant) (s : Subscription) {ttl : Duration}
    (h : ttl ≠ 0) (id : String) :
    ((r.put now s ttl).refresh now).2.get? now id =
      if s.id = id then some s else r.get? now id := by
  rw [get?_eq, slot?_refresh, slot?_put r now s h]
  split <;> rfl

/-! ## The ways an operation can go -/

/-- The registry after a push to a subscription failed, before anything is cancelled. -/
def fail (r : Registry) (now : Instant) (id : String) : Registry :=
  { r with streaks := r.streaks.record id now }

/-- The registry after a streak was ended. -/
def recover (r : Registry) (id : String) : Registry := { r with streaks := r.streaks.clear id }

/-- The subscriptions of a kind that the directory lists past their end. -/
def ended (r : Registry) (wall : Timestamp) (kind : DataKind) : List Subscription :=
  (r.directory.entries.filter fun s => s.kind = kind).filter fun s => s.isExpired wall

/-- Whether a push to `s` that fails now cancels the subscription with its identifier: the streak,
that begins now at the latest, is longer than the grace period of `s`. -/
def cancels (r : Registry) (now : Instant) (s : Subscription) : Bool :=
  FailureStreaks.gracePeriod s.heartbeatInterval < now.since ((r.streaks.start? s.id).getD now)

@[simp]
theorem start?_fail (r : Registry) (now : Instant) (id id' : String) :
    (r.fail now id).streaks.start? id' =
      if id = id' then some ((r.streaks.start? id).getD now) else r.streaks.start? id' :=
  r.streaks.start?_record id id' now

@[simp]
theorem start?_recover (r : Registry) (id id' : String) :
    (r.recover id).streaks.start? id' = if id = id' then none else r.streaks.start? id' :=
  r.streaks.start?_clear id id'

@[simp]
theorem slot?_touch (r : Registry) (now : Instant) (id id' : String) :
    (r.touch now id).slot? now id' = r.slot? now id' :=
  r.subscriptions.live?_touch now id id'

@[simp]
theorem slot?_sweep (r : Registry) (now : Instant) (id : String) :
    (r.sweep now).slot? now id = r.slot? now id :=
  r.subscriptions.live?_sweep now id

/-- The ways an operation can go, each with what decides and with the registry that it leaves. -/
inductive Performed (r : Registry) (c : Clock) : RegistryOp → Registry → Prop
  | accepted (id : String) (request : SubscriptionRequest) (s : Subscription) (ttl : Duration)
      (haccept : r.accept c id request = .ok (s, ttl)) :
      Performed r c (.subscribe id request) ((r.put c.now s ttl).refresh c.now).2
  | rejected (id : String) (request : SubscriptionRequest) (e : Rejection)
      (haccept : r.accept c id request = .error e) : Performed r c (.subscribe id request) r
  | unknown (id : String) (habsent : r.slot? c.now id = none) :
      Performed r c (.terminate id) (r.drop id)
  | terminated (id : String) (slot : Slot Subscription) (hlive : r.slot? c.now id = some slot) :
      Performed r c (.terminate id) ((r.drop id).refresh c.now).2
  | rebuilt : Performed r c .refresh (r.refresh c.now).2
  | matched (kind : DataKind) (dataset : String) (hnone : r.ended c.wall kind = []) :
      Performed r c (.lookup kind dataset) r
  | ended (kind : DataKind) (dataset : String) (hsome : r.ended c.wall kind ≠ []) :
      Performed r c (.lookup kind dataset)
        (((r.ended c.wall kind).foldl (fun r s => r.drop s.id) r).refresh c.now).2
  | ignored (s : Subscription) (habsent : r.contains c.now s.id = false) :
      Performed r c (.failure s) (r.recover s.id)
  | degraded (s : Subscription) (hlive : r.contains c.now s.id = true)
      (hgrace : r.cancels c.now s = false) : Performed r c (.failure s) (r.fail c.now s.id)
  | cancelled (s : Subscription) (hlive : r.contains c.now s.id = true)
      (hgrace : r.cancels c.now s = true) :
      Performed r c (.failure s) (((r.fail c.now s.id).drop s.id).refresh c.now).2
  | succeeded (id : String) : Performed r c (.success id) (r.recover id)
  | touched (id : String) : Performed r c (.touch id) (r.touch c.now id)
  | listed : Performed r c .list r
  | swept : Performed r c .sweep (r.sweep c.now)
  | passed (t : TimeStep) : Performed r c (.pass t) r

theorem exceeds_fail (r : Registry) (now : Instant) (s : Subscription) :
    (r.fail now s.id).streaks.exceeds s.id (FailureStreaks.gracePeriod s.heartbeatInterval) now =
      r.cancels now s := by
  rw [FailureStreaks.exceeds, FailureStreaks.failingFor?, start?_fail, if_pos rfl, Option.map_some,
    Option.any_some, cancels]

/-- Every operation goes one of these ways. -/
theorem perform_performed (r : Registry) (c : Clock) (op : RegistryOp) :
    Performed r c op (r.perform c op) := by
  cases op with
  | subscribe id request =>
    simp only [perform, Registry.subscribe]
    cases haccept : r.accept c id request with
    | error e => exact .rejected id request e haccept
    | ok answer =>
      obtain ⟨s, ttl⟩ := answer
      have hid := id_of_accept haccept
      subst hid
      exact .accepted s.id request s ttl haccept
  | terminate id =>
    simp only [perform, Registry.terminate, get?_eq]
    cases hlive : r.slot? c.now id with
    | none => exact .unknown id hlive
    | some slot => exact .terminated id slot hlive
  | refresh => exact .rebuilt
  | lookup kind dataset =>
    simp only [perform, Registry.lookup]
    by_cases hnone : r.ended c.wall kind = []
    · have hempty : (r.ended c.wall kind).isEmpty = true := by rw [hnone]; rfl
      rw [Registry.ended] at hempty
      rw [if_pos hempty]
      exact .matched kind dataset hnone
    · have hempty : (r.ended c.wall kind).isEmpty = false := by simpa using hnone
      rw [Registry.ended] at hempty
      rw [if_neg (by rw [hempty]; exact Bool.false_ne_true)]
      exact .ended kind dataset hnone
  | failure s =>
    simp only [perform, Registry.noteFailure]
    cases hlive : r.contains c.now s.id with
    | false => exact .ignored s hlive
    | true =>
      have hexceeds := r.exceeds_fail c.now s
      rw [fail] at hexceeds
      rw [if_pos rfl, hexceeds]
      cases hgrace : r.cancels c.now s with
      | false => exact .degraded s hlive hgrace
      | true => exact .cancelled s hlive hgrace
  | success id => exact .succeeded id
  | touch id => exact .touched id
  | list => exact .listed
  | sweep => exact .swept
  | pass t => exact .passed t

/-- Only a failure starts a streak: of its own subscription, if that has none, and now. -/
theorem Performed.start?_some {r' : Registry} {op : RegistryOp} (h : Performed r c op r')
    {id : String} {start : Instant} (hstart : r'.streaks.start? id = some start) :
    r.streaks.start? id = some start ∨
      ∃ s, op = .failure s ∧ s.id = id ∧ r.streaks.start? id = none ∧ start = c.now := by
  cases h with
  | accepted => exact Or.inl (start?_refresh.1 hstart).1
  | rejected => exact Or.inl hstart
  | unknown =>
    rw [start?_drop, Option.ite_none_left_eq_some] at hstart
    exact Or.inl hstart.2
  | terminated =>
    have hdrop := (start?_refresh.1 hstart).1
    rw [start?_drop, Option.ite_none_left_eq_some] at hdrop
    exact Or.inl hdrop.2
  | rebuilt => exact Or.inl (start?_refresh.1 hstart).1
  | matched => exact Or.inl hstart
  | ended => exact Or.inl (start?_foldl_drop (start?_refresh.1 hstart).1).1
  | ignored =>
    rw [start?_recover, Option.ite_none_left_eq_some] at hstart
    exact Or.inl hstart.2
  | degraded s =>
    rw [start?_fail] at hstart
    split at hstart
    · next hid =>
      subst hid
      cases hbefore : r.streaks.start? s.id with
      | none =>
        rw [hbefore] at hstart
        exact Or.inr ⟨s, rfl, rfl, rfl, (Option.some.inj hstart).symm⟩
      | some earlier =>
        rw [hbefore] at hstart
        exact Or.inl hstart
    · exact Or.inl hstart
  | cancelled s =>
    have hdrop := (start?_refresh.1 hstart).1
    rw [start?_drop, Option.ite_none_left_eq_some] at hdrop
    rw [start?_fail, if_neg hdrop.1] at hdrop
    exact Or.inl hdrop.2
  | succeeded =>
    rw [start?_recover, Option.ite_none_left_eq_some] at hstart
    exact Or.inl hstart.2
  | touched => exact Or.inl hstart
  | listed => exact Or.inl hstart
  | swept => exact Or.inl hstart
  | passed => exact Or.inl hstart

end Registry

end TransitHub
