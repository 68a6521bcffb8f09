/-
# How long a subscription lives

An accepted subscription is kept until its termination time, or for a year if it has none. It goes
earlier only if it is terminated, if another request for its identifier takes its place, or if a
push to it fails after a streak longer than the grace period of the setup that was pushed to. Until
then every view of the registry reports it: reads of the store, the directory, the status, and the
matches of every change that concerns it.

Two clocks decide about the end. The store counts the time to live down on the monotonic clock, and
lookups compare the termination time with the wall clock. The two agree as long as the clocks are in
step; a termination time in a leap second counts as the second before it. The clocks start at an
arbitrary wall time and the origin of the monotonic clock.
-/

import TransitHub.Proofs.Registry.Acceptance

namespace TransitHub

/-- Whether a subscription that was accepted at a moment has come to its end: at its termination
time, or after a year without one. -/
def Subscription.HasEnded (s : Subscription) (accepted c : Clock) : Prop :=
  match s.termination with
  | some stop => stop.unleaped ≤ c.wall
  | none => accepted.now + Registry.openEndedRetention ≤ c.now

namespace Subscription

variable {s : Subscription} {accepted c : Clock}

theorem hasEnded_of_some {stop : Timestamp} (h : s.termination = some stop) :
    s.HasEnded accepted c ↔ stop.unleaped ≤ c.wall := by
  rw [HasEnded, h]

theorem hasEnded_of_none (h : s.termination = none) :
    s.HasEnded accepted c ↔ accepted.now + Registry.openEndedRetention ≤ c.now := by
  rw [HasEnded, h]

theorem isExpired_eq_false_iff {wall : Timestamp} :
    s.isExpired wall = false ↔ ∀ stop, s.termination = some stop → ¬ stop ≤ wall := by
  unfold isExpired
  cases s.termination <;> simp

/-- A subscription that has not ended is not past its termination time. -/
theorem isExpired_of_not_hasEnded (h : ¬ s.HasEnded accepted c) : s.isExpired c.wall = false := by
  rw [isExpired_eq_false_iff]
  intro stop hstop hle
  apply h
  rw [hasEnded_of_some hstop]
  exact Timestamp.le_trans stop.unleaped_le hle

theorem isExpired_of_le {wall wall' : Timestamp} (hle : wall ≤ wall')
    (h : s.isExpired wall' = false) : s.isExpired wall = false := by
  rw [isExpired_eq_false_iff] at h ⊢
  exact fun stop hstop hpast => h stop hstop (Timestamp.le_trans hpast hle)

end Subscription

namespace Registry

variable {r r' : Registry} {c : Clock} {s : Subscription} {deadline : Instant}

/-- Whether every view of the registry reports a subscription. -/
structure Reports (r : Registry) (c : Clock) (s : Subscription) : Prop where
  contained : r.contains c.now s.id = true
  gotten : r.get? c.now s.id = some s
  listed : s ∈ r.list c.wall
  in_status : (s, r.streaks.failingFor? s.id c.now) ∈ r.status c.wall c.now
  matched : ∀ kind dataset, s.concerns kind dataset = true →
    s ∈ (r.lookup c kind dataset).1.matching

theorem matching_lookup (r : Registry) (c : Clock) (kind : DataKind) (dataset : String) :
    (r.lookup c kind dataset).1.matching = (r.directory.entries.filter fun s => s.kind = kind).filter
      fun s => !s.isExpired c.wall && s.concerns kind dataset := by
  unfold lookup
  dsimp only
  split <;> rfl

/-- A subscription that is live and not past its termination time is reported everywhere. -/
theorem Coherent.reports (h : r.Coherent c.now) (hlive : r.slot? c.now s.id = some ⟨s, deadline⟩)
    (hends : s.isExpired c.wall = false) : r.Reports c s := by
  have hentry : s ∈ r.directory.entries := h.listed s.id _ hlive
  have hlisted : s ∈ r.list c.wall := List.mem_filter.2 ⟨hentry, by rw [hends]; rfl⟩
  refine ⟨?_, ?_, hlisted, List.mem_map.2 ⟨s, hlisted, rfl⟩, fun kind dataset hconcerns => ?_⟩
  · rw [contains_eq, hlive]
    rfl
  · rw [get?_eq, hlive]
    rfl
  · have hkind : s.kind = kind := by
      rw [Subscription.concerns, Bool.and_eq_true] at hconcerns
      exact of_decide_eq_true hconcerns.1
    rw [matching_lookup, List.mem_filter, List.mem_filter, hends, hconcerns]
    exact ⟨⟨hentry, decide_eq_true hkind⟩, rfl⟩

/-- Whether an operation ends the life of a subscription: it is terminated, it is replaced by an
accepted request for its identifier, or a push to its identifier fails after too long a streak. -/
def Ends (r : Registry) (c : Clock) (s : Subscription) : RegistryOp → Prop
  | .terminate id => id = s.id
  | .subscribe id request => id = s.id ∧ ∃ accepted, r.accept c id request = .ok accepted
  | .failure pushed => pushed.id = s.id ∧ r.cancels c.now pushed = true
  | _ => False

/-- No other operation touches the slot of a subscription that is not past its termination time. -/
theorem Performed.keeps (hcoherent : r.Coherent c.now) {op : RegistryOp}
    (hop : Performed r c op r') (hends : ¬ r.Ends c s op)
    (hexpired : s.isExpired c.wall = false)
    (hlive : r.slot? c.now s.id = some ⟨s, deadline⟩) :
    r'.slot? c.now s.id = some ⟨s, deadline⟩ := by
  cases hop with
  | accepted id request s' ttl haccept =>
    obtain ⟨_, -, hretention⟩ := accept_ok haccept
    have hother : s'.id ≠ s.id := fun hsame =>
      hends ⟨(id_of_accept haccept).symm.trans hsame, _, haccept⟩
    rw [slot?_refresh, slot?_put r c.now s' (retention_pos hretention), if_neg hother]
    exact hlive
  | rejected => exact hlive
  | unknown id =>
    have hother : id ≠ s.id := hends
    rw [slot?_drop, if_neg hother]
    exact hlive
  | terminated id =>
    have hother : id ≠ s.id := hends
    rw [slot?_refresh, slot?_drop, if_neg hother]
    exact hlive
  | rebuilt => exact hlive
  | matched => exact hlive
  | ended kind =>
    -- The directory lists an identifier once, so what it lists past its end is none of `s`.
    have hother : s.id ∉ (r.ended c.wall kind).map Subscription.id := by
      intro hmem
      obtain ⟨s', hs', hid⟩ := List.mem_map.1 hmem
      obtain ⟨hs', hpast⟩ := List.mem_filter.1 hs'
      obtain ⟨hs', -⟩ := List.mem_filter.1 hs'
      have hsame : s' = s := hcoherent.eq_of_listed hlive hs' hid
      rw [hsame, hexpired] at hpast
      exact nomatch hpast
    rw [slot?_refresh, slot?_foldl_drop, if_neg hother]
    exact hlive
  | ignored => exact hlive
  | degraded => exact hlive
  | cancelled pushed _ hgrace =>
    have hother : pushed.id ≠ s.id := fun hsame => hends ⟨hsame, hgrace⟩
    rw [slot?_refresh, slot?_drop, if_neg hother]
    exact hlive
  | succeeded => exact hlive
  | touched id => rw [slot?_touch]; exact hlive
  | listed => exact hlive
  | swept => rw [slot?_sweep]; exact hlive
  | passed => exact hlive

/-- A subscription with a termination time is kept for the time until then. -/
theorem retention_of_some {request : SubscriptionRequest} {stop wall : Timestamp} {ttl : Duration}
    (hstop : request.termination = some stop) (h : retention request wall = .ok ttl) :
    (ttl : Int) = stop.since wall := by
  simp only [retention, hstop] at h
  split at h
  · next hpos =>
    rw [← Except.ok.inj h]
    exact Int.toNat_of_nonneg (Int.le_of_lt hpos)
  · cases h

theorem retention_of_none {request : SubscriptionRequest} {wall : Timestamp} {ttl : Duration}
    (hstop : request.termination = none) (h : retention request wall = .ok ttl) :
    ttl = openEndedRetention := by
  simp only [retention, hstop] at h
  exact (Except.ok.inj h).symm

theorem retention_lt {request : SubscriptionRequest} {wall : Timestamp} {ttl : Duration}
    (h : retention request wall = .ok ttl) : (ttl : Int) < 4611686018427387904000000000 := by
  cases hstop : request.termination with
  | none =>
    rw [retention_of_none hstop h, openEndedRetention]
    decide
  | some stop =>
    have hsince := stop.since_lt wall
    have hlast := stop.nanos_lt
    have hleast := wall.le_nanos
    rw [retention_of_some hstop h]
    omega

/-- Counted from the origin of the monotonic clock, no deadline is out of its range. -/
theorem deadline_of_retention {origin c : Clock} {request : SubscriptionRequest} {ttl : Duration}
    (horigin : origin.now = 0) (hfirst : origin.InStep c)
    (h : retention request c.wall = .ok ttl) : c.now.deadline ttl = c.now + ttl := by
  have hnow : c.wall.nanos - origin.wall.nanos = c.now := by
    rw [hfirst.nanos, horigin, Int.sub_zero]
  have hlimit : Instant.limit = 9223372036854775808000000000 := by decide
  have hlast := c.wall.nanos_lt
  have hleast := origin.wall.le_nanos
  have hkept := retention_lt h
  have hrange : c.now + (ttl : Int) < Instant.limit := by
    apply Int.sub_pos.1
    rw [← hnow, hlimit]
    omega
  rw [Instant.deadline, if_pos hrange]

/-- In step with the moment of acceptance, a subscription that has not ended is before its
deadline. -/
theorem lt_deadline_of_not_hasEnded {origin accepted c : Clock} {id : String}
    {request : SubscriptionRequest} {ttl : Duration}
    (haccept : r.accept accepted id request = .ok (s, ttl)) (horigin : origin.now = 0)
    (hfirst : origin.InStep accepted) (hstep : accepted.InStep c)
    (hends : ¬ s.HasEnded accepted c) : c.now < accepted.now.deadline ttl := by
  obtain ⟨address, rfl, hretention⟩ := accept_ok haccept
  rw [deadline_of_retention horigin hfirst hretention]
  cases hstop : request.termination with
  | none =>
    have hkept : (request.subscription id address accepted.wall).termination = none := hstop
    rw [Subscription.hasEnded_of_none hkept] at hends
    rw [retention_of_none hstop hretention]
    exact Int.not_le.1 hends
  | some stop =>
    have hkept : (request.subscription id address accepted.wall).termination = some stop := hstop
    rw [Subscription.hasEnded_of_some hkept,
      Timestamp.le_iff_nanos_le stop.isLeap_unleaped hstep.to_leap] at hends
    have hsince := stop.le_since hfirst.to_leap
    have hpassed := hstep.nanos
    rw [retention_of_some hstop hretention]
    apply Int.sub_pos.1
    omega

end Registry

namespace RegistryOp

/-- Whether an operation leaves the clocks in step. -/
def Together (c : Clock) : RegistryOp → Prop
  | .pass t => t.Together c
  | _ => True

/-- Whether an operation neither terminates nor replaces the subscription of an identifier and is no
failed push to it. -/
def Spares (id : String) : RegistryOp → Prop
  | .terminate id' => id' ≠ id
  | .subscribe id' _ => id' ≠ id
  | .failure pushed => pushed.id ≠ id
  | _ => True

theorem Spares.not_ends {op : RegistryOp} {s : Subscription} (h : op.Spares s.id) (r : Registry)
    (c : Clock) : ¬ r.Ends c s op := by
  intro hends
  cases op with
  | terminate id' => exact h hends
  | subscribe id' request => exact h hends.1
  | failure pushed => exact h hends.1
  | _ => exact hends

end RegistryOp

namespace TimedRegistry

open Registry

variable {t : TimedRegistry} {s : Subscription} {deadline : Instant}

/-- Whether the clocks stay in step over a run that begins at a moment. -/
def Together (c : Clock) : List RegistryOp → Prop
  | [] => True
  | op :: ops => op.Together c ∧ Together (op.clock c) ops

theorem inStep_clock {op : RegistryOp} {c : Clock} (h : op.Together c)
    (hleap : c.wall.isLeap = false) : c.InStep (op.clock c) := by
  cases op with
  | pass time => exact h.inStep hleap
  | _ => exact .refl hleap

theorem inStep_run {ops : List RegistryOp} (h : Together t.clock ops)
    (hleap : t.clock.wall.isLeap = false) : t.clock.InStep (t.run ops).clock := by
  induction ops generalizing t with
  | nil => exact .refl hleap
  | cons op rest ih =>
    have hstep : t.clock.InStep (t.next op).clock := inStep_clock h.1 hleap
    exact hstep.trans (ih h.2 hstep.to_leap)

theorem now_le_run (t : TimedRegistry) (ops : List RegistryOp) :
    t.clock.now ≤ (t.run ops).clock.now := by
  induction ops generalizing t with
  | nil => exact Int.le_refl _
  | cons op rest ih => exact Int.le_trans (op.now_le_clock t.clock) (ih (t.next op))

/-- Whether one of the operations of a run ends the life of a subscription. -/
def EndsIn (t : TimedRegistry) (s : Subscription) (ops : List RegistryOp) : Prop :=
  ∃ earlier op rest, ops = earlier ++ op :: rest ∧
    (t.run earlier).registry.Ends (t.run earlier).clock s op

theorem EndsIn.cons {op : RegistryOp} {ops : List RegistryOp} (h : (t.next op).EndsIn s ops) :
    t.EndsIn s (op :: ops) := by
  obtain ⟨earlier, op', rest, hops, hends⟩ := h
  exact ⟨op :: earlier, op', rest, by rw [hops]; rfl, hends⟩

/-- One operation that does not end its life keeps a subscription that is before its deadline. -/
theorem slot?_next (hcoherent : t.Coherent) {op : RegistryOp}
    (hends : ¬ t.registry.Ends t.clock s op) (hexpired : s.isExpired t.clock.wall = false)
    (hlive : t.registry.slot? t.clock.now s.id = some ⟨s, deadline⟩)
    (hbefore : (t.next op).clock.now < deadline) :
    (t.next op).registry.slot? (t.next op).clock.now s.id = some ⟨s, deadline⟩ := by
  have hkept : (t.next op).registry.slot? t.clock.now s.id = some ⟨s, deadline⟩ :=
    (t.registry.perform_performed t.clock op).keeps hcoherent hends hexpired hlive
  have hlater := (t.next op).registry.subscriptions.live?_later (op.now_le_clock t.clock) s.id
  rw [slot?, TtlStore.live?_eq_some_iff] at hkept
  exact TtlStore.live?_eq_some_iff.2 ⟨hkept.1, Slot.isLive_iff.2 hbefore⟩

/-- A run keeps a subscription that is before its deadline all along, unless an operation of the run
ends its life. -/
theorem slot?_run (hcoherent : t.Coherent) (hleap : t.clock.wall.isLeap = false)
    (hlive : t.registry.slot? t.clock.now s.id = some ⟨s, deadline⟩) {ops : List RegistryOp}
    (htogether : Together t.clock ops) (hbefore : (t.run ops).clock.now < deadline)
    (hexpired : s.isExpired (t.run ops).clock.wall = false) :
    t.EndsIn s ops ∨
      (t.run ops).registry.slot? (t.run ops).clock.now s.id = some ⟨s, deadline⟩ := by
  induction ops generalizing t with
  | nil => exact Or.inr hlive
  | cons op rest ih =>
    by_cases hends : t.registry.Ends t.clock s op
    · exact Or.inl ⟨[], op, rest, rfl, hends⟩
    · have hstep : t.clock.InStep (t.next op).clock := inStep_clock htogether.1 hleap
      have hpresent : s.isExpired t.clock.wall = false :=
        Subscription.isExpired_of_le
          ((inStep_run htogether hleap).wall_le (t.now_le_run (op :: rest))) hexpired
      have hnext : (t.next op).registry.slot? (t.next op).clock.now s.id = some ⟨s, deadline⟩ :=
        slot?_next hcoherent hends hpresent hlive
          (Int.lt_of_le_of_lt ((t.next op).now_le_run rest) hbefore)
      exact (ih (hcoherent.next op) hstep.to_leap hnext htogether.2 hbefore hexpired).imp_left
        EndsIn.cons

/-- An accepted subscription is reported by every view of the registry until an operation ends its
life or it comes to its end. Without a termination time it is reported for a year, if nobody
terminates or replaces it and no push to it fails. -/
theorem reported_until_end (wall : Timestamp) (hleap : wall.isLeap = false)
    (ops later : List RegistryOp) (id : String) (request : SubscriptionRequest) (s : Subscription)
    (rebuild : Rebuild)
    (htogether : Together ⟨wall, 0⟩ ops)
    (haccepted : (((start ⟨wall, 0⟩).run ops).registry.subscribe
      ((start ⟨wall, 0⟩).run ops).clock id request).1 = .ok (s, rebuild))
    (hlater : Together ((start ⟨wall, 0⟩).run ops).clock later) :
    let before := (start ⟨wall, 0⟩).run ops
    let accepted := before.next (.subscribe id request)
    let t := accepted.run later
    (accepted.EndsIn s later ∨ s.HasEnded before.clock t.clock ∨ t.registry.Reports t.clock s) ∧
    (request.termination = none → (∀ op ∈ later, op.Spares id) →
      t.clock.now < before.clock.now + openEndedRetention → t.registry.Reports t.clock s) := by
  intro before accepted t
  have hfirst : (Clock.mk wall 0).InStep before.clock :=
    inStep_run (t := start ⟨wall, 0⟩) htogether hleap
  obtain ⟨ttl, haccept, hnext⟩ := next_of_accept haccepted
  have hcoherent : accepted.Coherent := ((coherent_start ⟨wall, 0⟩).run ops).next _
  have hstep : before.clock.InStep t.clock := inStep_run (t := accepted) hlater hfirst.to_leap
  have hlive : accepted.registry.slot? accepted.clock.now s.id =
      some ⟨s, before.clock.now.deadline ttl⟩ := by
    obtain ⟨_, -, hretention⟩ := accept_ok haccept
    show (before.next (.subscribe id request)).registry.slot? before.clock.now s.id = _
    rw [hnext]
    show ((before.registry.put before.clock.now s ttl).refresh before.clock.now).2.slot?
      before.clock.now s.id = _
    rw [slot?_refresh, slot?_put _ _ _ (retention_pos hretention), if_pos rfl]
  have hreports (hends : ¬ s.HasEnded before.clock t.clock) :
      accepted.EndsIn s later ∨ t.registry.Reports t.clock s := by
    have hexpired := Subscription.isExpired_of_not_hasEnded hends
    have hbefore := lt_deadline_of_not_hasEnded haccept rfl hfirst hstep hends
    rcases slot?_run hcoherent hfirst.to_leap hlive hlater hbefore hexpired with hended | hkept
    · exact Or.inl hended
    · exact Or.inr ((hcoherent.run later).reports hkept hexpired)
  refine ⟨?_, fun hnone hspares hnow => ?_⟩
  · by_cases hends : s.HasEnded before.clock t.clock
    · exact Or.inr (Or.inl hends)
    · exact (hreports hends).imp_right Or.inr
  · have hkept : s.termination = none := by
      obtain ⟨_, rfl, -⟩ := accept_ok haccept
      exact hnone
    have hends : ¬ s.HasEnded before.clock t.clock := by
      rw [Subscription.hasEnded_of_none hkept]
      exact Int.not_le.2 hnow
    rcases hreports hends with hended | hreported
    · obtain ⟨earlier, op, rest, rfl, hop⟩ := hended
      have hspare : op.Spares s.id := by
        rw [id_of_accept haccept]
        exact hspares op (List.mem_append_right _ List.mem_cons_self)
      exact absurd hop (hspare.not_ends _ _)
    · exact hreported

/-- A subscription without a termination time is still there after sweeps, scans and ten months. -/
theorem reported_after_ten_months :
    let request : SubscriptionRequest := {
      kind := .vehicleMonitoring, address := some "http://consumer/push" }
    let s := request.subscription "sub" "http://consumer/push" .epoch
    let later : List RegistryOp :=
      [.success "sub", .pass (.advance (300 * Duration.day)), .sweep, .list, .refresh]
    let t := ((start ⟨.epoch, 0⟩).next (.subscribe "sub" request)).run later
    t.registry.Reports t.clock s := by
  intro request s later t
  have haddress : request.address? = some "http://consumer/push" := by decide +kernel
  have hnew : (start ⟨.epoch, 0⟩).registry.contains 0 "sub" = false := by decide +kernel
  obtain ⟨rebuild, haccepted⟩ := subscribe_of_absent (c := ⟨.epoch, 0⟩) hnew haddress rfl
  have hlater : Together ⟨.epoch, 0⟩ later := by
    refine ⟨trivial, ?_, trivial, trivial, trivial, trivial⟩
    show (Timestamp.epoch.plus? ((300 * Duration.day : Nat) : Int)).isSome = true
    decide +kernel
  have hspares : ∀ op ∈ later, op.Spares "sub" := by simp [later, RegistryOp.Spares]
  exact (reported_until_end .epoch (by decide) [] later "sub" request s rebuild trivial haccepted
    hlater).2 rfl hspares (by decide +kernel)

/-- A subscription without a termination time that nobody terminates and to which no push fails is
dropped after a year. -/
theorem dropped_after_year :
    let request : SubscriptionRequest := {
      kind := .vehicleMonitoring, address := some "http://consumer/push" }
    let t := ((start ⟨.epoch, 0⟩).next (.subscribe "sub" request)).run
      [.success "sub", .pass (.advance (366 * Duration.day)), .refresh]
    t.registry.contains t.clock.now "sub" = false ∧
      (t.registry.status t.clock.wall t.clock.now).isEmpty = true ∧
      (t.registry.lookup t.clock .vehicleMonitoring "A").1.matching.isEmpty = true := by
  intro request t
  refine ⟨?_, ?_, ?_⟩
  · decide +kernel
  · decide +kernel
  · decide +kernel

end TimedRegistry

end TransitHub
