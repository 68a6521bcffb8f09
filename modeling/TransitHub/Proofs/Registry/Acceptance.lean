/-
# How a new subscription starts

A request for an identifier that is not live starts a new subscription, whatever was registered
under the identifier before. Its first status is what the streaks say of the identifier: it is
active if there is none, and then every streak that it ever has begins with it or later.

Most ways to leave the registry take the streak along: a termination, a cancellation, a match past
the end. A subscription that ran out by itself leaves it until the directory is built anew. If it is
accepted again before, accepting it builds the directory with it, so the streak stays. The new
subscription is then degraded from the start, and its first failure may cancel it.
-/

import TransitHub.Proofs.Registry.Directory

namespace TransitHub

namespace Registry

variable {r r' : Registry} {c : Clock}

/-- An operation starts no streak but now. -/
theorem Performed.start?_eq {op : RegistryOp} (h : Performed r c op r') {id : String}
    {start : Instant} (hstart : r'.streaks.start? id = some start) :
    r.streaks.start? id = some start ∨ start = c.now := by
  rcases h.start?_some hstart with hbefore | ⟨_, -, -, -, hnow⟩
  · exact Or.inl hbefore
  · exact Or.inr hnow

/-- A request for an identifier that is not live is accepted if it says where to post to and does
not end at once. -/
theorem subscribe_of_absent {id address : String}
    {request : SubscriptionRequest} {ttl : Duration} (habsent : r.contains c.now id = false)
    (haddress : request.address? = some address) (hretention : retention request c.wall = .ok ttl) :
    ∃ rebuild,
      (r.subscribe c id request).1 = .ok (request.subscription id address c.wall, rebuild) := by
  have hget : r.get? c.now id = none := by
    rw [get?_eq]
    rw [contains_eq, Option.isSome_eq_false_iff, Option.isNone_iff_eq_none] at habsent
    rw [habsent]
    rfl
  have haccept : r.accept c id request = .ok (request.subscription id address c.wall, ttl) := by
    simp only [accept, haddress, hretention, hget]
  exact ⟨_, by rw [Registry.subscribe, haccept]⟩

/-- What is accepted is not past its end, unless it is to end in a leap second. -/
theorem isExpired_of_accept {id : String} {request : SubscriptionRequest} {s : Subscription}
    {ttl : Duration} (h : r.accept c id request = .ok (s, ttl))
    (hleap : ∀ stop, request.termination = some stop → stop.isLeap = false) :
    s.isExpired c.wall = false := by
  obtain ⟨address, rfl, hretention⟩ := accept_ok h
  cases htermination : request.termination with
  | none => simp [Subscription.isExpired, SubscriptionRequest.subscription, htermination]
  | some stop =>
    have hsince : 0 < stop.since c.wall := by
      rw [retention, htermination] at hretention
      refine Decidable.byContradiction fun hnot => ?_
      simp only [if_neg hnot] at hretention
      exact nomatch hretention
    have hlater : ¬ stop ≤ c.wall :=
      Timestamp.not_le_of_since_pos (hleap stop htermination) hsince
    simp [Subscription.isExpired, SubscriptionRequest.subscription, htermination, hlater]

/-- Accepting a subscription keeps the streak of its identifier. -/
theorem start?_of_accept {id : String} {request : SubscriptionRequest} {s : Subscription}
    {ttl : Duration} (h : r.accept c id request = .ok (s, ttl)) :
    ((r.put c.now s ttl).refresh c.now).2.streaks.start? id = r.streaks.start? id := by
  obtain ⟨_, -, hretention⟩ := accept_ok h
  have hcontains : (r.put c.now s ttl).contains c.now id = true := by
    rw [contains_eq, slot?_put r c.now s (retention_pos hretention), if_pos (id_of_accept h)]
    rfl
  show ((r.streaks).retain ((r.put c.now s ttl).contains c.now)).start? id = _
  rw [FailureStreaks.start?_retain, hcontains]
  cases r.streaks.start? id <;> rfl

/-- What was just accepted is listed with the streak of its identifier, if there is one. -/
theorem mem_status_of_accept {id : String} {request : SubscriptionRequest} {s : Subscription}
    {ttl : Duration} (h : r.accept c id request = .ok (s, ttl)) {failing : Option Duration} :
    (s, failing) ∈ ((r.put c.now s ttl).refresh c.now).2.status c.wall c.now ↔
      s.isExpired c.wall = false ∧ failing = r.streaks.failingFor? id c.now := by
  obtain ⟨_, -, hretention⟩ := accept_ok h
  have hid : s.id = id := id_of_accept h
  have hlisted : s ∈ ((r.put c.now s ttl).refresh c.now).2.directory.entries := by
    refine mem_live.2 ⟨s.id, ?_⟩
    rw [get?_eq, slot?_put r c.now s (retention_pos hretention), if_pos rfl]
    rfl
  have hfailing : ((r.put c.now s ttl).refresh c.now).2.streaks.failingFor? s.id c.now =
      r.streaks.failingFor? id c.now := by
    rw [hid]
    exact congrArg (Option.map c.now.since) (start?_of_accept h)
  simp only [status, list, List.mem_map, List.mem_filter, Prod.mk.injEq, Bool.not_eq_true']
  constructor
  · intro hmem
    obtain ⟨s', ⟨-, hends⟩, rfl, rfl⟩ := hmem
    exact ⟨hends, hfailing⟩
  · intro hmem
    obtain ⟨hends, rfl⟩ := hmem
    exact ⟨s, ⟨hlisted, hends⟩, rfl, hfailing⟩

end Registry

namespace TimedRegistry

open Registry

variable {t : TimedRegistry}

/-- A run starts no streak before its own beginning. -/
theorem start?_run (t : TimedRegistry) (ops : List RegistryOp) {id : String} {start : Instant}
    (hstart : (t.run ops).registry.streaks.start? id = some start) :
    t.registry.streaks.start? id = some start ∨ t.clock.now ≤ start := by
  induction ops generalizing t with
  | nil => exact Or.inl hstart
  | cons op rest ih =>
    have hle : t.clock.now ≤ (t.next op).clock.now := op.now_le_clock t.clock
    rcases ih (t.next op) hstart with hnext | hlater
    · rcases (t.registry.perform_performed t.clock op).start?_eq hnext with hbefore | hnow
      · exact Or.inl hbefore
      · exact Or.inr (Int.le_of_eq hnow.symm)
    · exact Or.inr (Int.le_trans hle hlater)

theorem next_of_accept {id : String} {request : SubscriptionRequest} {s : Subscription}
    {rebuild : Rebuild} (h : (t.registry.subscribe t.clock id request).1 = .ok (s, rebuild)) :
    ∃ ttl, t.registry.accept t.clock id request = .ok (s, ttl) ∧
      t.next (.subscribe id request) =
        ⟨t.clock, ((t.registry.put t.clock.now s ttl).refresh t.clock.now).2⟩ := by
  have hperformed := t.registry.perform_performed t.clock (.subscribe id request)
  unfold Registry.subscribe at h
  cases haccept : t.registry.accept t.clock id request with
  | error e =>
    rw [haccept] at h
    exact nomatch h
  | ok answer =>
    obtain ⟨s', ttl⟩ := answer
    rw [haccept] at h
    have hsame : s' = s := (Prod.mk.inj (Except.ok.inj h)).1
    subst hsame
    refine ⟨ttl, rfl, congrArg (TimedRegistry.mk t.clock) ?_⟩
    generalize t.registry.perform t.clock (.subscribe id request) = r' at hperformed
    cases hperformed with
    | accepted _ _ s'' ttl' haccept' =>
      obtain ⟨rfl, rfl⟩ := Prod.mk.inj (Except.ok.inj (haccept.symm.trans haccept'))
      rfl
    | rejected _ _ e haccept' => exact nomatch haccept.symm.trans haccept'

/-- A subscription accepted for an identifier that is not live starts with the streak that is left
of the identifier. It is listed as active, and is never charged with a failure before its
acceptance, exactly if none is left. A streak that is left began before, and its identifier is still
listed in the directory, which was not built since the earlier subscription ran out. -/
theorem starts_clean_iff (c : Clock) (ops : List RegistryOp) (id : String)
    (request : SubscriptionRequest) (s : Subscription) (rebuild : Rebuild)
    (hnew : ((start c).run ops).registry.contains ((start c).run ops).clock.now id = false)
    (haccepted : (((start c).run ops).registry.subscribe ((start c).run ops).clock id request).1 =
      .ok (s, rebuild)) :
    let before := (start c).run ops
    let after := before.next (.subscribe id request)
    (∀ failing, (s, failing) ∈ after.registry.status after.clock.wall after.clock.now ↔
      s.isExpired before.clock.wall = false ∧
        failing = before.registry.streaks.failingFor? id before.clock.now) ∧
    ((∀ stop, request.termination = some stop → stop.isLeap = false) →
      s.isExpired before.clock.wall = false) ∧
    ((∀ later start, (after.run later).registry.streaks.start? id = some start →
      before.clock.now ≤ start) ↔ before.registry.streaks.start? id = none) ∧
    ∀ start, before.registry.streaks.start? id = some start → start < before.clock.now ∧
      ∃ earlier ∈ before.registry.directory.entries, earlier.id = id := by
  intro before after
  have hcoherent : before.Coherent := (coherent_start c).run ops
  obtain ⟨ttl, haccept, hafter⟩ := next_of_accept haccepted
  have hleft (start : Instant) (hstart : before.registry.streaks.start? id = some start) :
      start < before.clock.now := by
    rcases hcoherent.began id start hstart with hlt | ⟨-, hlive⟩
    · exact hlt
    · rw [hnew] at hlive
      exact nomatch hlive
  have hkept : after.registry.streaks.start? id = before.registry.streaks.start? id := by
    show (before.next (.subscribe id request)).registry.streaks.start? id = _
    rw [hafter]
    exact start?_of_accept haccept
  refine ⟨fun failing => ?_, isExpired_of_accept haccept, ⟨fun hclean => ?_, fun hnone => ?_⟩,
    fun start hstart => ⟨hleft start hstart, hcoherent.failing_listed id start hstart⟩⟩
  · show (s, failing) ∈ (before.next (.subscribe id request)).registry.status
      (before.next (.subscribe id request)).clock.wall
      (before.next (.subscribe id request)).clock.now ↔ _
    rw [hafter]
    exact mem_status_of_accept haccept
  · cases hstart : before.registry.streaks.start? id with
    | none => rfl
    | some start =>
      have hle := hclean [] start (hkept.trans hstart)
      exact absurd (hleft start hstart) (Int.not_lt.2 hle)
  · intro later start hstart
    rcases after.start?_run later hstart with hbefore | hlater
    · rw [hkept, hnone] at hbefore
      exact nomatch hbefore
    · exact hlater

/-- A subscription that was terminated while it failed starts anew without a streak. -/
theorem starts_clean_after_termination :
    let request : SubscriptionRequest := {
      kind := .vehicleMonitoring, address := some "http://consumer/push" }
    let s := request.subscription "sub" "http://consumer/push" .epoch
    let before := (start ⟨.epoch, 0⟩).run
      [.subscribe "sub" request, .failure s, .terminate "sub"]
    ∀ later start, ((before.next (.subscribe "sub" request)).run later).registry.streaks.start? "sub"
      = some start → 0 ≤ start := by
  intro request s before
  have hnew : before.registry.contains before.clock.now "sub" = false := by decide +kernel
  have haddress : request.address? = some "http://consumer/push" := by decide +kernel
  obtain ⟨rebuild, haccepted⟩ := subscribe_of_absent hnew haddress rfl
  have hclean : before.registry.streaks.start? "sub" = none := by decide +kernel
  exact (starts_clean_iff ⟨.epoch, 0⟩ _ "sub" request _ rebuild hnew haccepted).2.2.1.2 hclean

/-- A subscription fails and ends after ten minutes. A minute later it is accepted again: it is
degraded from the start, its streak is eleven minutes old, and the first push that fails cancels
it. -/
theorem starts_failing_after_end :
    let stop : Timestamp := { day := 0, second := 600, nano := 0 }
    let ending : SubscriptionRequest := {
      kind := .vehicleMonitoring, address := some "http://consumer/push", termination := some stop }
    let request : SubscriptionRequest := { ending with termination := none }
    let before := (start ⟨.epoch, 0⟩).run [.subscribe "sub" ending,
      .failure (ending.subscription "sub" "http://consumer/push" .epoch),
      .pass (.advance (11 * Duration.minute))]
    let s := request.subscription "sub" "http://consumer/push" before.clock.wall
    let after := before.next (.subscribe "sub" request)
    before.registry.contains before.clock.now "sub" = false ∧
      (∃ rebuild, (before.registry.subscribe before.clock "sub" request).1 = .ok (s, rebuild)) ∧
      (after.registry.status after.clock.wall after.clock.now).map (fun e => (e.1.id, e.2)) =
        [("sub", some (11 * Duration.minute))] ∧
      after.registry.streaks.start? "sub" = some 0 ∧
      (after.next (.failure s)).registry.contains after.clock.now "sub" = false := by
  intro stop ending request before s after
  have hnew : before.registry.contains before.clock.now "sub" = false := by decide +kernel
  have haddress : request.address? = some "http://consumer/push" := by decide +kernel
  refine ⟨hnew, subscribe_of_absent hnew haddress rfl, ?_, ?_, ?_⟩
  · decide +kernel
  · decide +kernel
  · decide +kernel

end TimedRegistry

end TransitHub
