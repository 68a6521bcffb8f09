/-
# Which requests are accepted

A request for an identifier passes three checks in turn. It has to say where to post to, it has to
end later than now, if at all, and it has to be for the kind of the live subscription of the
identifier, if there is one. It is accepted if it passes them all. Otherwise the reason is the first
one that fails, and nobody can tell afterwards that the request was made: `RegistryCall` is all that
callers can ask of a registry, together with what else happens to it, and every later call has the
answer that it would have had.

So the kind of an identifier stays the same as long as the identifier is live. Only an accepted
request gives it another subscription, and that one is for the same kind.

Whether a request ends later than now is decided by the time from now until then. That agrees with
the order of timestamps except in the leap second at the end of a day, from where the distance to the
next day is a second short.
-/

import TransitHub.Proofs.Registry.Failing

namespace TransitHub

namespace SubscriptionRequest

variable {request : SubscriptionRequest} {wall : Timestamp}

/-- Whether a request says where to post to: its address is there and has a character that is not
blank. -/
def HasAddress (request : SubscriptionRequest) : Prop :=
  ∃ address, request.address = some address ∧ ∃ ch ∈ address.toList, Text.isBlank ch = false

/-- Whether a request ends later than now, if at all. In the leap second at the end of a day the
time that is left until a moment of the next day has to be positive, too. -/
def EndsAfter (request : SubscriptionRequest) (wall : Timestamp) : Prop :=
  ∀ stop, request.termination = some stop → wall < stop ∧ ¬ wall.Overtakes stop

theorem address?_eq_some_iff {address : String} :
    request.address? = some address ↔
      request.address = some address ∧ ∃ ch ∈ address.toList, Text.isBlank ch = false := by
  rw [address?, Option.filter_eq_some_iff, Bool.not_eq_true', List.all_eq_false]
  simp only [Bool.not_eq_true]

theorem hasAddress_iff : request.HasAddress ↔ ∃ address, request.address? = some address :=
  exists_congr fun _ => address?_eq_some_iff.symm

end SubscriptionRequest

namespace Registry

open SubscriptionRequest

variable {r r' : Registry} {c : Clock} {now : Instant} {id : String} {request : SubscriptionRequest}
  {e e' : Rejection}

/-! ## The checks -/

theorem retention_eq_ok_iff {wall : Timestamp}
    (hleap : ∀ stop, request.termination = some stop → stop.isLeap = false) :
    (∃ ttl, retention request wall = .ok ttl) ↔ request.EndsAfter wall := by
  unfold retention EndsAfter
  cases hstop : request.termination with
  | none => simp
  | some stop =>
    simp only [Option.some.injEq, forall_eq', ← Timestamp.since_pos_iff (hleap stop hstop)]
    by_cases hpos : 0 < stop.since wall
    · simp [hpos]
    · simp [hpos]

/-- Only a request with a termination time is refused for it. -/
theorem termination_of_retention {wall : Timestamp} (h : retention request wall = .error e) :
    ∃ stop, request.termination = some stop ∧ e = .alreadyEnded stop := by
  unfold retention at h
  cases hstop : request.termination with
  | none => simp [hstop] at h
  | some stop =>
    simp only [hstop] at h
    split at h
    · exact nomatch h
    · exact ⟨stop, rfl, (Except.error.inj h).symm⟩

/-- Whether a request passes all checks. -/
structure Admits (r : Registry) (c : Clock) (id : String) (request : SubscriptionRequest) :
    Prop where
  address : request.HasAddress
  termination : request.EndsAfter c.wall
  kind : ∀ s, r.get? c.now id = some s → s.kind = request.kind

/-- The first check that a request fails, as the reason for its refusal. -/
inductive FirstFailed (r : Registry) (c : Clock) (id : String) (request : SubscriptionRequest) :
    Rejection → Prop
  | address (hmissing : ¬ request.HasAddress) : FirstFailed r c id request .missingAddress
  | termination (stop : Timestamp) (haddress : request.HasAddress)
      (hstop : request.termination = some stop) (hends : ¬ request.EndsAfter c.wall) :
      FirstFailed r c id request (.alreadyEnded stop)
  | kind (s : Subscription) (haddress : request.HasAddress) (hends : request.EndsAfter c.wall)
      (hlive : r.get? c.now id = some s) (hkind : s.kind ≠ request.kind) :
      FirstFailed r c id request (.kindConflict s.kind request.kind)

theorem FirstFailed.not_admits (h : r.FirstFailed c id request e) : ¬ r.Admits c id request := by
  intro hadmits
  cases h with
  | address hmissing => exact hmissing hadmits.address
  | termination _ _ _ hends => exact hends hadmits.termination
  | kind s _ _ hlive hkind => exact hkind (hadmits.kind s hlive)

theorem FirstFailed.unique (h : r.FirstFailed c id request e)
    (h' : r.FirstFailed c id request e') : e = e' := by
  cases h with
  | address hmissing =>
    cases h' with
    | address => rfl
    | termination _ haddress => exact absurd haddress hmissing
    | kind _ haddress => exact absurd haddress hmissing
  | termination stop haddress hstop hends =>
    cases h' with
    | address hmissing => exact absurd haddress hmissing
    | termination stop' _ hstop' =>
      obtain rfl : stop = stop' := Option.some.inj (hstop.symm.trans hstop')
      rfl
    | kind _ _ hends' => exact absurd hends' hends
  | kind s haddress hends hlive =>
    cases h' with
    | address hmissing => exact absurd haddress hmissing
    | termination _ _ _ hends' => exact absurd hends hends'
    | kind s' _ _ hlive' =>
      obtain rfl : s = s' := Option.some.inj (hlive.symm.trans hlive')
      rfl

/-- What is accepted passes the checks, what is refused fails the one that is the reason and none
before it. -/
theorem accept_checked (r : Registry) (c : Clock) (id : String)
    (hleap : ∀ stop, request.termination = some stop → stop.isLeap = false) :
    match r.accept c id request with
    | .ok _ => r.Admits c id request
    | .error e => r.FirstFailed c id request e := by
  unfold accept
  cases haddress : request.address? with
  | none =>
    refine .address fun hgiven => ?_
    obtain ⟨address, hsome⟩ := hasAddress_iff.1 hgiven
    exact nomatch haddress.symm.trans hsome
  | some address =>
    have hgiven : request.HasAddress := hasAddress_iff.2 ⟨address, haddress⟩
    cases hretention : retention request c.wall with
    | error e =>
      obtain ⟨stop, hstop, rfl⟩ := termination_of_retention hretention
      refine .termination stop hgiven hstop fun hends => ?_
      obtain ⟨ttl, hok⟩ := (retention_eq_ok_iff hleap).2 hends
      exact nomatch hretention.symm.trans hok
    | ok ttl =>
      have hends : request.EndsAfter c.wall := (retention_eq_ok_iff hleap).1 ⟨ttl, hretention⟩
      cases hlive : r.get? c.now id with
      | none => exact ⟨hgiven, hends, fun s hs => nomatch hlive.symm.trans hs⟩
      | some existing =>
        by_cases hkind : existing.kind = request.kind
        · simp only [if_pos hkind]
          refine ⟨hgiven, hends, fun s hs => ?_⟩
          rw [← Option.some.inj (hlive.symm.trans hs)]
          exact hkind
        · simp only [if_neg hkind]
          exact .kind existing hgiven hends hlive hkind

theorem subscribe_of_ok {s : Subscription} {ttl : Duration}
    (h : r.accept c id request = .ok (s, ttl)) :
    ∃ rebuild, (r.subscribe c id request).1 = .ok (s, rebuild) :=
  ⟨_, by rw [subscribe, h]⟩

theorem subscribe_of_error (h : r.accept c id request = .error e) :
    r.subscribe c id request = (.error e, r) := by
  rw [subscribe, h]

/-- A refused request leaves the registry as it is. -/
theorem subscribe_of_refused (h : (r.subscribe c id request).1 = .error e) :
    r.subscribe c id request = (.error e, r) := by
  cases haccept : r.accept c id request with
  | error e' =>
    rw [subscribe_of_error haccept] at h ⊢
    rw [Except.error.inj h]
  | ok answer =>
    obtain ⟨rebuild, hok⟩ := subscribe_of_ok haccept
    exact nomatch h.symm.trans hok

theorem subscribe_ok_iff
    (hleap : ∀ stop, request.termination = some stop → stop.isLeap = false) :
    (∃ accepted, (r.subscribe c id request).1 = .ok accepted) ↔ r.Admits c id request := by
  have hchecked := accept_checked r c id hleap
  cases haccept : r.accept c id request with
  | error e =>
    rw [haccept] at hchecked
    simp [subscribe_of_error haccept, hchecked.not_admits]
  | ok answer =>
    rw [haccept] at hchecked
    obtain ⟨rebuild, hok⟩ := subscribe_of_ok haccept
    exact ⟨fun _ => hchecked, fun _ => ⟨_, hok⟩⟩

theorem subscribe_error_iff
    (hleap : ∀ stop, request.termination = some stop → stop.isLeap = false) :
    (r.subscribe c id request).1 = .error e ↔ r.FirstFailed c id request e := by
  have hchecked := accept_checked r c id hleap
  cases haccept : r.accept c id request with
  | error e' =>
    rw [haccept] at hchecked
    rw [subscribe_of_error haccept, Except.error.injEq]
    exact ⟨fun heq => heq ▸ hchecked, fun hfailed => hchecked.unique hfailed⟩
  | ok answer =>
    rw [haccept] at hchecked
    obtain ⟨rebuild, hok⟩ := subscribe_of_ok haccept
    constructor
    · intro herror
      exact nomatch herror.symm.trans hok
    · intro hfailed
      exact absurd hchecked hfailed.not_admits

/-! ## The kind of an identifier -/

/-- What is live after an operation was live before, or the operation accepted it. -/
theorem Performed.live_before {op : RegistryOp} (hop : Performed r c op r')
    {slot : Slot Subscription} (hslot : r'.slot? c.now id = some slot) :
    r.slot? c.now id = some slot ∨ ∃ request ttl,
      op = .subscribe id request ∧ r.accept c id request = .ok (slot.value, ttl) := by
  cases hop with
  | accepted id' request s ttl haccept =>
    obtain ⟨_, -, hretention⟩ := accept_ok haccept
    rw [slot?_refresh, slot?_put r c.now s (retention_pos hretention),
      id_of_accept haccept] at hslot
    by_cases hid : id' = id
    · subst hid
      rw [if_pos rfl] at hslot
      exact Or.inr ⟨request, ttl, rfl, by rw [haccept, ← Option.some.inj hslot]⟩
    · rw [if_neg hid] at hslot
      exact Or.inl hslot
  | rejected | rebuilt | matched | ignored | degraded | succeeded | listed | passed =>
    exact Or.inl hslot
  | unknown =>
    rw [slot?_drop, Option.ite_none_left_eq_some] at hslot
    exact Or.inl hslot.2
  | terminated | cancelled =>
    rw [slot?_refresh, slot?_drop, Option.ite_none_left_eq_some] at hslot
    exact Or.inl hslot.2
  | ended =>
    rw [slot?_refresh, slot?_foldl_drop, Option.ite_none_left_eq_some] at hslot
    exact Or.inl hslot.2
  | touched =>
    rw [slot?_touch] at hslot
    exact Or.inl hslot
  | swept =>
    rw [slot?_sweep] at hslot
    exact Or.inl hslot

/-- A failed push adds nothing to what is live. -/
theorem slot?_of_noteFailure {failedAt : Instant} {pushed : Subscription}
    {slot : Slot Subscription}
    (hslot : (r.noteFailure now failedAt pushed).2.slot? now id = some slot) :
    r.slot? now id = some slot := by
  cases hlive : r.contains now pushed.id with
  | false =>
    rw [noteFailure_of_absent hlive] at hslot
    exact hslot
  | true =>
    cases hgrace : r.cancels failedAt pushed with
    | false =>
      rw [noteFailure_of_grace hlive hgrace] at hslot
      exact hslot
    | true =>
      rw [noteFailure_of_cancels hlive hgrace, slot?_refresh, slot?_drop,
        Option.ite_none_left_eq_some] at hslot
      exact hslot.2

/-- A request that is accepted for a live identifier is for the kind of the live subscription. -/
theorem kind_of_accept {s s' : Subscription} {ttl : Duration}
    (haccept : r.accept c id request = .ok (s', ttl)) (hlive : r.get? c.now id = some s) :
    s'.kind = s.kind := by
  unfold accept at haccept
  split at haccept
  · exact nomatch haccept
  · split at haccept
    · exact nomatch haccept
    · simp only [hlive] at haccept
      split at haccept
      · next hkind =>
        rw [← (Prod.mk.inj (Except.ok.inj haccept)).1, hkind]
        rfl
      · exact nomatch haccept

end Registry

/-! ## Calls -/

/-- What callers ask of a registry, and what happens to it in between. -/
inductive RegistryCall
  | subscribe (id : String) (request : SubscriptionRequest)
  | terminate (id : String)
  | refresh
  | matching (kind : DataKind) (dataset : String)
  /-- A push failed as of some instant. -/
  | failure (failedAt : Instant) (pushed : Subscription)
  | success (id : String)
  | contains (id : String)
  | get (id : String)
  | size
  | list
  | status (moment : Instant)
  | sweep
  | pass (t : TimeStep)

/-- What a caller gets to know. -/
inductive RegistryAnswer
  | subscribed (answer : Except Rejection (Subscription × Rebuild))
  | terminated (answer : Option (Subscription × Rebuild))
  | rebuilt (answer : Rebuild)
  | matched (answer : Matches)
  | failed (answer : FailureOutcome)
  | recovered (answer : Bool)
  | contained (answer : Bool)
  | found (s? : Option Subscription)
  | counted (n : Nat)
  | listed (answer : List Subscription)
  | reported (answer : List (Subscription × Option Duration))
  | done

namespace RegistryCall

/-- What a call does to a registry. -/
def incident : RegistryCall → Incident
  | .subscribe id request => .operation (.subscribe id request)
  | .terminate id => .operation (.terminate id)
  | .refresh => .operation .refresh
  | .matching kind dataset => .operation (.lookup kind dataset)
  | .failure failedAt pushed => .failure failedAt pushed
  | .success id => .operation (.success id)
  | .get id => .operation (.touch id)
  | .contains _ | .size | .list | .status _ => .operation .list
  | .sweep => .operation .sweep
  | .pass t => .operation (.pass t)

end RegistryCall

namespace TimedRegistry

open Registry SubscriptionRequest

variable {t : TimedRegistry} {id : String}

/-- The answer to a call. -/
def answer (t : TimedRegistry) : RegistryCall → RegistryAnswer
  | .subscribe id request => .subscribed (t.registry.subscribe t.clock id request).1
  | .terminate id => .terminated (t.registry.terminate t.clock.now id).1
  | .refresh => .rebuilt (t.registry.refresh t.clock.now).1
  | .matching kind dataset => .matched (t.registry.lookup t.clock kind dataset).1
  | .failure failedAt pushed => .failed (t.registry.noteFailure t.clock.now failedAt pushed).1
  | .success id => .recovered (t.registry.noteSuccess id).1
  | .contains id => .contained (t.registry.contains t.clock.now id)
  | .get id => .found (t.registry.get? t.clock.now id)
  | .size => .counted (t.registry.size t.clock.now)
  | .list => .listed (t.registry.list t.clock.wall)
  | .status moment => .reported (t.registry.status t.clock.wall moment)
  | .sweep => .done
  | .pass _ => .done

/-- The answers to some calls, one after another. -/
def answers (t : TimedRegistry) : List RegistryCall → List RegistryAnswer
  | [] => []
  | call :: calls => t.answer call :: (t.undergo call.incident).answers calls

/-- Whether an identifier is live at every moment of a course of incidents. -/
def StaysLive (t : TimedRegistry) (id : String) : List Incident → Prop
  | [] => t.registry.contains t.clock.now id = true
  | i :: rest => t.registry.contains t.clock.now id = true ∧ (t.undergo i).StaysLive id rest

instance decidableStaysLive (t : TimedRegistry) (id : String) :
    (incidents : List Incident) → Decidable (t.StaysLive id incidents)
  | [] => inferInstanceAs (Decidable (t.registry.contains t.clock.now id = true))
  | i :: rest =>
    have := decidableStaysLive (t.undergo i) id rest
    inferInstanceAs (Decidable (_ ∧ (t.undergo i).StaysLive id rest))

/-- The kind of the live subscription of an identifier. -/
def kind? (t : TimedRegistry) (id : String) : Option DataKind :=
  (t.registry.get? t.clock.now id).map Subscription.kind

theorem StaysLive.present {incidents : List Incident} (h : t.StaysLive id incidents) :
    t.registry.contains t.clock.now id = true := by
  cases incidents with
  | nil => exact h
  | cons => exact h.1

/-- What is live after an incident was live before, or it was accepted just now. -/
theorem live_before {i : Incident} {slot : Slot Subscription}
    (hslot : (t.undergo i).registry.slot? (t.undergo i).clock.now id = some slot) :
    t.registry.slot? t.clock.now id = some slot ∨
      ∃ request ttl, i = .operation (.subscribe id request) ∧
        t.registry.accept t.clock id request = .ok (slot.value, ttl) := by
  rw [clock_undergo] at hslot
  have hsame : (t.undergo i).registry.slot? t.clock.now id = some slot :=
    TtlStore.live?_of_later (i.now_le_clock t.clock) hslot
  cases i with
  | operation op =>
    have hop := t.registry.perform_performed t.clock op
    rcases hop.live_before hsame with hbefore | ⟨request, ttl, rfl, haccept⟩
    · exact Or.inl hbefore
    · exact Or.inr ⟨request, ttl, rfl, haccept⟩
  | failure failedAt pushed => exact Or.inl (slot?_of_noteFailure hsame)

/-- One incident does not change the kind of an identifier that is live before and afterwards. -/
theorem kind?_undergo {i : Incident} (hbefore : t.registry.contains t.clock.now id = true)
    (hafter : (t.undergo i).registry.contains (t.undergo i).clock.now id = true) :
    (t.undergo i).kind? id = t.kind? id := by
  obtain ⟨slot, hslot⟩ := Option.isSome_iff_exists.1 hbefore
  obtain ⟨slot', hslot'⟩ := Option.isSome_iff_exists.1 hafter
  have hget : t.registry.get? t.clock.now id = some slot.value :=
    Option.map_eq_some_iff.2 ⟨slot, hslot, rfl⟩
  have hget' : (t.undergo i).registry.get? (t.undergo i).clock.now id = some slot'.value :=
    Option.map_eq_some_iff.2 ⟨slot', hslot', rfl⟩
  rw [kind?, kind?, hget, hget', Option.map_some, Option.map_some]
  rcases live_before hslot' with hsame | ⟨request, ttl, -, haccept⟩
  · rw [Option.some.inj (hsame.symm.trans hslot)]
  · rw [kind_of_accept haccept hget]

theorem kind?_course {incidents : List Incident} (h : t.StaysLive id incidents) :
    (t.course incidents).kind? id = t.kind? id := by
  induction incidents generalizing t with
  | nil => rfl
  | cons i rest ih => exact (ih h.2).trans (kind?_undergo h.1 h.2.present)

/-- An accepted request makes its identifier live, for the kind of the request. -/
theorem kind?_of_accepted {request : SubscriptionRequest} {accepted : Subscription × Rebuild}
    (h : (t.registry.subscribe t.clock id request).1 = .ok accepted) :
    (t.undergo (.operation (.subscribe id request))).kind? id = some request.kind := by
  obtain ⟨s, rebuild⟩ := accepted
  obtain ⟨rfl, hkept, -⟩ := keeps_of_accept h
  obtain ⟨ttl, haccept, -⟩ := next_of_accept h
  obtain ⟨address, hs, -⟩ := accept_ok haccept
  have hkind : s.kind = request.kind := congrArg Subscription.kind hs
  rw [← hkind]
  exact congrArg (Option.map Subscription.kind) hkept.present

/-- A request that does not ask to end in a leap second is accepted exactly if it passes all checks,
and otherwise refused for the first one that it fails. An accepted request makes its identifier live
for its kind, a refused one changes no later answer. As long as an identifier is live, whatever
happens, it keeps its kind. -/
theorem subscribe_checked (t : TimedRegistry) (id : String) (request : SubscriptionRequest) :
    ((∀ stop, request.termination = some stop → stop.isLeap = false) →
      ((∃ accepted, (t.registry.subscribe t.clock id request).1 = .ok accepted) ↔
        t.registry.Admits t.clock id request) ∧
      ∀ e, (t.registry.subscribe t.clock id request).1 = .error e ↔
        t.registry.FirstFailed t.clock id request e) ∧
    (∀ accepted, (t.registry.subscribe t.clock id request).1 = .ok accepted →
      (t.undergo (.operation (.subscribe id request))).kind? id = some request.kind) ∧
    (∀ e, (t.registry.subscribe t.clock id request).1 = .error e → ∀ later : List RegistryCall,
      t.answers (.subscribe id request :: later) = .subscribed (.error e) :: t.answers later) ∧
    ∀ later : List RegistryCall, t.StaysLive id (later.map RegistryCall.incident) →
      (t.course (later.map RegistryCall.incident)).kind? id = t.kind? id := by
  refine ⟨fun hleap => ⟨subscribe_ok_iff hleap, fun e => subscribe_error_iff hleap⟩,
    fun accepted => kind?_of_accepted, fun e herror later => ?_,
    fun later hlive => kind?_course hlive⟩
  have hrefused := subscribe_of_refused herror
  have hsame : t.undergo (.operation (.subscribe id request)) = t := by
    show TimedRegistry.mk t.clock (t.registry.subscribe t.clock id request).2 = t
    rw [hrefused]
  show .subscribed (t.registry.subscribe t.clock id request).1 ::
    (t.undergo (.operation (.subscribe id request))).answers later = _
  rw [hsame, herror]

/-- A request for another kind than that of a live subscription is refused and leaves no trace. An
hour and a sweep later the identifier still has its kind. -/
theorem refused_for_other_kind :
    let request : SubscriptionRequest := {
      kind := .vehicleMonitoring, address := some "http://consumer/push" }
    let t := (start ⟨.epoch, 0⟩).next (.subscribe "sub" request)
    let other : SubscriptionRequest := { request with
      kind := .situationExchange, termination := some (.advance .epoch (2 * Duration.hour)) }
    let conflict : Rejection := .kindConflict .vehicleMonitoring .situationExchange
    let later : List RegistryCall :=
      [.subscribe "sub" other, .pass (.advance Duration.hour), .sweep]
    (t.registry.subscribe t.clock "sub" other).1 = .error conflict ∧
      (∀ calls, t.answers (.subscribe "sub" other :: calls) =
        .subscribed (.error conflict) :: t.answers calls) ∧
      (t.course (later.map RegistryCall.incident)).kind? "sub" = some .vehicleMonitoring := by
  intro request t other conflict later
  have haddress : request.address? = some "http://consumer/push" := by decide +kernel
  have hnew : (start ⟨.epoch, 0⟩).registry.contains 0 "sub" = false := by decide +kernel
  obtain ⟨rebuild, haccepted⟩ := subscribe_of_absent (c := ⟨.epoch, 0⟩) hnew haddress rfl
  obtain ⟨-, hkept, -⟩ := keeps_of_accept (t := start ⟨.epoch, 0⟩) haccepted
  have hgiven : other.HasAddress := hasAddress_iff.2 ⟨_, haddress⟩
  have hleap : ∀ stop, other.termination = some stop → stop.isLeap = false := by
    intro stop hstop
    rw [← Option.some.inj hstop]
    decide +kernel
  have hends : other.EndsAfter .epoch := by
    intro stop hstop
    rw [← Option.some.inj hstop]
    exact ⟨by decide +kernel, fun hovertakes => absurd hovertakes.1 (by decide)⟩
  have hchecked := subscribe_checked t "sub" other
  have hconflict : (t.registry.subscribe t.clock "sub" other).1 = .error conflict :=
    ((hchecked.1 hleap).2 conflict).2 (.kind _ hgiven hends hkept.present (by decide))
  refine ⟨hconflict, hchecked.2.2.1 conflict hconflict, ?_⟩
  rw [hchecked.2.2.2 later (by decide +kernel)]
  exact (subscribe_checked (start ⟨.epoch, 0⟩) "sub" request).2.1 _ haccepted

/-- Six tenths of a second into the leap second at the end of a day, a request is refused for having
ended that is to end three tenths of a second into the next day. -/
theorem refused_in_leap :
    let wall : Timestamp := {
      day := 19844, second := 86399, nano := 1600000000, second_lt := by decide }
    let stop : Timestamp := { day := 19845, second := 0, nano := 300000000 }
    let request : SubscriptionRequest := {
      kind := .vehicleMonitoring, address := some "http://consumer/push", termination := some stop }
    let t := start ⟨wall, 0⟩
    request.HasAddress ∧ stop.isLeap = false ∧ wall < stop ∧
      t.registry.contains t.clock.now "sub" = false ∧
      (t.registry.subscribe t.clock "sub" request).1 = .error (.alreadyEnded stop) := by
  intro wall stop request t
  have haddress : request.HasAddress :=
    hasAddress_iff.2 ⟨"http://consumer/push", by decide +kernel⟩
  have hleap : stop.isLeap = false := by decide
  have hends : ¬ request.EndsAfter wall := by
    intro hends
    exact (hends stop rfl).2 ⟨rfl, rfl, rfl, by decide⟩
  refine ⟨haddress, hleap, by decide, by decide +kernel, ?_⟩
  refine (subscribe_error_iff ?_).2 (.termination stop haddress rfl hends)
  intro stop' hstop
  rw [← Option.some.inj hstop]
  exact hleap

end TimedRegistry

end TransitHub
