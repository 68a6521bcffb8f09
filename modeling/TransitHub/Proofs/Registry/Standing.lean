/-
# The directory and what callers were told

Callers of a registry learn which subscriptions there are from its answers: a request is accepted, a
termination finds the subscription, a failed push cancels it. `Standing` is what follows from the
answers of a run: for each identifier the subscription that was accepted last, and when, unless it
was terminated or cancelled since. It is kept beside the registry and nothing in the registry reads
it.

The store and the directory both agree with it, each in its own way. What is live stands, and so
does what is listed, since the directory is built anew whenever something stops standing. What
stands is live until it has ended, and what is live is listed. So matching and listing, which leave
out what is past its termination time, give what stands and has not ended. The one exception is a
termination time in a leap second: the store counts it as the second before, and after that the
subscription is listed only until the directory is built again.
-/

import Mathlib.Logic.Function.Basic
import TransitHub.Proofs.Registry.Lifetime

namespace TransitHub

/-- The subscription that stands for each identifier, and when it was accepted. -/
abbrev Standing := String → Option (Subscription × Clock)

namespace Registry

variable {r r' : Registry} {c : Clock} {op : RegistryOp} {known : Standing} {id : String}
  {s : Subscription}

/-- What stands after an operation, by its answer. -/
def told (r : Registry) (c : Clock) (known : Standing) : RegistryOp → Standing
  | .subscribe id request =>
    match (r.subscribe c id request).1 with
    | .ok (s, _) => Function.update known id (some (s, c))
    | .error _ => known
  | .terminate id =>
    match (r.terminate c.now id).1 with
    | some _ => Function.update known id none
    | none => known
  | .failure s =>
    match (r.noteFailure c.now c.now s).1 with
    | .cancelled .. => Function.update known s.id none
    | .degraded _ => known
    | .ignored => known
  | _ => known

/-! ## Answers and what they tell -/

theorem told_accepted {request : SubscriptionRequest} {ttl : Duration}
    (h : r.accept c id request = .ok (s, ttl)) :
    r.told c known (.subscribe id request) = Function.update known id (some (s, c)) := by
  simp only [told, subscribe, h]

theorem told_rejected {request : SubscriptionRequest} {e : Rejection}
    (h : r.accept c id request = .error e) :
    r.told c known (.subscribe id request) = known := by
  simp only [told, subscribe, h]

theorem told_terminate (r : Registry) (c : Clock) (known : Standing) (id : String) :
    r.told c known (.terminate id) =
      if r.contains c.now id then Function.update known id none else known := by
  have hcontains : r.contains c.now id = (r.get? c.now id).isSome := by
    rw [contains_eq, get?_eq, Option.isSome_map]
  cases hget : r.get? c.now id with
  | none => simp [told, terminate, hget, hcontains]
  | some s => simp [told, terminate, hget, hcontains]

theorem told_failure (r : Registry) (c : Clock) (known : Standing) (s : Subscription) :
    r.told c known (.failure s) =
      if r.contains c.now s.id && r.cancels c.now s then Function.update known s.id none
      else known := by
  have hexceeds := r.exceeds_fail c.now s
  rw [fail] at hexceeds
  simp only [told, noteFailure]
  cases hlive : r.contains c.now s.id with
  | false => rfl
  | true =>
    rw [if_pos rfl, hexceeds]
    cases r.cancels c.now s <;> rfl

/-- What stands after an operation was accepted by it, or it stood before and the operation did not
end its life if it was live. -/
theorem told_eq_some {accepted : Clock} (h : r.told c known op id = some (s, accepted)) :
    (accepted = c ∧ ∃ request ttl, op = .subscribe id request ∧
      r.accept c id request = .ok (s, ttl)) ∨
    (known id = some (s, accepted) ∧
      (s.id = id → r.contains c.now id = true → ¬ r.Ends c s op)) := by
  cases op with
  | subscribe id' request =>
    cases haccept : r.accept c id' request with
    | error e =>
      rw [told_rejected haccept] at h
      refine Or.inr ⟨h, fun _ _ hends => ?_⟩
      obtain ⟨-, accepted, hok⟩ := hends
      exact nomatch haccept.symm.trans hok
    | ok answer =>
      obtain ⟨s', ttl⟩ := answer
      rw [told_accepted haccept] at h
      by_cases hid : id = id'
      · subst hid
        rw [Function.update_self] at h
        obtain ⟨rfl, rfl⟩ := Prod.mk.inj (Option.some.inj h)
        exact Or.inl ⟨rfl, request, ttl, rfl, haccept⟩
      · rw [Function.update_of_ne hid] at h
        refine Or.inr ⟨h, fun hkey _ hends => ?_⟩
        exact hid (hkey.symm.trans hends.1.symm)
  | terminate id' =>
    rw [told_terminate] at h
    by_cases hid : id = id'
    · subst hid
      cases hlive : r.contains c.now id with
      | true => simp [hlive] at h
      | false =>
        rw [hlive, if_neg Bool.false_ne_true] at h
        exact Or.inr ⟨h, fun _ hcontains => nomatch hcontains⟩
    · have hstands : known id = some (s, accepted) := by
        split at h
        · rwa [Function.update_of_ne hid] at h
        · exact h
      exact Or.inr ⟨hstands, fun hkey _ hends => hid (hkey.symm.trans hends.symm)⟩
  | failure pushed =>
    rw [told_failure] at h
    by_cases hid : id = pushed.id
    · subst hid
      cases hcancels : r.contains c.now pushed.id && r.cancels c.now pushed with
      | true => simp [hcancels] at h
      | false =>
        rw [hcancels, if_neg Bool.false_ne_true] at h
        refine Or.inr ⟨h, fun _ hcontains hends => ?_⟩
        rw [hcontains, hends.2] at hcancels
        exact nomatch hcancels
    · have hstands : known id = some (s, accepted) := by
        split at h
        · rwa [Function.update_of_ne hid] at h
        · exact h
      exact Or.inr ⟨hstands, fun hkey _ hends => hid (hkey.symm.trans hends.1.symm)⟩
  | refresh | lookup | success | touch | list | sweep | pass =>
    exact Or.inr ⟨h, fun _ _ hends => hends⟩

/-- What is live after an operation stands, if that is so before. -/
theorem Performed.stands (hop : Performed r c op r')
    (hlive : ∀ id slot, r.slot? c.now id = some slot →
      ∃ accepted, known id = some (slot.value, accepted))
    {slot : Slot Subscription} (hslot : r'.slot? c.now id = some slot) :
    ∃ accepted, r.told c known op id = some (slot.value, accepted) := by
  cases hop with
  | accepted id' request s ttl haccept =>
    obtain ⟨_, -, hretention⟩ := accept_ok haccept
    rw [slot?_refresh, slot?_put r c.now s (retention_pos hretention), id_of_accept haccept] at hslot
    rw [told_accepted haccept]
    by_cases hid : id' = id
    · subst hid
      rw [if_pos rfl] at hslot
      exact ⟨c, by rw [Function.update_self, ← Option.some.inj hslot]⟩
    · rw [if_neg hid] at hslot
      rw [Function.update_of_ne (Ne.symm hid)]
      exact hlive id slot hslot
  | rejected _ _ _ haccept =>
    rw [told_rejected haccept]
    exact hlive id slot hslot
  | unknown id' habsent =>
    rw [slot?_drop, Option.ite_none_left_eq_some] at hslot
    rw [told_terminate, contains_eq, habsent]
    exact hlive id slot hslot.2
  | terminated id' slot' hlive' =>
    rw [slot?_refresh, slot?_drop, Option.ite_none_left_eq_some] at hslot
    rw [told_terminate, contains_eq, hlive']
    obtain ⟨accepted, hstands⟩ := hlive id slot hslot.2
    exact ⟨accepted, (Function.update_of_ne (Ne.symm hslot.1) ..).trans hstands⟩
  | rebuilt => exact hlive id slot hslot
  | matched => exact hlive id slot hslot
  | ended =>
    rw [slot?_refresh, slot?_foldl_drop, Option.ite_none_left_eq_some] at hslot
    exact hlive id slot hslot.2
  | ignored s habsent =>
    rw [told_failure, habsent]
    exact hlive id slot hslot
  | degraded s _ hgrace =>
    rw [told_failure, hgrace, Bool.and_false]
    exact hlive id slot hslot
  | cancelled s hlive' hgrace =>
    rw [slot?_refresh, slot?_drop, Option.ite_none_left_eq_some] at hslot
    rw [told_failure, hlive', hgrace]
    obtain ⟨accepted, hstands⟩ := hlive id slot hslot.2
    exact ⟨accepted, (Function.update_of_ne (Ne.symm hslot.1) ..).trans hstands⟩
  | succeeded => exact hlive id slot hslot
  | touched =>
    rw [slot?_touch] at hslot
    exact hlive id slot hslot
  | listed => exact hlive id slot hslot
  | swept =>
    rw [slot?_sweep] at hslot
    exact hlive id slot hslot
  | passed => exact hlive id slot hslot

theorem Performed.of_accept {request : SubscriptionRequest} {ttl : Duration}
    (hop : Performed r c (.subscribe id request) r') (haccept : r.accept c id request = .ok (s, ttl)) :
    r' = ((r.put c.now s ttl).refresh c.now).2 := by
  cases hop with
  | accepted _ _ s' ttl' haccept' =>
    obtain ⟨rfl, rfl⟩ := Prod.mk.inj (Except.ok.inj (haccept.symm.trans haccept'))
    rfl
  | rejected _ _ e haccept' => exact nomatch haccept.symm.trans haccept'

/-- The directory is left alone by an operation that ends nothing, or it is built anew. -/
theorem Performed.directory_cases (hop : Performed r c op r') :
    (r'.directory = r.directory ∧ ∀ known, r.told c known op = known) ∨
    r'.directory.entries = r'.live c.now := by
  cases hop with
  | accepted => exact Or.inr rfl
  | rejected _ _ _ haccept => exact Or.inl ⟨rfl, fun _ => told_rejected haccept⟩
  | unknown id habsent =>
    exact Or.inl ⟨rfl, fun known => by rw [told_terminate, contains_eq, habsent]; rfl⟩
  | terminated => exact Or.inr rfl
  | rebuilt => exact Or.inr rfl
  | matched => exact Or.inl ⟨rfl, fun _ => rfl⟩
  | ended => exact Or.inr rfl
  | ignored s habsent => exact Or.inl ⟨rfl, fun known => by rw [told_failure, habsent]; rfl⟩
  | degraded s _ hgrace =>
    exact Or.inl ⟨rfl, fun known => by rw [told_failure, hgrace, Bool.and_false]; rfl⟩
  | cancelled => exact Or.inr rfl
  | succeeded | touched | listed | swept | passed => exact Or.inl ⟨rfl, fun _ => rfl⟩

end Registry

namespace TimedRegistry

open Registry

variable {t : TimedRegistry} {known : Standing} {wall : Timestamp} {id : String} {s : Subscription}
  {accepted c c' : Clock} {op : RegistryOp} {ops : List RegistryOp}

/-- What stands after the operations of a run. -/
def standing (t : TimedRegistry) (known : Standing) : List RegistryOp → Standing
  | [] => known
  | op :: ops => (t.next op).standing (t.registry.told t.clock known op) ops

/-- Whether a subscription that was accepted at a moment is before a deadline until it has
ended. -/
def Lasts (s : Subscription) (accepted : Clock) (deadline : Instant) : Prop :=
  ∀ c, accepted.InStep c → ¬ s.HasEnded accepted c → c.now < deadline

/-- How a registry agrees with what stands, on clocks that began at a wall time and are in step
since. -/
structure Agrees (wall : Timestamp) (t : TimedRegistry) (known : Standing) : Prop where
  coherent : t.Coherent
  inStep : (Clock.mk wall 0).InStep t.clock
  live_stands : ∀ id slot, t.registry.slot? t.clock.now id = some slot →
    ∃ accepted, known id = some (slot.value, accepted)
  listed_stands : ∀ s ∈ t.registry.directory.entries, ∃ accepted, known s.id = some (s, accepted)
  /-- What stands was accepted under its identifier. -/
  named : ∀ id s accepted, known id = some (s, accepted) →
    s.id = id ∧ accepted.InStep t.clock ∧ accepted.now ≤ t.clock.now
  /-- What stands has ended or is live. -/
  kept : ∀ id s accepted, known id = some (s, accepted) → s.HasEnded accepted t.clock ∨
    ∃ deadline, Lasts s accepted deadline ∧
      t.registry.slot? t.clock.now id = some ⟨s, deadline⟩

theorem agrees_start (hleap : wall.isLeap = false) :
    Agrees wall (start ⟨wall, 0⟩) fun _ => none where
  coherent := coherent_start _
  inStep := .refl hleap
  live_stands _ _ h := by simp [start, slot?, empty] at h
  listed_stands _ h := by simp [start, empty] at h
  named _ _ _ h := nomatch h
  kept _ _ _ h := nomatch h

/-- What has ended stays ended. -/
theorem hasEnded_later (h : s.HasEnded accepted c) (hstep : c.InStep c') (hle : c.now ≤ c'.now) :
    s.HasEnded accepted c' := by
  cases hstop : s.termination with
  | none =>
    rw [Subscription.hasEnded_of_none hstop] at h ⊢
    exact Int.le_trans h hle
  | some stop =>
    rw [Subscription.hasEnded_of_some hstop] at h ⊢
    exact Timestamp.le_trans h (hstep.wall_le hle)

namespace Agrees

variable (h : Agrees wall t known)

include h

theorem live_next {slot : Slot Subscription}
    (hslot : (t.next op).registry.slot? (t.next op).clock.now id = some slot) :
    ∃ accepted, t.registry.told t.clock known op id = some (slot.value, accepted) := by
  have hbefore : (t.next op).registry.slot? t.clock.now id = some slot :=
    TtlStore.live?_of_later (op.now_le_clock t.clock) hslot
  exact (t.registry.perform_performed t.clock op).stands h.live_stands hbefore

theorem listed_next (hs : s ∈ (t.next op).registry.directory.entries) :
    ∃ accepted, t.registry.told t.clock known op s.id = some (s, accepted) := by
  have hop := t.registry.perform_performed t.clock op
  have hcoherent : (t.next op).registry.Coherent t.clock.now :=
    Registry.Coherent.performed h.coherent hop
  rcases hop.directory_cases with ⟨hdirectory, htold⟩ | hlive
  · rw [htold]
    apply h.listed_stands
    rwa [← hdirectory]
  · have hmem : s ∈ (t.registry.perform t.clock op).live t.clock.now := hlive ▸ hs
    obtain ⟨id, hget⟩ := mem_live.1 hmem
    obtain ⟨slot, hslot, rfl⟩ := Option.map_eq_some_iff.1 hget
    rw [hcoherent.keyed id slot hslot]
    exact hop.stands h.live_stands hslot

/-- What an operation just accepted is live. -/
theorem kept_of_accept {request : SubscriptionRequest} {ttl : Duration}
    (haccept : t.registry.accept t.clock id request = .ok (s, ttl)) :
    ∃ deadline, Lasts s t.clock deadline ∧
      (t.next (.subscribe id request)).registry.slot? t.clock.now id = some ⟨s, deadline⟩ := by
  obtain ⟨_, -, hretention⟩ := accept_ok haccept
  have hop := t.registry.perform_performed t.clock (.subscribe id request)
  refine ⟨t.clock.now.deadline ttl, ?_, ?_⟩
  · intro c hstep hends
    exact lt_deadline_of_not_hasEnded haccept rfl h.inStep hstep hends
  · show (t.registry.perform t.clock (.subscribe id request)).slot? t.clock.now id = _
    rw [hop.of_accept haccept, slot?_refresh, slot?_put _ _ _ (retention_pos hretention),
      if_pos (id_of_accept haccept)]

/-- What stands and was live stays so until it has ended, unless the operation ends its life. -/
theorem kept_of_not_ends (hknown : known id = some (s, accepted))
    (hends : t.registry.contains t.clock.now id = true → ¬ t.registry.Ends t.clock s op)
    (hstep : t.clock.InStep (t.next op).clock) :
    s.HasEnded accepted (t.next op).clock ∨ ∃ deadline, Lasts s accepted deadline ∧
      (t.next op).registry.slot? (t.next op).clock.now id = some ⟨s, deadline⟩ := by
  obtain ⟨rfl, hsince, -⟩ := h.named id s accepted hknown
  by_cases hended : s.HasEnded accepted (t.next op).clock
  · exact Or.inl hended
  · have hbefore : ¬ s.HasEnded accepted t.clock := fun hbefore =>
      hended (hasEnded_later hbefore hstep (op.now_le_clock t.clock))
    obtain ⟨deadline, hlasts, hlive⟩ := (h.kept s.id s accepted hknown).resolve_left hbefore
    have hcontains : t.registry.contains t.clock.now s.id = true := by
      rw [contains_eq, hlive]
      rfl
    exact Or.inr ⟨deadline, hlasts, slot?_next h.coherent (hends hcontains)
      (Subscription.isExpired_of_not_hasEnded hbefore) hlive
      (hlasts _ (hsince.trans hstep) hended)⟩

theorem next (htogether : op.Together t.clock) :
    Agrees wall (t.next op) (t.registry.told t.clock known op) := by
  have hstep : t.clock.InStep (t.next op).clock := inStep_clock htogether h.inStep.to_leap
  have hle : t.clock.now ≤ (t.next op).clock.now := op.now_le_clock t.clock
  constructor
  case coherent => exact h.coherent.next op
  case inStep => exact h.inStep.trans hstep
  case live_stands =>
    intro id slot hslot
    exact h.live_next hslot
  case listed_stands =>
    intro s hs
    exact h.listed_next hs
  case named =>
    intro id s accepted htold
    rcases told_eq_some htold with ⟨rfl, request, ttl, -, haccept⟩ | ⟨hknown, -⟩
    · exact ⟨id_of_accept haccept, hstep, hle⟩
    · obtain ⟨hid, hsince, hearlier⟩ := h.named id s accepted hknown
      exact ⟨hid, hsince.trans hstep, Int.le_trans hearlier hle⟩
  case kept =>
    intro id s accepted htold
    rcases told_eq_some htold with ⟨rfl, request, ttl, rfl, haccept⟩ | ⟨hknown, hends⟩
    · exact Or.inr (h.kept_of_accept haccept)
    · exact h.kept_of_not_ends hknown (hends (h.named id s accepted hknown).1) hstep

theorem run (htogether : Together t.clock ops) : Agrees wall (t.run ops) (t.standing known ops) := by
  induction ops generalizing t known with
  | nil => exact h
  | cons op rest ih => exact ih (h.next htogether.1) htogether.2

/-- What stands and has not ended is listed. -/
theorem mem_entries (hknown : known s.id = some (s, accepted))
    (hends : ¬ s.HasEnded accepted t.clock) : s ∈ t.registry.directory.entries := by
  obtain ⟨deadline, -, hlive⟩ := (h.kept s.id s accepted hknown).resolve_left hends
  exact h.coherent.listed s.id _ hlive

/-- What stands and has not ended can be terminated. -/
theorem terminate_finds (hknown : known id = some (s, accepted))
    (hends : ¬ s.HasEnded accepted t.clock) :
    ∃ rebuild, (t.registry.terminate t.clock.now id).1 = some (s, rebuild) := by
  obtain ⟨deadline, -, hlive⟩ := (h.kept id s accepted hknown).resolve_left hends
  have hget : t.registry.get? t.clock.now id = some s := by
    rw [get?_eq, hlive]
    rfl
  exact ⟨_, by rw [terminate, hget]⟩

end Agrees

end TimedRegistry

/-- Whether a subscription is to end in a leap second that has not come, while the second before it
has. -/
def Subscription.EndsInLeap (s : Subscription) (wall : Timestamp) : Prop :=
  ∃ stop, s.termination = some stop ∧ stop.unleaped ≤ wall ∧ ¬ stop ≤ wall

/-- A subscription that is before its termination time, and was accepted less than a year ago if it
has none, has not ended. -/
theorem Subscription.not_hasEnded {s : Subscription} {accepted c : Clock}
    (hexpired : s.isExpired c.wall = false) (hleap : ¬ s.EndsInLeap c.wall)
    (hyear : s.termination = none → c.now < accepted.now + Registry.openEndedRetention) :
    ¬ s.HasEnded accepted c := by
  cases hstop : s.termination with
  | none =>
    rw [hasEnded_of_none hstop]
    exact Int.not_le.2 (hyear hstop)
  | some stop =>
    rw [hasEnded_of_some hstop]
    intro hpast
    exact hleap ⟨stop, hstop, hpast, isExpired_eq_false_iff.1 hexpired stop hstop⟩

namespace TimedRegistry

open Registry

variable {t : TimedRegistry} {known : Standing} {wall : Timestamp}

/-- The directory tells subscriptions of other kinds apart only for speed. -/
theorem matching_eq (r : Registry) (c : Clock) (kind : DataKind) (dataset : String) :
    (r.lookup c kind dataset).1.matching =
      r.directory.entries.filter fun s => !s.isExpired c.wall && s.concerns kind dataset := by
  rw [matching_lookup, List.filter_filter]
  congr 1
  funext s
  unfold Subscription.concerns
  cases decide (s.kind = kind) with
  | true => rw [Bool.and_true]
  | false => rw [Bool.and_false, Bool.false_and, Bool.and_false]

/-- Whether a list of subscriptions shows what stands of the wanted ones: each once and in order of
its identifier, only what stands and is before its termination time, and all of that, as far as
subscriptions without a termination time were accepted less than a year ago and none is to end in a
leap second that begins now. -/
structure Shows (t : TimedRegistry) (known : Standing) (wanted : Subscription → Bool)
    (shown : List Subscription) : Prop where
  ascending : shown.Pairwise fun s s' => compare s.id s'.id = .lt
  sound : ∀ s ∈ shown, (∃ accepted, known s.id = some (s, accepted)) ∧ wanted s = true ∧
    s.isExpired t.clock.wall = false
  complete : ∀ s accepted, known s.id = some (s, accepted) → wanted s = true →
    s.isExpired t.clock.wall = false →
    (s.termination = none → t.clock.now < accepted.now + openEndedRetention) →
    ¬ s.EndsInLeap t.clock.wall → s ∈ shown

/-- Selecting what is before its termination time from the directory shows what stands. -/
theorem Agrees.shows (h : Agrees wall t known) (wanted : Subscription → Bool) :
    t.Shows known wanted
      (t.registry.directory.entries.filter fun s => !s.isExpired t.clock.wall && wanted s) where
  ascending := h.coherent.ascending.filter _
  sound s hs := by
    obtain ⟨hentry, htest⟩ := List.mem_filter.1 hs
    obtain ⟨hexpired, hwanted⟩ := Bool.and_eq_true_iff.1 htest
    rw [Bool.not_eq_true'] at hexpired
    exact ⟨h.listed_stands s hentry, hwanted, hexpired⟩
  complete s accepted hknown hwanted hexpired hyear hleap := by
    have hentry := h.mem_entries hknown (Subscription.not_hasEnded hexpired hleap hyear)
    refine List.mem_filter.2 ⟨hentry, ?_⟩
    rw [hexpired, hwanted]
    rfl

/-- At every moment of a run matching finds what stands, is before its termination time and is
concerned by the kind and the dataset, in ascending order of the identifiers, and the list of
subscriptions has what stands for all kinds and datasets. A termination finds what stands and has not
ended, so only what has ended can stand after somebody asked for its termination. -/
theorem shows_standing (wall : Timestamp) (hleap : wall.isLeap = false) (ops : List RegistryOp)
    (htogether : Together ⟨wall, 0⟩ ops) :
    let t := (start ⟨wall, 0⟩).run ops
    let known := (start ⟨wall, 0⟩).standing (fun _ => none) ops
    (∀ kind dataset, t.Shows known (fun s => s.concerns kind dataset)
      (t.registry.lookup t.clock kind dataset).1.matching) ∧
    t.Shows known (fun _ => true) (t.registry.list t.clock.wall) ∧
    ∀ id s accepted, known id = some (s, accepted) → ¬ s.HasEnded accepted t.clock →
      ∃ rebuild, (t.registry.terminate t.clock.now id).1 = some (s, rebuild) := by
  intro t known
  have hagrees : Agrees wall t known := (agrees_start hleap).run htogether
  refine ⟨fun kind dataset => ?_, ?_, fun id s accepted => hagrees.terminate_finds⟩
  · rw [matching_eq]
    exact hagrees.shows fun s => s.concerns kind dataset
  · have hlist : t.registry.list t.clock.wall =
        t.registry.directory.entries.filter fun s => !s.isExpired t.clock.wall && true := by
      simp [list]
    rw [hlist]
    exact hagrees.shows fun _ => true

/-- After ten months a subscription for one dataset is still found for it. -/
theorem shows_standing_after_ten_months :
    let request : SubscriptionRequest := {
      kind := .vehicleMonitoring, address := some "http://consumer/push", dataset := some "A" }
    let s := request.subscription "sub" "http://consumer/push" .epoch
    let ops : List RegistryOp :=
      [.subscribe "sub" request, .pass (.advance (300 * Duration.day)), .sweep, .refresh]
    let t := (start ⟨.epoch, 0⟩).run ops
    s ∈ (t.registry.lookup t.clock .vehicleMonitoring "A").1.matching := by
  intro request s ops t
  have haddress : request.address? = some "http://consumer/push" := by decide +kernel
  have hnew : (start ⟨.epoch, 0⟩).registry.contains 0 "sub" = false := by decide +kernel
  obtain ⟨rebuild, haccepted⟩ := subscribe_of_absent (c := ⟨.epoch, 0⟩) hnew haddress rfl
  have htogether : Together ⟨.epoch, 0⟩ ops := by
    refine ⟨trivial, ?_, trivial, trivial, trivial⟩
    show (Timestamp.epoch.plus? ((300 * Duration.day : Nat) : Int)).isSome = true
    decide +kernel
  have hknown : (start ⟨.epoch, 0⟩).standing (fun _ => none) ops "sub" =
      some (s, ⟨.epoch, 0⟩) := by
    obtain ⟨ttl, haccept, -⟩ := next_of_accept (t := start ⟨.epoch, 0⟩) haccepted
    show (start ⟨.epoch, 0⟩).registry.told (start ⟨.epoch, 0⟩).clock (fun _ => none)
      (.subscribe "sub" request) "sub" = _
    rw [told_accepted haccept, Function.update_self]
    rfl
  apply ((shows_standing .epoch (by decide) ops htogether).1 .vehicleMonitoring "A").complete s
    ⟨.epoch, 0⟩ hknown
  · decide +kernel
  · decide +kernel
  · intro _
    decide +kernel
  · intro hleap
    obtain ⟨stop, hstop, -⟩ := hleap
    exact nomatch hstop

/-- A subscription is to end in a leap second of the next day. Less than a second before its
termination time the directory is built again without it, though nobody terminated or cancelled
it. -/
theorem standing_not_shown_in_leap :
    let noon := Timestamp.epoch.advance (12 * Duration.hour : Nat)
    let stop : Timestamp := { day := 1, second := 59, nano := 1500000000 }
    let request : SubscriptionRequest := {
      kind := .vehicleMonitoring, address := some "http://consumer/push", termination := some stop }
    let ops : List RegistryOp :=
      [.subscribe "sub" request, .pass (.advance 43259700000000), .refresh]
    let t := (start ⟨noon, 0⟩).run ops
    ((start ⟨noon, 0⟩).standing (fun _ => none) ops "sub").any (fun (s, _) =>
        s.concerns .vehicleMonitoring "A" && !s.isExpired t.clock.wall) = true ∧
      (t.registry.lookup t.clock .vehicleMonitoring "A").1.matching.isEmpty = true ∧
      (t.registry.list t.clock.wall).isEmpty = true := by
  intro noon stop request ops t
  refine ⟨?_, ?_, ?_⟩
  · decide +kernel
  · decide +kernel
  · decide +kernel

end TimedRegistry

end TransitHub
