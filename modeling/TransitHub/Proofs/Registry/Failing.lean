/-
# The course of failures

Pushes to a subscription fail and go through. From when the first one failed since the last one went
through it is degraded, and the first failure that comes too late after that cancels it. Nothing
else has a say in this, as long as the subscription stays as it is: `failingSince` reads the start
of the streak off the course of events alone, and `Answers` is what every failure and every status
then says.

The failure of a push is handled as of an instant that is its own; it need not be the present.
`Incident` adds such failures to the operations of a registry.

Where the course begins, it is not quite so. A subscription begins with the streak that is left of
its identifier, and only if there is none do its own failures alone decide.
-/

import TransitHub.Proofs.Registry.Lifetime

namespace TransitHub

/-- An operation on a registry, or the failure of a push that is handled as of some instant. -/
inductive Incident
  | operation (op : RegistryOp)
  | failure (failedAt : Instant) (pushed : Subscription)

namespace Incident

/-- The clocks afterwards. -/
def clock (c : Clock) : Incident → Clock
  | .operation op => op.clock c
  | .failure _ _ => c

theorem now_le_clock (c : Clock) (i : Incident) : c.now ≤ (i.clock c).now := by
  cases i with
  | operation op => exact op.now_le_clock c
  | failure => exact Int.le_refl c.now

/-- The start of the failures of an identifier after an incident, from that before it. -/
def failing (id : String) (now : Instant) (start : Option Instant) : Incident → Option Instant
  | .operation (.failure pushed) => if pushed.id = id then some (start.getD now) else start
  | .failure failedAt pushed => if pushed.id = id then some (start.getD failedAt) else start
  | .operation (.success succeeded) => if succeeded = id then none else start
  | .operation _ => start

end Incident

namespace FailureStreaks

theorem clear_of_start? {s : FailureStreaks} {id : String} (h : s.start? id = none) :
    s.clear id = s := by
  obtain ⟨starts⟩ := s
  refine congrArg FailureStreaks.mk (Std.ExtTreeMap.ext_getElem? fun k => ?_)
  rw [Std.ExtTreeMap.getElem?_erase]
  split
  · next heq =>
    rw [Std.LawfulEqOrd.compare_eq_iff_eq] at heq
    rw [← heq]
    exact h.symm
  · rfl

end FailureStreaks

/-- The grace period of a subscription is within the range of spans. -/
theorem Subscription.gracePeriod_eq (s : Subscription) :
    FailureStreaks.gracePeriod s.heartbeatInterval =
      max (3 * s.heartbeatInterval) (5 * Duration.minute) := by
  have hmillis := s.heartbeatMillis.toNat_lt
  unfold FailureStreaks.gracePeriod Duration.times Subscription.heartbeatInterval Duration.ofMillis
    Duration.longest
  have hrange : s.heartbeatMillis.toNat * Duration.millisecond * 3 ≤
      UInt64.size * Duration.second - 1 := by
    show _ ≤ 18446744073709551616 * 1000000000 - 1
    unfold Duration.millisecond
    omega
  rw [Nat.min_eq_left hrange, Nat.mul_comm _ 3]

namespace Registry

variable {r r' : Registry} {c : Clock} {now : Instant} {id : String}

/-! ## A failure -/

/-- A failure is ignored if there is no such subscription. What is left of a streak goes. -/
theorem noteFailure_of_absent {failedAt : Instant} {pushed : Subscription}
    (h : r.contains now pushed.id = false) :
    r.noteFailure now failedAt pushed = (.ignored, r.recover pushed.id) := by
  rw [noteFailure, h]
  rfl

/-- How long a subscription that fails at an instant has been failing then. -/
theorem failingFor?_fail (r : Registry) (failedAt : Instant) (id : String) :
    (r.fail failedAt id).streaks.failingFor? id failedAt =
      some (failedAt.since ((r.streaks.start? id).getD failedAt)) := by
  rw [FailureStreaks.failingFor?, start?_fail, if_pos rfl, Option.map_some]

theorem noteFailure_of_grace {failedAt : Instant} {pushed : Subscription}
    (hlive : r.contains now pushed.id = true) (hgrace : r.cancels failedAt pushed = false) :
    r.noteFailure now failedAt pushed =
      (.degraded (failedAt.since ((r.streaks.start? pushed.id).getD failedAt)),
        r.fail failedAt pushed.id) := by
  have hexceeds := (r.exceeds_fail failedAt pushed).trans hgrace
  have hfailing := r.failingFor?_fail failedAt pushed.id
  rw [fail] at hexceeds hfailing ⊢
  simp only [noteFailure, hlive, hexceeds, hfailing, if_true, Bool.false_eq_true, if_false,
    Option.getD_some]

theorem noteFailure_of_cancels {failedAt : Instant} {pushed : Subscription}
    (hlive : r.contains now pushed.id = true) (hgrace : r.cancels failedAt pushed = true) :
    r.noteFailure now failedAt pushed =
      (.cancelled (failedAt.since ((r.streaks.start? pushed.id).getD failedAt))
        (FailureStreaks.gracePeriod pushed.heartbeatInterval)
        (((r.fail failedAt pushed.id).drop pushed.id).refresh now).1,
        (((r.fail failedAt pushed.id).drop pushed.id).refresh now).2) := by
  have hexceeds := (r.exceeds_fail failedAt pushed).trans hgrace
  have hfailing := r.failingFor?_fail failedAt pushed.id
  rw [fail] at hexceeds hfailing ⊢
  simp only [noteFailure, hlive, hexceeds, hfailing, if_true, Option.getD_some]

/-! ## Streaks -/

theorem start?_foldl_drop_of_notMem {ended : List Subscription}
    (h : id ∉ ended.map Subscription.id) :
    (ended.foldl (fun r s => r.drop s.id) r).streaks.start? id = r.streaks.start? id := by
  induction ended generalizing r with
  | nil => rfl
  | cons s rest ih =>
    rw [List.map_cons, List.mem_cons, not_or] at h
    rw [List.foldl_cons, ih h.2, start?_drop, if_neg (Ne.symm h.1)]

theorem ne_of_contains_drop {dropped : String} (h : (r.drop dropped).contains now id = true) :
    dropped ≠ id := by
  intro hid
  rw [contains_eq, slot?_drop, if_pos hid] at h
  exact nomatch h

theorem start?_drop_of_contains {dropped : String}
    (h : (r.drop dropped).contains now id = true) :
    (r.drop dropped).streaks.start? id = r.streaks.start? id := by
  rw [start?_drop, if_neg (ne_of_contains_drop h)]

/-- A new directory keeps the streak of what is live. -/
theorem start?_refresh_of_contains (hlive : (r.refresh now).2.contains now id = true) :
    (r.refresh now).2.streaks.start? id = r.streaks.start? id := by
  show (r.streaks.retain (r.contains now)).start? id = _
  rw [FailureStreaks.start?_retain, show r.contains now id = true from hlive]
  cases r.streaks.start? id <;> rfl

/-- A failure after which a subscription is still there starts a streak of it if it has none. -/
theorem start?_noteFailure {failedAt : Instant} {pushed : Subscription}
    (hbefore : r.contains now id = true)
    (hafter : (r.noteFailure now failedAt pushed).2.contains now id = true) :
    (r.noteFailure now failedAt pushed).2.streaks.start? id =
      if pushed.id = id then some ((r.streaks.start? id).getD failedAt)
      else r.streaks.start? id := by
  have hfail : (r.fail failedAt pushed.id).streaks.start? id =
      if pushed.id = id then some ((r.streaks.start? id).getD failedAt)
      else r.streaks.start? id := by
    rw [start?_fail]
    split
    · next hid => rw [hid]
    · rfl
  cases hlive : r.contains now pushed.id with
  | false =>
    have hother : pushed.id ≠ id := by
      rintro rfl
      exact Bool.false_ne_true (hlive.symm.trans hbefore)
    rw [noteFailure_of_absent hlive, start?_recover, if_neg hother, if_neg hother]
  | true =>
    cases hgrace : r.cancels failedAt pushed with
    | false => rw [noteFailure_of_grace hlive hgrace, hfail]
    | true =>
      rw [noteFailure_of_cancels hlive hgrace] at hafter ⊢
      have hother : pushed.id ≠ id := ne_of_contains_drop hafter
      exact (start?_refresh_of_contains hafter).trans
        (by rw [start?_drop, if_neg hother, hfail])

/-- No operation moves the streak of a subscription that is there before and afterwards, other than
by its failures and successes. -/
theorem start?_perform {op : RegistryOp} (hbefore : r.contains c.now id = true)
    (hafter : (r.perform c op).contains c.now id = true) :
    (r.perform c op).streaks.start? id =
      Incident.failing id c.now (r.streaks.start? id) (.operation op) := by
  by_cases hfailure : ∃ pushed, op = .failure pushed
  · obtain ⟨pushed, rfl⟩ := hfailure
    exact start?_noteFailure hbefore hafter
  have hperformed := r.perform_performed c op
  generalize r.perform c op = r' at hperformed hafter
  cases hperformed with
  | accepted => exact start?_refresh_of_contains hafter
  | rejected => rfl
  | unknown => exact start?_drop_of_contains hafter
  | terminated =>
    exact (start?_refresh_of_contains hafter).trans (start?_drop_of_contains hafter)
  | rebuilt => exact start?_refresh_of_contains hafter
  | matched => rfl
  | ended kind =>
    have hother : id ∉ (r.ended c.wall kind).map Subscription.id := by
      intro hmem
      rw [contains_eq, slot?_refresh, slot?_foldl_drop, if_pos hmem] at hafter
      exact nomatch hafter
    exact (start?_refresh_of_contains hafter).trans (start?_foldl_drop_of_notMem hother)
  | ignored pushed => exact absurd ⟨pushed, rfl⟩ hfailure
  | degraded pushed => exact absurd ⟨pushed, rfl⟩ hfailure
  | cancelled pushed => exact absurd ⟨pushed, rfl⟩ hfailure
  | succeeded => exact r.start?_recover _ _
  | touched => rfl
  | listed => rfl
  | swept => rfl
  | passed => rfl

/-! ## Subscriptions and directory -/

/-- The registry without its streaks. A failure that is handled as of a later instant puts its
streak out of step with the present, but nothing else. -/
def streakless (r : Registry) : Registry := { r with streaks := {} }

theorem Coherent.streakless_of (h : r.Coherent now) (hdirectory : r'.directory = r.directory)
    (hslots : ∀ id slot, r'.slot? now id = some slot → r.slot? now id = some slot) :
    r'.streakless.Coherent now :=
  h.shrink hdirectory hslots fun _ _ hstart => nomatch hstart.symm.trans Std.ExtTreeMap.getElem?_empty

theorem Coherent.streakless_noteFailure (h : r.streakless.Coherent now) (failedAt : Instant)
    (pushed : Subscription) : (r.noteFailure now failedAt pushed).2.streakless.Coherent now := by
  cases hlive : r.contains now pushed.id with
  | false =>
    rw [noteFailure_of_absent hlive]
    exact h.streakless_of rfl fun _ _ hslot => hslot
  | true =>
    cases hgrace : r.cancels failedAt pushed with
    | false =>
      rw [noteFailure_of_grace hlive hgrace]
      exact h.streakless_of rfl fun _ _ hslot => hslot
    | true =>
      rw [noteFailure_of_cancels hlive hgrace]
      exact (h.drop pushed.id).refresh.streakless_of rfl fun _ _ hslot => hslot

theorem Coherent.streakless_perform (h : r.streakless.Coherent c.now) (op : RegistryOp) :
    (r.perform c op).streakless.Coherent c.now := by
  have hperformed := r.perform_performed c op
  generalize r.perform c op = r' at hperformed
  cases hperformed with
  | accepted _ _ s _ haccept =>
    obtain ⟨_, -, hretention⟩ := accept_ok haccept
    exact (h.accept s (retention_pos hretention)).streakless_of rfl fun _ _ hslot => hslot
  | rejected => exact h
  | unknown id => exact (h.drop id).streakless_of rfl fun _ _ hslot => hslot
  | terminated id => exact (h.drop id).refresh.streakless_of rfl fun _ _ hslot => hslot
  | rebuilt => exact h.refresh.streakless_of rfl fun _ _ hslot => hslot
  | matched => exact h
  | ended kind =>
    have hdropped : ((r.ended c.wall kind).foldl (fun r s => r.drop s.id) r).streakless.Coherent
        c.now :=
      List.foldlRecOn (motive := fun r : Registry => r.streakless.Coherent c.now) _ _ h
        fun _ h s _ => (h.drop s.id).streakless_of rfl fun _ _ hslot => hslot
    exact hdropped.refresh.streakless_of rfl fun _ _ hslot => hslot
  | ignored => exact h
  | degraded => exact h
  | cancelled s => exact (h.drop s.id).refresh.streakless_of rfl fun _ _ hslot => hslot
  | succeeded => exact h
  | touched id => exact h.streakless_of rfl fun id' _ hslot => (r.slot?_touch c.now id id').symm.trans hslot
  | listed => exact h
  | swept => exact h.streakless_of rfl fun id _ hslot => (r.slot?_sweep c.now id).symm.trans hslot
  | passed => exact h

/-- Nothing of an identifier is left. -/
structure Removed (r : Registry) (now : Instant) (id : String) : Prop where
  absent : r.slot? now id = none
  unlisted : ∀ s ∈ r.directory.entries, s.id ≠ id
  unfailing : r.streaks.start? id = none

namespace Removed

theorem later (h : r.Removed now id) {moment : Instant} (hle : now ≤ moment) :
    r.Removed moment id where
  absent := by
    cases hslot : r.slot? moment id with
    | none => rfl
    | some slot => exact nomatch h.absent.symm.trans (TtlStore.live?_of_later hle hslot)
  unlisted := h.unlisted
  unfailing := h.unfailing

/-- What is gone is not in a new directory. -/
theorem of_refresh (hkeyed : ∀ id slot, r.slot? now id = some slot → slot.value.id = id)
    (habsent : r.slot? now id = none) (hunfailing : r.streaks.start? id = none) :
    (r.refresh now).2.Removed now id where
  absent := habsent
  unlisted s hs hid := by
    obtain ⟨id', hget⟩ := mem_live.1 hs
    obtain ⟨slot, hslot, rfl⟩ := Option.map_eq_some_iff.1 hget
    have hsame : id' = id := (hkeyed id' slot hslot).symm.trans hid
    exact nomatch (hsame ▸ habsent).symm.trans hslot
  unfailing := by
    show (r.streaks.retain (r.contains now)).start? id = none
    rw [FailureStreaks.start?_retain, hunfailing]
    rfl

theorem refresh (h : r.Removed now id) (hafter : (r.refresh now).2.streakless.Coherent now) :
    (r.refresh now).2.Removed now id :=
  of_refresh hafter.keyed h.absent h.unfailing

theorem drop (h : r.Removed now id) (dropped : String) : (r.drop dropped).Removed now id where
  absent := by
    rw [slot?_drop, h.absent, ite_self]
  unlisted := h.unlisted
  unfailing := by
    rw [start?_drop, h.unfailing, ite_self]

theorem noteFailure (h : r.Removed now id) (hcoherent : r.streakless.Coherent now)
    (failedAt : Instant) (pushed : Subscription) :
    (r.noteFailure now failedAt pushed).2.Removed now id := by
  have hafter := hcoherent.streakless_noteFailure failedAt pushed
  cases hlive : r.contains now pushed.id with
  | false =>
    rw [noteFailure_of_absent hlive]
    refine ⟨h.absent, h.unlisted, ?_⟩
    rw [start?_recover, h.unfailing, ite_self]
  | true =>
    have hother : pushed.id ≠ id := by
      rintro rfl
      rw [contains_eq, h.absent] at hlive
      exact nomatch hlive
    have hfail : (r.fail failedAt pushed.id).Removed now id := by
      refine ⟨h.absent, h.unlisted, ?_⟩
      rw [start?_fail, if_neg hother, h.unfailing]
    cases hgrace : r.cancels failedAt pushed with
    | false =>
      rw [noteFailure_of_grace hlive hgrace]
      exact hfail
    | true =>
      rw [noteFailure_of_cancels hlive hgrace] at hafter ⊢
      exact (hfail.drop pushed.id).refresh hafter

/-- Nothing but an accepted request brings an identifier back. -/
theorem perform {op : RegistryOp} (h : r.Removed c.now id)
    (hcoherent : r.streakless.Coherent c.now)
    (hrefused : ∀ request accepted, op = .subscribe id request →
      r.accept c id request ≠ .ok accepted) : (r.perform c op).Removed c.now id := by
  by_cases hfailure : ∃ pushed, op = .failure pushed
  · obtain ⟨pushed, rfl⟩ := hfailure
    exact h.noteFailure hcoherent c.now pushed
  have hafter := hcoherent.streakless_perform op
  have hperformed := r.perform_performed c op
  generalize r.perform c op = r' at hperformed hafter
  cases hperformed with
  | accepted id' request s ttl haccept =>
    obtain ⟨_, -, hretention⟩ := accept_ok haccept
    have hother : s.id ≠ id := by
      rintro rfl
      rw [id_of_accept haccept] at hrefused
      exact hrefused request (s, ttl) rfl haccept
    refine of_refresh hafter.keyed ?_ h.unfailing
    rw [slot?_put r c.now s (retention_pos hretention), if_neg hother]
    exact h.absent
  | rejected => exact h
  | unknown id' => exact h.drop id'
  | terminated id' => exact (h.drop id').refresh hafter
  | rebuilt => exact h.refresh hafter
  | matched => exact h
  | ended kind =>
    have hdropped : ((r.ended c.wall kind).foldl (fun r s => r.drop s.id) r).Removed c.now id :=
      List.foldlRecOn (motive := fun r : Registry => r.Removed c.now id) _ _ h
        fun _ h s _ => h.drop s.id
    exact hdropped.refresh hafter
  | ignored pushed => exact absurd ⟨pushed, rfl⟩ hfailure
  | degraded pushed => exact absurd ⟨pushed, rfl⟩ hfailure
  | cancelled pushed => exact absurd ⟨pushed, rfl⟩ hfailure
  | succeeded id' =>
    refine ⟨h.absent, h.unlisted, ?_⟩
    rw [start?_recover, h.unfailing, ite_self]
  | touched id' => exact ⟨(r.slot?_touch c.now id' id).trans h.absent, h.unlisted, h.unfailing⟩
  | listed => exact h
  | swept => exact ⟨(r.slot?_sweep c.now id).trans h.absent, h.unlisted, h.unfailing⟩
  | passed => exact h

end Removed

/-- A cancellation leaves nothing of the subscription. -/
theorem removed_of_cancelled (h : r.streakless.Coherent now) {failedAt : Instant}
    {pushed : Subscription} {failingFor grace : Duration} {rebuild : Rebuild}
    (hcancelled : (r.noteFailure now failedAt pushed).1 = .cancelled failingFor grace rebuild) :
    (r.noteFailure now failedAt pushed).2.Removed now pushed.id := by
  have hafter := h.streakless_noteFailure failedAt pushed
  cases hlive : r.contains now pushed.id with
  | false =>
    rw [noteFailure_of_absent hlive] at hcancelled
    exact nomatch hcancelled
  | true =>
    cases hgrace : r.cancels failedAt pushed with
    | false =>
      rw [noteFailure_of_grace hlive hgrace] at hcancelled
      exact nomatch hcancelled
    | true =>
      rw [noteFailure_of_cancels hlive hgrace] at hafter ⊢
      refine .of_refresh hafter.keyed ?_ ?_
      · rw [slot?_drop, if_pos rfl]
      · rw [start?_drop, if_pos rfl]

end Registry

namespace TimedRegistry

open Registry

variable {t : TimedRegistry} {s : Subscription} {id : String}

/-! ## The course of incidents -/

/-- The registry after one incident more. -/
def undergo (t : TimedRegistry) : Incident → TimedRegistry
  | .operation op => t.next op
  | .failure failedAt pushed =>
    { t with registry := (t.registry.noteFailure t.clock.now failedAt pushed).2 }

/-- The incidents in their order. -/
def course (t : TimedRegistry) (incidents : List Incident) : TimedRegistry :=
  incidents.foldl undergo t

/-- The start of the failures of an identifier after a course of incidents, from that before it: the
first failure since the last success. -/
def failingSince (id : String) (c : Clock) (start : Option Instant) :
    List Incident → Option Instant
  | [] => start
  | i :: rest => failingSince id (i.clock c) (i.failing id c.now start) rest

/-- Whether a subscription stays as it is through a course of incidents. -/
def Keeps (t : TimedRegistry) (s : Subscription) : List Incident → Prop
  | [] => t.registry.get? t.clock.now s.id = some s
  | i :: rest => t.registry.get? t.clock.now s.id = some s ∧ (t.undergo i).Keeps s rest

/-- Whether every request for an identifier is refused in a course of incidents. -/
def Refuses (t : TimedRegistry) (id : String) : List Incident → Prop
  | [] => True
  | i :: rest =>
    (∀ request, i = .operation (.subscribe id request) →
      ∃ e, (t.registry.subscribe t.clock id request).1 = .error e) ∧
    (t.undergo i).Refuses id rest

theorem clock_undergo (t : TimedRegistry) (i : Incident) :
    (t.undergo i).clock = i.clock t.clock := by
  cases i <;> rfl

theorem Keeps.present {incidents : List Incident} (h : t.Keeps s incidents) :
    t.registry.get? t.clock.now s.id = some s := by
  cases incidents with
  | nil => exact h
  | cons => exact h.1

theorem Keeps.finally {incidents : List Incident} (h : t.Keeps s incidents) :
    (t.course incidents).registry.get? (t.course incidents).clock.now s.id = some s := by
  induction incidents generalizing t with
  | nil => exact h
  | cons i rest ih => exact ih h.2

/-- A failure that does not cancel keeps a subscription. -/
theorem Keeps.failure (h : t.Keeps s []) {failedAt : Instant} {pushed : Subscription}
    (hgrace : t.registry.cancels failedAt pushed = false) :
    t.Keeps s [.failure failedAt pushed] := by
  refine ⟨h, ?_⟩
  show (t.registry.noteFailure t.clock.now failedAt pushed).2.get? t.clock.now s.id = some s
  cases hlive : t.registry.contains t.clock.now pushed.id with
  | false => rw [noteFailure_of_absent hlive]; exact h
  | true => rw [noteFailure_of_grace hlive hgrace]; exact h

/-- The streak of a subscription that is kept is the one that the course of incidents makes. -/
theorem start?_course {incidents : List Incident} (h : t.Keeps s incidents) :
    (t.course incidents).registry.streaks.start? s.id =
      failingSince s.id t.clock (t.registry.streaks.start? s.id) incidents := by
  induction incidents generalizing t with
  | nil => rfl
  | cons i rest ih =>
    have hbefore : t.registry.contains t.clock.now s.id = true := contains_iff.2 ⟨s, h.1⟩
    have hafter : (t.undergo i).registry.contains t.clock.now s.id = true := by
      obtain ⟨slot, hslot, -⟩ := Option.map_eq_some_iff.1 h.2.present
      rw [clock_undergo] at hslot
      exact Option.isSome_iff_exists.2
        ⟨slot, TtlStore.live?_of_later (i.now_le_clock t.clock) hslot⟩
    have hstep : (t.undergo i).registry.streaks.start? s.id =
        i.failing s.id t.clock.now (t.registry.streaks.start? s.id) := by
      cases i with
      | operation op => exact start?_perform hbefore hafter
      | failure failedAt pushed => exact start?_noteFailure hbefore hafter
    rw [failingSince, ← hstep, ← clock_undergo]
    exact ih h.2

/-! ## Invariants -/

/-- The parts of the registry agree now, apart from its streaks. -/
def Indexed (t : TimedRegistry) : Prop := t.registry.streakless.Coherent t.clock.now

theorem indexed_start (c : Clock) : (start c).Indexed := Registry.coherent_empty c.now

theorem Indexed.undergo (h : t.Indexed) (i : Incident) : (t.undergo i).Indexed := by
  cases i with
  | operation op => exact (h.streakless_perform op).later (op.now_le_clock t.clock)
  | failure failedAt pushed => exact h.streakless_noteFailure failedAt pushed

theorem Indexed.course (h : t.Indexed) (incidents : List Incident) :
    (t.course incidents).Indexed :=
  List.foldlRecOn (motive := Indexed) incidents _ h fun _ h i _ => h.undergo i

/-- What is gone stays so until a request for it is accepted. -/
theorem removed_course {incidents : List Incident} (hindexed : t.Indexed)
    (h : t.registry.Removed t.clock.now id) (hrefused : t.Refuses id incidents) :
    (t.course incidents).registry.Removed (t.course incidents).clock.now id := by
  induction incidents generalizing t with
  | nil => exact h
  | cons i rest ih =>
    refine ih (hindexed.undergo i) ?_ hrefused.2
    cases i with
    | operation op =>
      refine (h.perform hindexed fun request accepted hop haccept => ?_).later
        (op.now_le_clock t.clock)
      obtain ⟨e, he⟩ := hrefused.1 request (congrArg Incident.operation hop)
      rw [Registry.subscribe, haccept] at he
      cases he
    | failure failedAt pushed => exact h.noteFailure hindexed failedAt pushed

/-! ## Answers -/

/-- How the failures of a subscription and its status are answered, given since when it fails. -/
structure Answers (t : TimedRegistry) (s : Subscription) (start : Option Instant) : Prop where
  /-- A failure that comes too late after the first one cancels. -/
  cancelled : ∀ failedAt : Instant,
    max (3 * s.heartbeatInterval) (5 * Duration.minute) < failedAt.since (start.getD failedAt) →
    ∃ rebuild, (t.registry.noteFailure t.clock.now failedAt s).1 =
      .cancelled (failedAt.since (start.getD failedAt))
        (max (3 * s.heartbeatInterval) (5 * Duration.minute)) rebuild
  degraded : ∀ failedAt : Instant,
    failedAt.since (start.getD failedAt) ≤ max (3 * s.heartbeatInterval) (5 * Duration.minute) →
    (t.registry.noteFailure t.clock.now failedAt s).1 =
      .degraded (failedAt.since (start.getD failedAt))
  status : ∀ s' failing, s'.id = s.id →
    ((s', failing) ∈ t.registry.status t.clock.wall t.clock.now ↔
      s' = s ∧ s.isExpired t.clock.wall = false ∧ failing = start.map t.clock.now.since)

/-- A live subscription is answered by the streak that is kept of it. -/
theorem answers_start? (hindexed : t.Indexed)
    (hlive : t.registry.get? t.clock.now s.id = some s) :
    t.Answers s (t.registry.streaks.start? s.id) := by
  have hcontains : t.registry.contains t.clock.now s.id = true := contains_iff.2 ⟨s, hlive⟩
  obtain ⟨slot, hslot, hvalue⟩ := Option.map_eq_some_iff.1 hlive
  refine ⟨fun failedAt hgrace => ?_, fun failedAt hgrace => ?_, fun s' failing hid => ?_⟩
  · rw [← s.gracePeriod_eq] at hgrace ⊢
    rw [noteFailure_of_cancels hcontains (decide_eq_true hgrace)]
    exact ⟨_, rfl⟩
  · rw [← s.gracePeriod_eq] at hgrace
    rw [noteFailure_of_grace hcontains (decide_eq_false (Nat.not_lt.2 hgrace))]
  · have hlisted : s ∈ t.registry.directory.entries := hvalue ▸ hindexed.listed s.id slot hslot
    simp only [Registry.status, Registry.list, List.mem_map, List.mem_filter, Prod.mk.injEq,
      Bool.not_eq_true']
    constructor
    · rintro ⟨listed, ⟨hmem, hends⟩, rfl, rfl⟩
      obtain rfl : listed = s := hindexed.listed_once hmem hlisted hid
      exact ⟨rfl, hends, rfl⟩
    · rintro ⟨rfl, hends, rfl⟩
      exact ⟨s', ⟨hlisted, hends⟩, rfl, rfl⟩

/-- Where failures are answered as if none had come before, none has. -/
theorem Answers.eq_none {left : Option Instant} (h : t.Answers s none) (hleft : t.Answers s left) :
    left = none := by
  cases left with
  | none => rfl
  | some start =>
    let grace := max (3 * s.heartbeatInterval) (5 * Duration.minute)
    let failedAt : Instant := start + (grace + 1 : Nat)
    have hlate : failedAt.since start = grace + 1 := by
      show (start + ((grace + 1 : Nat) : Int) - start).toNat = grace + 1
      omega
    obtain ⟨rebuild, hcancelled⟩ := hleft.cancelled failedAt (by
      show grace < failedAt.since start
      rw [hlate]
      exact Nat.lt_succ_self grace)
    have hdegraded := h.degraded failedAt (by
      show failedAt.since failedAt ≤ grace
      rw [Instant.since, Int.sub_self]
      exact Nat.zero_le grace)
    exact nomatch hdegraded.symm.trans hcancelled

/-- Whether a subscription is nowhere to be seen, and whatever still comes back from a push to it is
without effect. -/
structure Gone (t : TimedRegistry) (id : String) : Prop where
  absent : t.registry.contains t.clock.now id = false
  unlisted : ∀ s ∈ t.registry.list t.clock.wall, s.id ≠ id
  unmatched : ∀ kind dataset, ∀ s ∈ (t.registry.lookup t.clock kind dataset).1.matching, s.id ≠ id
  failures_ignored : ∀ failedAt pushed, pushed.id = id →
    t.registry.noteFailure t.clock.now failedAt pushed = (.ignored, t.registry)
  successes_ignored : t.registry.noteSuccess id = (false, t.registry)
  unfailing : t.registry.streaks.start? id = none

theorem gone_of_removed (h : t.registry.Removed t.clock.now id) : t.Gone id := by
  have hrecover : t.registry.recover id = t.registry := by
    rw [recover, FailureStreaks.clear_of_start? h.unfailing]
  have habsent : t.registry.contains t.clock.now id = false := by
    rw [contains_eq, h.absent]
    rfl
  refine ⟨habsent, fun s hs => h.unlisted s (List.mem_filter.1 hs).1, fun kind dataset s hs => ?_,
    fun failedAt pushed hid => ?_, ?_, h.unfailing⟩
  · rw [matching_lookup] at hs
    exact h.unlisted s (List.mem_filter.1 (List.mem_filter.1 hs).1).1
  · subst hid
    rw [noteFailure_of_absent habsent, hrecover]
  · rw [noteSuccess, FailureStreaks.contains, h.unfailing]
    exact congrArg (Prod.mk false) hrecover

/-- What is accepted is there, with the streak that is left of its identifier. -/
theorem keeps_of_accept {request : SubscriptionRequest} {rebuild : Rebuild}
    (haccepted : (t.registry.subscribe t.clock id request).1 = .ok (s, rebuild)) :
    s.id = id ∧ (t.next (.subscribe id request)).Keeps s [] ∧
      (t.next (.subscribe id request)).registry.streaks.start? id =
        t.registry.streaks.start? id := by
  obtain ⟨ttl, haccept, hafter⟩ := next_of_accept haccepted
  obtain ⟨_, -, hretention⟩ := accept_ok haccept
  refine ⟨id_of_accept haccept, ?_, ?_⟩
  · rw [Keeps, hafter]
    show ((t.registry.put t.clock.now s ttl).refresh t.clock.now).2.get? t.clock.now s.id = some s
    rw [get?_refresh_put _ _ _ (retention_pos hretention), if_pos rfl]
  · rw [hafter]
    exact start?_of_accept haccept

/-- From its acceptance on, a subscription that stays as it is fails from its first failure since
its last success, or else from what is left of its identifier: a failure cancels it if it comes later
than the grace period after that start, and degrades it otherwise, and its status tells the time from
then. Its own failures alone decide exactly if nothing is left. Whatever is cancelled is gone, and
what comes back of its pushes is without effect, until a request for it is accepted. -/
theorem answers_course_iff (c : Clock) (earlier : List Incident) (id : String)
    (request : SubscriptionRequest) (s : Subscription) (rebuild : Rebuild)
    (haccepted : (((start c).course earlier).registry.subscribe
      ((start c).course earlier).clock id request).1 = .ok (s, rebuild)) :
    let before := (start c).course earlier
    let after := before.next (.subscribe id request)
    let left := before.registry.streaks.start? id
    (∀ later, after.Keeps s later →
      (after.course later).Answers s (failingSince id after.clock left later)) ∧
    ((∀ later, after.Keeps s later →
      (after.course later).Answers s (failingSince id after.clock none later)) ↔ left = none) ∧
    ∀ later failedAt pushed failingFor grace rebuild, pushed.id = id →
      ((after.course later).registry.noteFailure (after.course later).clock.now failedAt pushed).1 =
        .cancelled failingFor grace rebuild →
      ∀ rest, ((after.course later).undergo (.failure failedAt pushed)).Refuses id rest →
        (((after.course later).undergo (.failure failedAt pushed)).course rest).Gone id := by
  intro before after left
  obtain ⟨rfl, hkept, hleft⟩ := keeps_of_accept haccepted
  have hindexed : after.Indexed := ((indexed_start c).course earlier).undergo (.operation _)
  have hanswers (later : List Incident) (hkeeps : after.Keeps s later) :
      (after.course later).Answers s (failingSince s.id after.clock left later) := by
    have hanswered := answers_start? (hindexed.course later) hkeeps.finally
    rwa [start?_course hkeeps, hleft] at hanswered
  refine ⟨hanswers, ⟨fun hclean => ?_, fun hnone => ?_⟩, ?_⟩
  · exact (hclean [] hkept).eq_none (hanswers [] hkept)
  · exact hnone ▸ hanswers
  · intro later failedAt pushed failingFor grace rebuild' hid hcancelled rest hrefused
    have hreached := hindexed.course later
    have hremoved := removed_of_cancelled hreached hcancelled
    rw [hid] at hremoved
    exact gone_of_removed (removed_course (hreached.undergo (.failure failedAt pushed)) hremoved
      hrefused)

/-- A subscription that was terminated while it failed starts anew. Its first failure degrades it,
and one that comes just after the grace period cancels it. -/
theorem cancelled_after_grace :
    let request : SubscriptionRequest := {
      kind := .vehicleMonitoring, address := some "http://consumer/push" }
    let s := request.subscription "sub" "http://consumer/push" .epoch
    let before := (start ⟨.epoch, 0⟩).course [.operation (.subscribe "sub" request),
      .failure 0 s, .operation (.terminate "sub")]
    let after := before.next (.subscribe "sub" request)
    let later : List Incident := [.failure 0 s]
    after.Keeps s later ∧ (after.course later).Answers s (some 0) ∧
      ∃ rebuild, ((after.course later).registry.noteFailure 0 (5 * Duration.minute + 1 : Nat) s).1 =
        .cancelled (5 * Duration.minute + 1) (5 * Duration.minute) rebuild := by
  intro request s before after later
  have hnew : before.registry.contains before.clock.now "sub" = false := by decide +kernel
  have haddress : request.address? = some "http://consumer/push" := by decide +kernel
  obtain ⟨rebuild, haccepted⟩ :
      ∃ rebuild, (before.registry.subscribe before.clock "sub" request).1 = .ok (s, rebuild) :=
    subscribe_of_absent hnew haddress rfl
  have hclean : before.registry.streaks.start? "sub" = none := by decide +kernel
  obtain ⟨-, hkept, -⟩ := keeps_of_accept haccepted
  have hgrace : after.registry.cancels 0 s = false := by decide +kernel
  have hkeeps : after.Keeps s later := hkept.failure hgrace
  have hsince : failingSince "sub" after.clock none later = some 0 := rfl
  have hanswers : (after.course later).Answers s (some 0) := by
    rw [← hsince]
    exact (answers_course_iff ⟨.epoch, 0⟩ _ "sub" request _ rebuild haccepted).2.1.2 hclean later
      hkeeps
  have hperiod : max (3 * s.heartbeatInterval) (5 * Duration.minute) = 5 * Duration.minute := by
    decide +kernel
  have hsince : Instant.since (5 * Duration.minute + 1 : Nat) 0 = 5 * Duration.minute + 1 := by
    decide +kernel
  obtain ⟨rebuild, hcancelled⟩ := hanswers.cancelled (5 * Duration.minute + 1 : Nat)
    (by decide +kernel)
  rw [hperiod, Option.getD_some, hsince] at hcancelled
  exact ⟨hkeeps, hanswers, rebuild, hcancelled⟩

/-- A subscription fails and ends after ten minutes. A minute later it is accepted again. Nothing
has failed since, but it is degraded, and the first failure cancels it. -/
theorem cancelled_by_first_failure :
    let stop := Timestamp.advance .epoch (10 * Duration.minute)
    let ending : SubscriptionRequest := {
      kind := .vehicleMonitoring, address := some "http://consumer/push", termination := some stop }
    let request : SubscriptionRequest := { ending with termination := none }
    let before := (start ⟨.epoch, 0⟩).course [.operation (.subscribe "sub" ending),
      .operation (.failure (ending.subscription "sub" "http://consumer/push" .epoch)),
      .operation (.pass (.advance (11 * Duration.minute)))]
    let s := request.subscription "sub" "http://consumer/push" before.clock.wall
    let after := before.next (.subscribe "sub" request)
    (∃ rebuild, (before.registry.subscribe before.clock "sub" request).1 = .ok (s, rebuild)) ∧
      after.Keeps s [] ∧ failingSince "sub" after.clock none [] = none ∧
      (s, some (11 * Duration.minute)) ∈ after.registry.status after.clock.wall after.clock.now ∧
      (∃ rebuild, (after.registry.noteFailure after.clock.now after.clock.now s).1 =
        .cancelled (11 * Duration.minute) (5 * Duration.minute) rebuild) ∧
      ¬ after.Answers s none := by
  intro stop ending request before s after
  have hnew : before.registry.contains before.clock.now "sub" = false := by decide +kernel
  have haddress : request.address? = some "http://consumer/push" := by decide +kernel
  have hleft : before.registry.streaks.start? "sub" = some 0 := by decide +kernel
  obtain ⟨rebuild, haccepted⟩ := subscribe_of_absent hnew haddress rfl
  obtain ⟨-, hkept, hstart⟩ := keeps_of_accept haccepted
  have hindexed : after.Indexed := ((indexed_start ⟨.epoch, 0⟩).course _).undergo (.operation _)
  have hanswers : after.Answers s (some 0) := by
    have hanswered := answers_start? hindexed hkept
    rwa [show after.registry.streaks.start? s.id = some 0 from hstart.trans hleft] at hanswered
  have hperiod : max (3 * s.heartbeatInterval) (5 * Duration.minute) = 5 * Duration.minute := by
    decide +kernel
  have hsince : after.clock.now.since 0 = 11 * Duration.minute := by decide +kernel
  refine ⟨⟨rebuild, haccepted⟩, hkept, rfl, ?_, ?_, fun hclean => nomatch hclean.eq_none hanswers⟩
  · rw [← hsince, hanswers.status s _ rfl]
    exact ⟨rfl, by decide +kernel, rfl⟩
  · obtain ⟨rebuild, hcancelled⟩ := hanswers.cancelled after.clock.now (by decide +kernel)
    rw [hperiod, Option.getD_some, hsince] at hcancelled
    exact ⟨rebuild, hcancelled⟩

end TimedRegistry

end TransitHub
