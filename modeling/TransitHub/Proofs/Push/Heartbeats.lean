/-
# When heartbeats are sent

A heartbeat is due when the interval of a subscription has passed since the last time that one was
due, or since the subscription was first listed. So heartbeats to a subscription are never attempted
closer together than its interval, however the subscriptions come, go and change between the scans.

What counts is that a heartbeat was due, not that it was queued. One that the queue refuses is not
tried again before another interval has passed; `attempted_iff` says that this is the only reason
why a scan leaves out a heartbeat, but for a builder that crashes.
-/

import Mathlib.Data.List.Induction
import Mathlib.Data.List.Nodup
import TransitHub.Proofs.Push.Scans

namespace TransitHub

namespace Scan

variable {scan first : Scan} {past : List Scan} {id : String} {interval : Duration}
  {h h' : HeartbeatSchedule} {last : Instant} {s s' : Subscription}

/-! ## Without a break -/

/-- Whether an identifier has been listed without a break since a scan, which was the first to list
it. -/
def ListedSince (id : String) (past : List Scan) (first : Scan) : Prop :=
  ∃ before since, past = before ++ first :: since ∧ (∀ scan ∈ first :: since, scan.Lists id) ∧
    ∀ last ∈ before.getLast?, ¬ last.Lists id

theorem ListedSince.mem (hsince : ListedSince id past first) : first ∈ past := by
  obtain ⟨before, since, rfl, -⟩ := hsince
  exact List.mem_append_right _ List.mem_cons_self

theorem ListedSince.snoc (hsince : ListedSince id past first) (hlists : scan.Lists id) :
    ListedSince id (past ++ [scan]) first := by
  obtain ⟨before, since, rfl, hall, hbefore⟩ := hsince
  refine ⟨before, since ++ [scan], by simp, ?_, hbefore⟩
  rw [← List.cons_append, List.forall_mem_append, List.forall_mem_singleton]
  exact ⟨hall, hlists⟩

/-- What is listed has been listed since some scan. -/
theorem exists_listedSince (past : List Scan) (hlists : scan.Lists id) :
    ∃ first, ListedSince id (past ++ [scan]) first := by
  induction past using List.reverseRecOn generalizing scan with
  | nil => exact ⟨scan, [], [], rfl, by simpa using hlists, by simp⟩
  | append_singleton past last ih =>
    by_cases hlast : last.Lists id
    · obtain ⟨first, hsince⟩ := ih hlast
      exact ⟨first, hsince.snoc hlists⟩
    · exact ⟨scan, past ++ [last], [], rfl, by simpa using hlists, by simpa using hlast⟩

/-! ## What one scan does to an identifier -/

theorem Updates.eq_of_id (hscan : scan.Updates h h') (hs : s ∈ scan.listed) (hs' : s' ∈ scan.listed)
    (hid : s.id = s'.id) : s = s' :=
  List.inj_on_of_nodup_map (List.pairwise_map.2 hscan.once) hs hs' hid

theorem Updates.finds_iff_isDue (hscan : scan.Updates h h') (hs : s ∈ scan.listed) :
    scan.Finds s.id ↔ h.isDue scan.madeAt s = true := by
  unfold Finds
  rw [hscan.found]
  constructor
  · rintro ⟨s', hs', hid⟩
    obtain ⟨hlisted, hdue⟩ := List.mem_filter.1 hs'
    rwa [hscan.eq_of_id hs hlisted hid.symm]
  · exact fun hdue => ⟨s, List.mem_filter.2 ⟨hs, hdue⟩, rfl⟩

/-- A heartbeat is due if the interval has passed since what is remembered. -/
theorem Updates.finds_iff (hscan : scan.Updates h h') (hlists : scan.ListsEvery id interval) :
    scan.Finds id ↔ interval ≠ 0 ∧
      ∃ last, h.lastSent[id]? = some last ∧ last + (interval : Int) ≤ scan.madeAt := by
  obtain ⟨s, hs, rfl, rfl⟩ := hlists
  rw [hscan.finds_iff_isDue hs, HeartbeatSchedule.isDue_iff]

/-- What is remembered after a scan is the scan itself, or was remembered before, and then no
heartbeat was due. -/
theorem Updates.remembered (hscan : scan.Updates h h') (hlast : h'.lastSent[id]? = some last) :
    scan.Lists id ∧ (last = scan.madeAt ∨ h.lastSent[id]? = some last ∧ ¬ scan.Finds id) := by
  have hlists : scan.Lists id := by
    by_contra hnot
    rw [hscan.forgets id hnot] at hlast
    exact nomatch hlast
  refine ⟨hlists, ?_⟩
  obtain ⟨s, hs, rfl⟩ := hlists
  rw [hscan.visits s hs, HeartbeatSchedule.lastSent_visit] at hlast
  rw [hscan.finds_iff_isDue hs]
  by_cases hsilent : s.heartbeatInterval = 0
  · rw [if_neg fun hboth => hboth.1 hsilent] at hlast
    exact Or.inr ⟨hlast, fun hdue => (HeartbeatSchedule.isDue_iff.1 hdue).1 hsilent⟩
  · rw [if_pos ⟨hsilent, rfl⟩, Option.some.injEq] at hlast
    split at hlast
    · exact Or.inl hlast.symm
    · next hdue =>
      cases hbefore : h.lastSent[s.id]? with
      | none =>
        rw [hbefore] at hlast
        exact Or.inl hlast.symm
      | some before =>
        rw [hbefore] at hlast
        exact Or.inr ⟨congrArg some hlast, hdue⟩

/-- The first scan that lists an identifier with an interval is remembered. -/
theorem Updates.begins (hscan : scan.Updates h h') (hlists : scan.ListsEvery id interval)
    (hinterval : interval ≠ 0) (hnone : h.lastSent[id]? = none) :
    h'.lastSent[id]? = some scan.madeAt := by
  obtain ⟨s, hs, rfl, rfl⟩ := hlists
  rw [hscan.visits s hs, HeartbeatSchedule.lastSent_visit, if_pos ⟨hinterval, rfl⟩, hnone,
    Option.getD_none, ite_self]

/-- A later one is remembered if it finds the heartbeat due. -/
theorem Updates.follows (hscan : scan.Updates h h') (hlists : scan.ListsEvery id interval)
    (hinterval : interval ≠ 0) (hlast : h.lastSent[id]? = some last) :
    scan.Finds id ∧ h'.lastSent[id]? = some scan.madeAt ∨ h'.lastSent[id]? = some last := by
  obtain ⟨s, hs, rfl, rfl⟩ := hlists
  rw [hscan.visits s hs, HeartbeatSchedule.lastSent_visit, if_pos ⟨hinterval, rfl⟩, hlast,
    Option.getD_some, hscan.finds_iff_isDue hs]
  split
  · next hdue => exact Or.inl ⟨hdue, rfl⟩
  · exact Or.inr rfl

/-- No two heartbeats go to one identifier, those that are cut off included. -/
theorem Updates.nodup_found (hscan : scan.Updates h h') :
    ((scan.attempts.map fun attempt => attempt.1.id) ++ scan.cut.map Subscription.id).Nodup := by
  have hfound : (scan.attempts.map fun attempt => attempt.1.id) ++ scan.cut.map Subscription.id =
      scan.found.map Subscription.id := by
    rw [Scan.found, List.map_append, List.map_map]
    rfl
  rw [hfound, hscan.found]
  exact List.pairwise_map.2 (hscan.once.filter _)

/-- A heartbeat is attempted if it is due and not cut off. -/
theorem Updates.attempts_iff (hscan : scan.Updates h h') :
    scan.Attempts id ↔ scan.Finds id ∧ ¬ scan.Cuts id := by
  have hboth : ¬ (scan.Attempts id ∧ scan.Cuts id) := by
    rintro ⟨⟨attempt, hattempt, hid⟩, s, hs, hid'⟩
    exact (List.nodup_append.1 hscan.nodup_found).2.2 _ (List.mem_map.2 ⟨attempt, hattempt, rfl⟩) _
      (List.mem_map.2 ⟨s, hs, rfl⟩) (hid.trans hid'.symm)
  rw [Scan.finds_iff]
  exact ⟨fun hattempts => ⟨Or.inl hattempts, fun hcuts => hboth ⟨hattempts, hcuts⟩⟩,
    fun hfinds => hfinds.1.resolve_right hfinds.2⟩

end Scan

namespace HeartbeatSchedule

variable {past scans : List Scan} {scan first : Scan} {id : String} {interval : Duration}
  {h h' : HeartbeatSchedule} {last : Instant}

/-! ## What is remembered of past scans -/

/-- Whether what a schedule remembers is not before the scans that it stands for: the first one to
list an identifier, and those that found its heartbeat due. -/
structure Remembers (past : List Scan) (h : HeartbeatSchedule) : Prop where
  listed : ∀ id last, h.lastSent[id]? = some last →
    ∃ first, Scan.ListedSince id past first ∧ first.madeAt ≤ last
  recent : ∀ id last, h.lastSent[id]? = some last →
    ∀ scan ∈ past, scan.Finds id → scan.madeAt ≤ last

theorem remembers_nothing : Remembers [] {} where
  listed _ _ hlast := nomatch hlast.symm.trans Std.ExtTreeMap.getElem?_empty
  recent _ _ _ _ hscan := nomatch hscan

/-- A scan that is not earlier than those before is remembered. -/
theorem Remembers.snoc (hpast : Remembers past h) (hscan : scan.Updates h h')
    (hsorted : ∀ earlier ∈ past, earlier.madeAt ≤ scan.madeAt) :
    Remembers (past ++ [scan]) h' := by
  have hall : ∀ other ∈ past ++ [scan], other.madeAt ≤ scan.madeAt := by
    rw [List.forall_mem_append, List.forall_mem_singleton]
    exact ⟨hsorted, Int.le_refl _⟩
  constructor
  case listed =>
    intro id last hlast
    obtain ⟨hlists, rfl | ⟨hbefore, -⟩⟩ := hscan.remembered hlast
    · obtain ⟨first, hsince⟩ := Scan.exists_listedSince past hlists
      exact ⟨first, hsince, hall first hsince.mem⟩
    · obtain ⟨first, hsince, hle⟩ := hpast.listed id last hbefore
      exact ⟨first, hsince.snoc hlists, hle⟩
  case recent =>
    intro id last hlast other hother hfinds
    obtain ⟨-, rfl | ⟨hbefore, hnot⟩⟩ := hscan.remembered hlast
    · exact hall other hother
    · rcases List.mem_append.1 hother with hother | hother
      · exact hpast.recent id last hbefore other hother hfinds
      · exact absurd (List.mem_singleton.1 hother ▸ hfinds) hnot

/-- Scans in the order of time are remembered. -/
theorem Remembers.leads (hpast : Remembers past h) (hscans : Leads h scans h')
    (hsorted : (past ++ scans).Pairwise fun earlier later => earlier.madeAt ≤ later.madeAt) :
    Remembers (past ++ scans) h' := by
  induction hscans generalizing past with
  | nil => rwa [List.append_nil]
  | @cons h h' _ scan rest hscan _ ih =>
    rw [List.append_cons] at hsorted ⊢
    refine ih (hpast.snoc hscan fun earlier hearlier => ?_) hsorted
    exact (List.pairwise_append.1 (List.pairwise_append.1 hsorted).1).2.2 earlier hearlier scan
      (List.mem_singleton_self scan)

/-- Nothing is remembered of an identifier that was not listed at last. -/
theorem Leads.forgotten (hscans : Leads {} scans h)
    (hlast : ∀ last ∈ scans.getLast?, ¬ last.Lists id) : h.lastSent[id]? = none := by
  rcases List.eq_nil_or_concat scans with rfl | ⟨earlier, last, rfl⟩
  · obtain ⟨⟩ := hscans
    exact Std.ExtTreeMap.getElem?_empty
  · rw [List.concat_eq_append] at hscans hlast
    obtain ⟨h', -, hrest⟩ := leads_append_iff.1 hscans
    obtain ⟨_, hscan, ⟨⟩⟩ := leads_cons_iff.1 hrest
    exact hscan.forgets id (hlast last (by simp))

/-- While a subscription is listed with an interval, what is remembered of it stays or is a scan
that found its heartbeat due. -/
theorem Leads.remembered (hscans : Leads h scans h') (hinterval : interval ≠ 0)
    (hlisted : ∀ scan ∈ scans, scan.ListsEvery id interval) (hlast : h.lastSent[id]? = some last) :
    ∃ last', h'.lastSent[id]? = some last' ∧
      (last' = last ∨ ∃ scan ∈ scans, scan.Finds id ∧ scan.madeAt = last') := by
  induction hscans generalizing last with
  | nil => exact ⟨last, hlast, Or.inl rfl⟩
  | @cons h h' _ scan rest hscan _ ih =>
    obtain ⟨hlists, hrest⟩ := List.forall_mem_cons.1 hlisted
    rcases hscan.follows hlists hinterval hlast with ⟨hfinds, hnow⟩ | hkept
    · obtain ⟨last', hlast', rfl | ⟨other, hother, hfound⟩⟩ := ih hrest hnow
      · exact ⟨_, hlast', Or.inr ⟨scan, List.mem_cons_self, hfinds, rfl⟩⟩
      · exact ⟨_, hlast', Or.inr ⟨other, List.mem_cons_of_mem _ hother, hfound⟩⟩
    · obtain ⟨last', hlast', hsame | ⟨other, hother, hfound⟩⟩ := ih hrest hkept
      · exact ⟨last', hlast', Or.inl hsame⟩
      · exact ⟨last', hlast', Or.inr ⟨other, List.mem_cons_of_mem _ hother, hfound⟩⟩

/-- Of a subscription that has been listed with an interval since a scan, that scan or a later one
is remembered that found its heartbeat due. -/
theorem Leads.remembered_since {before rest : List Scan}
    (hscans : Leads {} (before ++ first :: rest) h)
    (hnew : ∀ last ∈ before.getLast?, ¬ last.Lists id) (hinterval : interval ≠ 0)
    (hlisted : ∀ scan ∈ first :: rest, scan.ListsEvery id interval) :
    ∃ last, h.lastSent[id]? = some last ∧
      (last = first.madeAt ∨ ∃ scan ∈ rest, scan.Finds id ∧ scan.madeAt = last) := by
  obtain ⟨h₁, hbefore, hsince⟩ := leads_append_iff.1 hscans
  obtain ⟨h₂, hfirst, hrest⟩ := leads_cons_iff.1 hsince
  obtain ⟨hlists, hlisted⟩ := List.forall_mem_cons.1 hlisted
  exact hrest.remembered hinterval hlisted
    (hfirst.begins hlists hinterval (hbefore.forgotten hnew))

end HeartbeatSchedule

namespace TimedScheduler

/-! ## Runs -/

/-- Each scan of a run is made with a schedule that remembers the scans before. -/
theorem remembers_split {t : TimedScheduler} (hcoherent : t.Coherent) (hnew : t.schedule = {})
    {ops : List SchedulerOp} {earlier later : List Scan} {scan : Scan}
    (hscans : t.scans ops = earlier ++ scan :: later)
    (hsorted : (t.scans ops).Pairwise fun earlier later => earlier.madeAt ≤ later.madeAt) :
    ∃ h h', HeartbeatSchedule.Leads {} earlier h ∧ HeartbeatSchedule.Remembers earlier h ∧
      scan.Updates h h' := by
  have hleads := leads_scans hcoherent ops
  rw [hnew, hscans] at hleads
  obtain ⟨h, hearlier, hrest⟩ := HeartbeatSchedule.leads_append_iff.1 hleads
  obtain ⟨h', hscan, -⟩ := HeartbeatSchedule.leads_cons_iff.1 hrest
  refine ⟨h, h', hearlier, ?_, hscan⟩
  rw [hscans] at hsorted
  exact HeartbeatSchedule.remembers_nothing.leads hearlier (List.pairwise_append.1 hsorted).1

/-- A scan of a run, and those before it, are accurate. -/
theorem accurate_of_split {t : TimedScheduler} {ops : List SchedulerOp} {earlier later : List Scan}
    {scan made : Scan} (hscans : t.scans ops = earlier ++ scan :: later)
    (hmade : made ∈ earlier ++ [scan]) : made.Accurate := by
  refine accurate_scans t ops ?_
  rw [hscans, List.append_cons]
  exact List.mem_append_left later hmade

/-- The scans of a dispatcher that has one worker and room for one job. Two subscriptions with an
interval of a second are scanned at the start, after a second, and once more at a later instant,
when the worker has taken up what was queued. -/
def crowded (last : Duration) : List Scan :=
  let request : SubscriptionRequest := {
    kind := .vehicleMonitoring, address := some "http://consumer/push", heartbeatMillis := 1000 }
  (start ⟨.epoch, 0⟩ 1 1 (.json "producer") 1).scans [
    .dispatch (.subscribe "a" request), .dispatch (.subscribe "b" request), .scan 0,
    .dispatch (.pass (.advance Duration.second)), .scan (Duration.second : Nat), .dispatch .start,
    .dispatch (.turn 0), .dispatch (.pass (.advance (last - Duration.second))), .scan last]

variable (c : Clock) (workers capacity : Nat) (builder : PayloadBuilder) (maxElements : Nat)
  (ops : List SchedulerOp)

/-- Scans submit the heartbeats that they attempt, and nothing else. In the order of time they
attempt one heartbeat at most to each subscription, and only to one that is listed with an interval.
The interval has passed since every earlier attempt, and since the first scan of those that have
listed the identifier without a break. -/
theorem heartbeats_spaced
    (hsorted : ((start c workers capacity builder maxElements).scans ops).Pairwise
      fun earlier later => earlier.madeAt ≤ later.madeAt)
    {earlier later : List Scan} {scan : Scan}
    (hscans : (start c workers capacity builder maxElements).scans ops =
      earlier ++ scan :: later) :
    (∀ made ∈ earlier ++ [scan], made.Accurate) ∧
      (scan.attempts.map fun attempt => attempt.1.id).Nodup ∧
      ∀ s submission, (s, submission) ∈ scan.attempts →
        s ∈ scan.listed ∧ s.heartbeatInterval ≠ 0 ∧
        (∀ other ∈ earlier, other.Attempts s.id →
          other.madeAt + (s.heartbeatInterval : Int) ≤ scan.madeAt) ∧
        ∃ first, Scan.ListedSince s.id earlier first ∧
          first.madeAt + (s.heartbeatInterval : Int) ≤ scan.madeAt := by
  obtain ⟨h, h', -, hpast, hscan⟩ := remembers_split
    (coherent_start c workers capacity builder maxElements) rfl hscans hsorted
  refine ⟨fun _ => accurate_of_split hscans, (List.nodup_append.1 hscan.nodup_found).1, ?_⟩
  · intro s submission hattempt
    have hfound : s ∈ scan.found := List.mem_append_left _ (List.mem_map.2 ⟨_, hattempt, rfl⟩)
    rw [hscan.found] at hfound
    obtain ⟨hlisted, hdue⟩ := List.mem_filter.1 hfound
    obtain ⟨hinterval, last, hlast, hpassed⟩ := HeartbeatSchedule.isDue_iff.1 hdue
    have hafter {earlier : Instant} (hle : earlier ≤ last) :
        earlier + (s.heartbeatInterval : Int) ≤ scan.madeAt :=
      Int.le_trans (Int.add_le_add_right hle _) hpassed
    obtain ⟨first, hsince, hfirst⟩ := hpast.listed s.id last hlast
    refine ⟨hlisted, hinterval, fun other hother hattempts => ?_, first, hsince, hafter hfirst⟩
    exact hafter (hpast.recent s.id last hlast other hother (Scan.finds_iff.2 (Or.inl hattempts)))

/-- After another second a heartbeat is attempted again. -/
theorem attempted_a_second_later :
    ∃ first second third, crowded (2 * Duration.second) = [first, second, third] ∧
      (∀ made ∈ [first, second, third], made.Accurate) ∧
      second.Attempts "b" ∧ third.Attempts "b" ∧
      second.madeAt + (Duration.second : Int) ≤ third.madeAt := by
  obtain ⟨first, second, third, hscans⟩ := List.length_eq_three.1
    (show (crowded (2 * Duration.second)).length = 3 by decide +kernel)
  have hattempts : ∀ scan ∈ (crowded (2 * Duration.second)).tail, scan.Attempts "b" := by
    decide +kernel
  have hevery : ∀ scan ∈ crowded (2 * Duration.second), ∀ s ∈ scan.listed,
      s.heartbeatInterval = Duration.second := by
    decide +kernel
  rw [hscans] at hattempts hevery
  have hsecond : second.Attempts "b" := hattempts second (by simp)
  have hthird : third.Attempts "b" := hattempts third (by simp)
  obtain ⟨⟨s, submission⟩, hattempt, hid⟩ := hthird
  have hsplit : crowded (2 * Duration.second) = [first, second] ++ third :: [] := hscans
  obtain ⟨haccurate, -, hspaced⟩ :=
    heartbeats_spaced ⟨.epoch, 0⟩ 1 1 (.json "producer") 1 _ (by decide +kernel) hsplit
  obtain ⟨hlisted, -, hspaced, -⟩ := hspaced s submission hattempt
  have hpassed := hspaced second (by simp) (by rw [show s.id = "b" from hid]; exact hsecond)
  rw [hevery third (by simp) s hlisted] at hpassed
  exact ⟨first, second, third, hscans, haccurate, hsecond, ⟨_, hattempt, hid⟩, hpassed⟩

/-- A subscription is listed by scans in the order of time, with one interval. The interval has
passed since its last heartbeat that was queued, and since the first of these scans. Then a scan
attempts a heartbeat, unless less than an interval before one was due and not queued, or the builder
crashes in the same scan before it comes to the subscription. What the scans attempted and queued is
what they submitted and left in the queue. -/
theorem attempted_iff
    (hsorted : ((start c workers capacity builder maxElements).scans ops).Pairwise
      fun earlier later => earlier.madeAt ≤ later.madeAt)
    {before rest later : List Scan} {first scan : Scan}
    (hscans : (start c workers capacity builder maxElements).scans ops =
      (before ++ first :: rest) ++ scan :: later)
    {id : String} {interval : Duration} (hinterval : interval ≠ 0)
    (hnew : ∀ last ∈ before.getLast?, ¬ last.Lists id)
    (hlisted : ∀ other ∈ first :: rest, other.ListsEvery id interval)
    (hlists : scan.ListsEvery id interval)
    (hfirst : first.madeAt + (interval : Int) ≤ scan.madeAt)
    (hqueued : ∀ other ∈ rest, other.Queues id → other.madeAt + (interval : Int) ≤ scan.madeAt) :
    (∀ made ∈ (before ++ first :: rest) ++ [scan], made.Accurate) ∧
      (scan.Attempts id ↔
        (∀ other ∈ rest, other.Finds id → ¬ other.Queues id →
          other.madeAt + (interval : Int) ≤ scan.madeAt) ∧ ¬ scan.Cuts id) := by
  refine ⟨fun _ => accurate_of_split hscans, ?_⟩
  obtain ⟨h, h', hleads, hpast, hscan⟩ := remembers_split
    (coherent_start c workers capacity builder maxElements) rfl hscans hsorted
  obtain ⟨last, hlast, hwhich⟩ := hleads.remembered_since hnew hinterval hlisted
  rw [hscan.attempts_iff, hscan.finds_iff hlists]
  refine and_congr_left fun _ => ⟨?_, fun hdropped => ⟨hinterval, last, hlast, ?_⟩⟩
  · rintro ⟨-, _, hlast', hpassed⟩ other hother hfinds -
    obtain rfl := Option.some.inj (hlast.symm.trans hlast')
    have hle := hpast.recent id last hlast other
      (List.mem_append_right _ (List.mem_cons_of_mem _ hother)) hfinds
    exact Int.le_trans (Int.add_le_add_right hle _) hpassed
  · rcases hwhich with rfl | ⟨other, hother, hfinds, rfl⟩
    · exact hfirst
    · by_cases hqueues : other.Queues id
      · exact hqueued other hother hqueues
      · exact hdropped other hother hfinds hqueues

/-- A heartbeat that was refused is attempted again after another second. -/
theorem refused_attempted_a_second_later :
    ∃ first second third, crowded (2 * Duration.second) = [first, second, third] ∧
      second.Attempts "b" ∧ ¬ second.Queues "b" ∧ third.Attempts "b" := by
  obtain ⟨first, second, third, hscans⟩ := List.length_eq_three.1
    (show (crowded (2 * Duration.second)).length = 3 by decide +kernel)
  have hmade : (crowded (2 * Duration.second)).map Scan.madeAt =
      [0, (Duration.second : Nat), (2 * Duration.second : Nat)] := by
    decide +kernel
  have hlists : ∀ scan ∈ crowded (2 * Duration.second), scan.ListsEvery "b" Duration.second := by
    decide +kernel
  have hqueued : ∀ scan ∈ crowded (2 * Duration.second), ¬ scan.Queues "b" ∧ ¬ scan.Cuts "b" := by
    decide +kernel
  have hsecond : ∀ scan ∈ (crowded (2 * Duration.second)).tail, scan.Attempts "b" := by
    decide +kernel
  rw [hscans] at hmade hlists hqueued hsecond
  obtain ⟨hfirst, hmade⟩ := List.cons.inj hmade
  obtain ⟨hnext, hmade⟩ := List.cons.inj hmade
  obtain ⟨hlast, -⟩ := List.cons.inj hmade
  have hsplit : crowded (2 * Duration.second) = ([] ++ first :: [second]) ++ third :: [] := hscans
  refine ⟨first, second, third, hscans, hsecond second (by simp), (hqueued second (by simp)).1, ?_⟩
  refine (attempted_iff ⟨.epoch, 0⟩ 1 1 (.json "producer") 1 _ (by decide +kernel) hsplit
    (show Duration.second ≠ 0 by decide) (by simp)
    (fun other hother => hlists other (List.mem_append_left [third] hother))
    (hlists third (by simp)) ?_ ?_).2.2 ⟨?_, (hqueued third (by simp)).2⟩
  · rw [hfirst, hlast]
    decide
  · intro other hother hqueues
    obtain rfl := List.mem_singleton.1 hother
    exact absurd hqueues (hqueued other (by simp)).1
  · intro other hother _ _
    rw [List.mem_singleton.1 hother, hnext, hlast]
    decide

/-- A second after both subscriptions were listed the queue takes the heartbeat to the first one and
refuses that to the other. Half a second later there is room, and the other one has still not been
sent any heartbeat. None is attempted, and the queue stays empty. -/
theorem refused_not_attempted_again :
    let scans := crowded (1500 * Duration.millisecond)
    (∀ scan ∈ scans, scan.ListsEvery "b" Duration.second ∧ ¬ scan.Queues "b" ∧ ¬ scan.Cuts "b") ∧
      scans.map Scan.madeAt =
        [0, (Duration.second : Nat), (1500 * Duration.millisecond : Nat)] ∧
      scans.map (fun scan => scan.attempts.map fun attempt => (attempt.1.id, attempt.2)) =
        [[], [("a", Submission.queued), ("b", Submission.refused)], []] ∧
      scans.map (fun scan => scan.after.pool.waiting.map fun job => job.subscription.id) =
        [[], ["a"], []] := by
  refine ⟨?_, ?_, ?_, ?_⟩
  · decide +kernel
  · decide +kernel
  · decide +kernel
  · decide +kernel

end TimedScheduler

end TransitHub
