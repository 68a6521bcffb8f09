/-
# How long pollers are remembered

A poller is known for exactly one tracking period after its last poll. Whether it is known can be
read off its own polls and the passing of time: nothing else that happens to the feed makes it known
longer or shorter. This is asked of commits in particular. Each of them writes the change sets of
all pollers anew, with what is left of their time to live, and drops those with nothing left.

The argument follows the last access that a change set carries. For as long as the clock can show
the end of a period, a change set ends one period after its last access, so the access alone tells
whether the change set is still there at some later instant. A poll sets the access of its consumer;
every other operation leaves all accesses as they are.
-/

import TransitHub.Entity.InfoMessage
import TransitHub.Proofs.Feed.Isolation

namespace TransitHub

variable {α : Type}

namespace FeedOp

/-- Who polls by an operation. -/
def poller? : FeedOp α → Option String
  | .poll poller _ => some poller
  | _ => none

/-- Whether an operation is a poll by a consumer, or the passing of time. -/
def isOwn (consumer : String) : FeedOp α → Bool
  | .poll poller _ => poller = consumer
  | .pass _ => true
  | _ => false

/-- The clocks after some operations. -/
def clockAfter (c : Clock) (ops : List (FeedOp α)) : Clock := ops.foldl clock c

/-- Everyone who polls in a run. -/
def pollers (ops : List (FeedOp α)) : Std.ExtTreeSet String compare :=
  .ofList (ops.filterMap poller?) compare

/-- When a consumer polled last, given when it last polled before the run. -/
def lastPoll (consumer : String) (c : Clock) (last : Option Instant) :
    List (FeedOp α) → Option Instant
  | [] => last
  | op :: rest =>
    lastPoll consumer (op.clock c) (if op.poller? = some consumer then some c.now else last) rest

theorem mem_pollers {ops : List (FeedOp α)} {consumer : String} :
    consumer ∈ pollers ops ↔ ∃ op ∈ ops, op.poller? = some consumer := by
  rw [pollers, Std.ExtTreeSet.mem_ofList, List.contains_iff_mem, List.mem_filterMap]

/-- Whoever has polled in a run is one of its pollers. -/
theorem mem_pollers_of_lastPoll {ops : List (FeedOp α)} {consumer : String} {c : Clock}
    {last : Option Instant} (h : (lastPoll consumer c last ops).isSome = true)
    (hnew : last = none) : consumer ∈ pollers ops := by
  rw [mem_pollers]
  induction ops generalizing c last with
  | nil =>
    rw [hnew] at h
    exact nomatch h
  | cons op rest ih =>
    by_cases hpolls : op.poller? = some consumer
    · exact ⟨op, List.mem_cons_self, hpolls⟩
    · rw [lastPoll, if_neg hpolls] at h
      obtain ⟨op', hmem, hpolls'⟩ := ih h hnew
      exact ⟨op', List.mem_cons_of_mem _ hmem, hpolls'⟩

/-- What is neither a poll by a consumer nor the passing of time. -/
theorem of_not_isOwn {consumer : String} {op : FeedOp α} (h : op.isOwn consumer = false) :
    op.poller? ≠ some consumer ∧ ∀ c, op.clock c = c := by
  cases op with
  | poll poller request =>
    have hother : poller ≠ consumer := of_decide_eq_false h
    exact ⟨fun heq => hother (Option.some.inj heq), fun _ => rfl⟩
  | pass t => exact nomatch h
  | _ => exact ⟨nofun, fun _ => rfl⟩

/-- When a consumer polled last can be told from its own polls and the passing of time. -/
theorem lastPoll_filter (consumer : String) (c : Clock) (last : Option Instant)
    (ops : List (FeedOp α)) :
    lastPoll consumer c last (ops.filter (isOwn consumer)) = lastPoll consumer c last ops := by
  induction ops generalizing c last with
  | nil => rfl
  | cons op rest ih =>
    cases hown : op.isOwn consumer with
    | true => rw [List.filter_cons_of_pos hown, lastPoll, lastPoll, ih]
    | false =>
      obtain ⟨hpoller, hclock⟩ := of_not_isOwn hown
      rw [List.filter_cons_of_neg (Bool.eq_false_iff.1 hown), lastPoll, hclock, if_neg hpoller, ih]

theorem clockAfter_filter (consumer : String) (c : Clock) (ops : List (FeedOp α)) :
    clockAfter c (ops.filter (isOwn consumer)) = clockAfter c ops := by
  induction ops generalizing c with
  | nil => rfl
  | cons op rest ih =>
    cases hown : op.isOwn consumer with
    | true =>
      rw [List.filter_cons_of_pos hown]
      exact ih (op.clock c)
    | false =>
      rw [List.filter_cons_of_neg (Bool.eq_false_iff.1 hown), ih, clockAfter, clockAfter,
        List.foldl_cons, (of_not_isOwn hown).2]

end FeedOp

/-! ## The last access of a change set -/

/-- A period has not passed if its end lies ahead. -/
theorem Instant.lt_add_iff {now access : Int} {period : Nat} :
    now < access + period ↔ now - access < period := by
  omega

theorem Instant.sub_lt_of_le {now later access : Int} {period : Nat} (hle : now ≤ later)
    (hlater : later - access < period) : now - access < period := by
  omega

namespace ChangeTracker

variable {t : ChangeTracker} {now : Instant} {consumer : String}

/-- The last access of a consumer, if it is known. -/
def access? (t : ChangeTracker) (now : Instant) (consumer : String) : Option Instant :=
  (t.slot? now consumer).map fun slot => slot.value.lastAccess

theorem isSome_lookup (t : ChangeTracker) (now : Instant) (consumer : String) :
    (t.consumers.lookup now consumer).isSome = (t.access? now consumer).isSome := by
  rw [TtlStore.lookup, access?, slot?, Option.isSome_map, Option.isSome_map]

/-- Later a consumer is known if a period that began with its last access has not passed. -/
theorem Punctual.access?_later (h : t.Punctual now) {later : Instant} (hle : now ≤ later)
    (consumer : String) :
    t.access? later consumer =
      (t.access? now consumer).filter fun polled => later - polled < t.period := by
  rw [access?, access?, slot?, t.consumers.live?_later hle consumer, ← slot?]
  cases hslot : t.slot? now consumer with
  | none => rfl
  | some slot =>
    have hends : slot.isLive later = decide (later - slot.value.lastAccess < t.period) := by
      rw [Slot.isLive, (h consumer slot hslot).1]
      exact decide_eq_decide.2 Instant.lt_add_iff
    simp only [Option.filter_some, Option.map_some, hends]
    split <;> rfl

/-- A commit leaves all accesses, as long as the clock can show the end of a period. -/
theorem Punctual.access?_commit (h : t.Punctual now) (hrange : now + t.period < Instant.limit)
    (consumer : String) : (t.commit now).2.access? now consumer = t.access? now consumer := by
  rw [access?, access?, slot?_commit]
  cases hslot : t.slot? now consumer with
  | none => rfl
  | some slot =>
    obtain ⟨merged, hmerged, -⟩ := Option.map_eq_some_iff.1 (h.deadline_merged hslot hrange)
    rw [Option.bind_some, hmerged, Option.map_some, Option.map_some, (mem_merged hmerged).1]

theorem access?_remember (hperiod : t.period ≠ 0) (now : Instant) (poller consumer : String)
    (pending : KeySet) (baseline : Nat) :
    (t.remember now poller pending baseline).access? now consumer =
      if poller = consumer then some now else t.access? now consumer := by
  rw [access?, slot?_remember, if_neg hperiod]
  split <;> rfl

end ChangeTracker

/-! ## Runs -/

namespace TimedFeed

variable {s : TimedFeed α} {period : Duration} {last : String → Option Instant}

/-- A poll sets the access of its consumer, and no other operation sets any. -/
theorem access?_next (hpunctual : s.feed.tracker.Punctual s.clock.now)
    (hperiod : s.feed.tracker.period ≠ 0)
    (hrange : s.clock.now + s.feed.tracker.period < Instant.limit) (op : FeedOp α)
    (consumer : String) :
    (s.next op).feed.tracker.access? s.clock.now consumer =
      if op.poller? = some consumer then some s.clock.now
      else s.feed.tracker.access? s.clock.now consumer := by
  have hingest (dataset : String) (items : List α) (undecodable : Nat) :
      (s.feed.ingest s.clock dataset items undecodable).2.tracker.access? s.clock.now consumer =
        s.feed.tracker.access? s.clock.now consumer := by
    rw [Feed.tracker_ingest]
    split <;> rfl
  cases op with
  | ingest dataset items => exact hingest dataset items 0
  | ingestJson dataset items =>
    exact hingest dataset (Feed.decodable s.feed.store.profile items)
      (items.length - (Feed.decodable s.feed.store.profile items).length)
  | commit | flush => exact hpunctual.access?_commit hrange consumer
  | poll poller request =>
    obtain ⟨pending, htracker, -⟩ := (s.answered_poll poller request).remembered
    rw [htracker, ChangeTracker.access?_remember hperiod]
    simp only [FeedOp.poller?, Option.some.injEq]
  | pendingCount asked =>
    have htouch := s.feed.tracker.consumers.live?_touch s.clock.now asked consumer
    exact congrArg (Option.map _) htouch
  | sweep =>
    have hsweep := s.feed.tracker.consumers.live?_sweep s.clock.now consumer
    exact congrArg (Option.map _) hsweep
  | clearDataset | consumerCount | getAll | query | pass => rfl

/-- Whether a feed knows exactly those whose last poll is less than one period ago. -/
structure Remembers (s : TimedFeed α) (period : Duration) (last : String → Option Instant) :
    Prop where
  period_eq : s.feed.tracker.period = period
  punctual : s.feed.tracker.Punctual s.clock.now
  access?_eq : ∀ consumer, s.feed.tracker.access? s.clock.now consumer =
    (last consumer).filter fun polled => s.clock.now - polled < period

namespace Remembers

theorem start (profile : Profile α) (policy : ExpirationPolicy) (period : Duration) (c : Clock) :
    (start profile policy period c).Remembers period fun _ => none where
  period_eq := rfl
  punctual consumer slot hslot := by
    have hnone : (ChangeTracker.empty period).slot? c.now consumer = none :=
      TtlStore.live?_empty ..
    exact nomatch hnone.symm.trans hslot
  access?_eq consumer := by
    have hnone : (ChangeTracker.empty period).slot? c.now consumer = none :=
      TtlStore.live?_empty ..
    exact congrArg (Option.map _) hnone

theorem next (h : s.Remembers period last) (hperiod : period ≠ 0)
    (hrange : s.clock.now + period < Instant.limit) (op : FeedOp α) :
    (s.next op).Remembers period fun consumer =>
      if op.poller? = some consumer then some s.clock.now else last consumer := by
  obtain ⟨rfl, hpunctual, haccess⟩ := h
  have hle : s.clock.now ≤ (s.next op).clock.now := op.now_le_clock s.clock
  constructor
  case period_eq => exact s.period_next op
  case punctual => exact punctual_next hpunctual hrange op
  case access?_eq =>
    intro consumer
    have hstep := hpunctual.step hrange (s.tracker_next op)
    rw [hstep.access?_later hle, access?_next hpunctual hperiod hrange, haccess, period_next]
    split
    · rfl
    · rw [Option.filter_filter]
      congr 1
      funext polled
      rw [← Bool.decide_and]
      exact decide_eq_decide.2 (and_iff_right_of_imp (Instant.sub_lt_of_le hle))

theorem run (h : s.Remembers period last) (hperiod : period ≠ 0) (ops : List (FeedOp α))
    (hrange : (s.run ops).clock.now + period < Instant.limit) :
    (s.run ops).Remembers period fun consumer =>
      FeedOp.lastPoll consumer s.clock (last consumer) ops := by
  induction ops generalizing s last with
  | nil => exact h
  | cons op rest ih =>
    have hnow : s.clock.now + period < Instant.limit :=
      Int.lt_of_le_of_lt (Int.add_le_add_right (s.now_le_run (op :: rest)) _) hrange
    exact ih (h.next hperiod hnow op) hrange

/-- A consumer is known, and keys may wait for it, if its last poll is recent. -/
theorem isSome_lookup_eq (h : s.Remembers period last) (consumer : String) :
    (s.feed.tracker.consumers.lookup s.clock.now consumer).isSome =
      (last consumer).any fun polled => s.clock.now - polled < period := by
  rw [ChangeTracker.isSome_lookup, h.access?_eq]
  cases last consumer with
  | none => rfl
  | some polled =>
    rw [Option.filter_some, Option.any_some]
    split <;> simp_all

theorem known_eq (h : s.Remembers period last) (consumer : String) (request : ReadRequest) :
    (s.pollResult consumer request).known =
      (last consumer).any fun polled => s.clock.now - polled < period := by
  rw [← h.isSome_lookup_eq]
  exact congrArg ReadResult.known (s.feed.tracker.result_read s.feed.store _ consumer request)

theorem pendingCount_eq (h : s.Remembers period last) (consumer : String) :
    (s.feed.tracker.pendingCount s.clock.now consumer).isSome =
      (last consumer).any fun polled => s.clock.now - polled < period := by
  rw [ChangeTracker.pendingCount, Option.isSome_map, h.isSome_lookup_eq]

/-- There are as many known consumers as consumers whose last poll is recent. -/
theorem consumerCount_eq (h : s.Remembers period last) {all : Std.ExtTreeSet String compare}
    (hall : ∀ consumer, (last consumer).isSome = true → consumer ∈ all) :
    s.feed.tracker.consumerCount s.clock.now =
      (all.filter fun consumer =>
        (last consumer).any fun polled => s.clock.now - polled < period).size := by
  rw [← Std.ExtTreeSet.length_toList]
  apply TtlStore.size_eq_length (TtlStore.nodup_toList _)
  intro consumer
  have hknown : (s.feed.tracker.consumers.live? s.clock.now consumer).isSome =
      (last consumer).any fun polled => s.clock.now - polled < period := by
    rw [← h.isSome_lookup_eq, TtlStore.lookup, Option.isSome_map]
  have hpolled : ((last consumer).any fun polled => s.clock.now - polled < period) = true →
      consumer ∈ all := by
    intro hrecent
    obtain ⟨polled, hlast, -⟩ := Option.any_eq_true _ _ |>.1 hrecent
    exact hall consumer (Option.isSome_of_mem hlast)
  rw [Std.ExtTreeSet.mem_toList, hknown]
  simpa using hpolled

end Remembers

theorem clock_run (s : TimedFeed α) (ops : List (FeedOp α)) :
    (s.run ops).clock = FeedOp.clockAfter s.clock ops := by
  induction ops generalizing s with
  | nil => rfl
  | cons op rest ih => exact ih (s.next op)

/-- A consumer is known for exactly one tracking period after its last poll: its next poll says so,
keys may wait for it, and it is counted. Nothing but its own polls makes that longer or shorter,
because it is known just as long in a run of these polls alone. The clock has to be able to show the
end of a period that begins with the run's last instant. -/
theorem known_for_one_period (profile : Profile α) (policy : ExpirationPolicy) {period : Duration}
    (clock : Clock) (hperiod : period ≠ 0) (ops : List (FeedOp α))
    (hrange : ((start profile policy period clock).run ops).clock.now + period <
      Instant.limit) :
    let s := start profile policy period clock
    let now := (s.run ops).clock.now
    let recent (consumer : String) : Bool :=
      (FeedOp.lastPoll consumer clock none ops).any fun polled => now - polled < period
    (∀ consumer request, ((s.run ops).pollResult consumer request).known = recent consumer) ∧
      (∀ consumer, ((s.run ops).feed.tracker.pendingCount now consumer).isSome =
        recent consumer) ∧
      (s.run ops).feed.tracker.consumerCount now =
        ((FeedOp.pollers ops).filter recent).size ∧
      ∀ consumer request,
        let own := s.run (ops.filter (FeedOp.isOwn consumer))
        own.clock = (s.run ops).clock ∧
          (own.pollResult consumer request).known =
            ((s.run ops).pollResult consumer request).known ∧
          (own.feed.tracker.pendingCount own.clock.now consumer).isSome =
            ((s.run ops).feed.tracker.pendingCount now consumer).isSome := by
  intro s now recent
  have hstart : s.Remembers period fun _ => none := .start profile policy period clock
  have hrun := hstart.run hperiod ops hrange
  refine ⟨hrun.known_eq, hrun.pendingCount_eq, ?_, ?_⟩
  · apply hrun.consumerCount_eq
    intro consumer hpolled
    exact FeedOp.mem_pollers_of_lastPoll hpolled rfl
  · intro consumer request own
    have hclock : own.clock = (s.run ops).clock := by
      rw [s.clock_run, s.clock_run, FeedOp.clockAfter_filter]
    have hrange' : own.clock.now + period < Instant.limit := by
      rw [hclock]
      exact hrange
    have hown := hstart.run hperiod (ops.filter (FeedOp.isOwn consumer)) hrange'
    have hrecent : ((FeedOp.lastPoll consumer clock none (ops.filter (FeedOp.isOwn consumer))).any
        fun polled => own.clock.now - polled < period) = recent consumer := by
      rw [FeedOp.lastPoll_filter, hclock]
    refine ⟨hclock, ?_, ?_⟩
    · calc (own.pollResult consumer request).known
        _ = recent consumer := (hown.known_eq consumer request).trans hrecent
        _ = _ := (hrun.known_eq consumer request).symm
    · calc (own.feed.tracker.pendingCount own.clock.now consumer).isSome
        _ = recent consumer := (hown.pendingCount_eq consumer).trans hrecent
        _ = _ := (hrun.pendingCount_eq consumer).symm

/-- One poller polls half a period after another one. Between, the change sets of both are merged
with a changed key, the last time at the last moment at which both are known. -/
theorem known_until_end :
    let s := start InfoMessage.profile ⟨0, Duration.hour⟩ Duration.minute ⟨.epoch, 0⟩
    let ops : List (FeedOp InfoMessage) := [.poll "early" {}, .pass (.advance 30000000000),
      .poll "late" {}, .ingest "A" [{ identifier := some "a" }], .commit,
      .ingest "A" [{ identifier := some "b" }], .pass (.advance 29999999999), .commit,
      .pass (.advance 1)]
    (Duration.minute ≠ 0 ∧ (s.run ops).clock.now + Duration.minute < Instant.limit) ∧
      ((s.run ops).pollResult "early" {}).known = false ∧
      ((s.run ops).pollResult "late" {}).known = true := by
  intro s ops
  have hperiod : Duration.minute ≠ 0 := by decide
  have hrange : (s.run ops).clock.now + Duration.minute < Instant.limit := by decide +kernel
  have hknown := (known_for_one_period InfoMessage.profile ⟨0, Duration.hour⟩ ⟨.epoch, 0⟩ hperiod
    ops hrange).1
  refine ⟨⟨hperiod, hrange⟩, ?_, ?_⟩
  · rw [hknown]
    decide +kernel
  · rw [hknown]
    decide +kernel

end TimedFeed

end TransitHub
