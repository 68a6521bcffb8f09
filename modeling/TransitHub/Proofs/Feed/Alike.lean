/-
# Two feeds that are alike for some pollers

Two feeds are alike on some datasets and for some pollers if their stores are alike on the datasets
and their trackers serve the pollers alike. There are two sorts of operations that keep them so. An
unseen one, which is for other datasets or other pollers, may be performed in one feed only. A seen
one has to be performed in both, and then it has the same answer in both. A commit is of neither
sort: it has to be performed in both, but it tells how much other traffic there was.

A run can therefore be compared with what is left of it when some of its unseen operations are taken
out. The two runs stay alike, so all operations that are seen are answered alike.
-/

import TransitHub.Proofs.Feed.Step
import TransitHub.Proofs.Tracking.Alike

namespace TransitHub

variable {α : Type}

namespace FeedOp

/-- What two feeds that are alike on some datasets and for some pollers do not notice. -/
def Unseen (p : Profile α) (D R : String → Prop) : FeedOp α → Prop
  | .ingest dataset _ | .ingestJson dataset _ => p.StoresIn dataset fun d => ¬ D d
  | .clearDataset dataset => ¬ D dataset
  | .poll consumer _ => ¬ R consumer
  | .commit | .flush | .pass _ => False
  | .pendingCount _ | .consumerCount | .getAll _ | .query _ | .sweep => True

/-- What two such feeds answer alike. -/
def Seen (p : Profile α) (D R : String → Prop) : FeedOp α → Prop
  | .ingest dataset _ | .ingestJson dataset _ => p.StoresIn dataset D
  | .clearDataset dataset => D dataset
  | .poll consumer request => R consumer ∧ ∀ d, request.filter.acceptsDataset d = true → D d
  | .pendingCount consumer => R consumer ∧ ∀ d, D d
  | .getAll dataset => ∀ d, dataset.all (d = ·) = true → D d
  | .query filter => ∀ d, filter.acceptsDataset d = true → D d
  | .sweep | .pass _ => True
  | .commit | .flush | .consumerCount => False

end FeedOp

/-! ## Feeds -/

namespace Feed

variable {D R : String → Prop} {now : Instant} {c : Clock} {f g : Feed α} {op : FeedOp α}
  {dataset : String}

/-- Whether two feeds are alike on some datasets and for some pollers. -/
structure AlikeOn (D R : String → Prop) (now : Instant) (f g : Feed α) : Prop where
  store : f.store.AlikeOn D now g.store
  tracker : f.tracker.AlikeOn D R now g.tracker

namespace AlikeOn

theorem symm (h : f.AlikeOn D R now g) : g.AlikeOn D R now f := ⟨h.store.symm, h.tracker.symm⟩

theorem later (h : f.AlikeOn D R now g) {later : Instant} (hle : now ≤ later) :
    f.AlikeOn D R later g :=
  ⟨h.store.later hle, h.tracker.later hle⟩

/-- A batch for other datasets, in one feed only. -/
theorem ingest_left (h : f.AlikeOn D R c.now g)
    (hother : f.store.profile.StoresIn dataset fun d => ¬ D d) (items : List α)
    (undecodable : Nat) : (f.ingest c dataset items undecodable).2.AlikeOn D R c.now g where
  store := (f.store.alikeOn_upsertAll hother items).symm.trans h.store
  tracker := by
    rw [tracker_ingest]
    split
    · exact h.tracker
    · apply h.tracker.recordChange_left
      intro k hk
      exact EntityStore.storesIn_changedKeys hother hk

theorem ingest (h : f.AlikeOn D R c.now g) (hstores : f.store.profile.StoresIn dataset D)
    (items : List α) (undecodable : Nat) :
    (f.ingest c dataset items undecodable).1 = (g.ingest c dataset items undecodable).1 ∧
      (f.ingest c dataset items undecodable).2.AlikeOn D R c.now
        (g.ingest c dataset items undecodable).2 := by
  obtain ⟨hresult, hstore⟩ := h.store.upsertAll hstores items
  refine ⟨congrArg (Ingested.mk · undecodable) hresult, hstore, ?_⟩
  rw [tracker_ingest, tracker_ingest, hresult]
  split
  · exact h.tracker
  · exact h.tracker.recordChange _

theorem ingestJson (h : f.AlikeOn D R c.now g) (hstores : f.store.profile.StoresIn dataset D)
    (items : List Json) :
    (f.ingestJson c dataset items).1 = (g.ingestJson c dataset items).1 ∧
      (f.ingestJson c dataset items).2.AlikeOn D R c.now (g.ingestJson c dataset items).2 := by
  unfold Feed.ingestJson
  rw [← h.store.profile]
  exact h.ingest hstores _ _

theorem commit (h : f.AlikeOn D R now g) (hpaced : ChangeTracker.Paced now f.tracker g.tracker) :
    (f.commit now).2.AlikeOn D R now (g.commit now).2 :=
  ⟨h.store, h.tracker.commit hpaced⟩

/-- A poll by another consumer, in one feed only. -/
theorem poll_left (h : f.AlikeOn D R now g) {consumer : String} (hother : ¬ R consumer)
    (request : ReadRequest) : (f.poll now consumer request).2.AlikeOn D R now g where
  store := (f.tracker.alikeOn_read f.store now consumer request).symm.trans h.store
  tracker := by
    show (f.tracker.read f.store now consumer request).2.1.AlikeOn D R now g.tracker
    rw [ChangeTracker.tracker_read]
    exact h.tracker.remember_left hother _ _

theorem poll (h : f.AlikeOn D R now g) {consumer : String} {request : ReadRequest}
    (hconsumer : R consumer) (hwanted : ∀ d, request.filter.acceptsDataset d = true → D d) :
    (f.poll now consumer request).1 = (g.poll now consumer request).1 ∧
      (f.poll now consumer request).2.AlikeOn D R now (g.poll now consumer request).2 := by
  obtain ⟨hresult, htracker⟩ := h.tracker.read h.store hconsumer hwanted
  have hstore := h.store.trans (g.tracker.alikeOn_read g.store now consumer request)
  exact ⟨hresult, (f.tracker.alikeOn_read f.store now consumer request).symm.trans hstore, htracker⟩

theorem clear (h : f.AlikeOn D R now g) (hdataset : D dataset) :
    (f.clear now dataset).1 = (g.clear now dataset).1 ∧
      (f.clear now dataset).2.AlikeOn D R now (g.clear now dataset).2 := by
  obtain ⟨hcount, hstore⟩ := h.store.clearDataset hdataset
  exact ⟨hcount, hstore, h.tracker⟩

/-- An unseen operation, in one feed only. -/
theorem perform_left (h : f.AlikeOn D R c.now g) (hunseen : op.Unseen f.store.profile D R) :
    (f.perform c op).2.AlikeOn D R c.now g := by
  cases op with
  | ingest dataset items => exact h.ingest_left hunseen items 0
  | ingestJson dataset items =>
    exact h.ingest_left hunseen (decodable f.store.profile items)
      (items.length - (decodable f.store.profile items).length)
  | clearDataset dataset =>
    exact ⟨(f.store.alikeOn_clearDataset hunseen).symm.trans h.store, h.tracker⟩
  | poll consumer request => exact h.poll_left hunseen request
  | pendingCount consumer => exact ⟨h.store, h.tracker.touch_left consumer⟩
  | sweep => exact ⟨f.store.alikeOn_sweep.symm.trans h.store, h.tracker.sweep_left⟩
  | consumerCount | getAll | query => exact h
  | commit | flush | pass => exact hunseen.elim

/-- An unseen operation, in both feeds. -/
theorem perform_unseen (h : f.AlikeOn D R c.now g) (hunseen : op.Unseen f.store.profile D R) :
    (f.perform c op).2.AlikeOn D R c.now (g.perform c op).2 := by
  have hunseen' : op.Unseen g.store.profile D R := by
    rwa [← h.store.profile]
  exact ((h.perform_left hunseen).symm.perform_left hunseen').symm

/-- A seen operation is answered alike and keeps the feeds alike. -/
theorem perform_seen (h : f.AlikeOn D R c.now g) (hseen : op.Seen f.store.profile D R) :
    (f.perform c op).1 = (g.perform c op).1 ∧
      (f.perform c op).2.AlikeOn D R c.now (g.perform c op).2 := by
  cases op with
  | ingest dataset items =>
    obtain ⟨hingested, hafter⟩ := h.ingest hseen items 0
    exact ⟨congrArg FeedAnswer.ingested hingested, hafter⟩
  | ingestJson dataset items =>
    obtain ⟨hingested, hafter⟩ := h.ingestJson hseen items
    exact ⟨congrArg FeedAnswer.ingested hingested, hafter⟩
  | clearDataset dataset =>
    obtain ⟨hcount, hafter⟩ := h.clear hseen
    exact ⟨congrArg FeedAnswer.cleared hcount, hafter⟩
  | poll consumer request =>
    obtain ⟨hresult, hafter⟩ := h.poll hseen.1 hseen.2
    exact ⟨congrArg FeedAnswer.polled hresult, hafter⟩
  | pendingCount consumer =>
    have hcount := h.tracker.pendingCount_eq hseen.1 hseen.2
    have hunseen : (FeedOp.pendingCount consumer).Unseen f.store.profile D R := trivial
    have hafter := h.perform_unseen hunseen
    exact ⟨congrArg FeedAnswer.pending hcount, hafter⟩
  | getAll dataset => exact ⟨congrArg FeedAnswer.entities (h.store.getAll_eq hseen), h⟩
  | query filter => exact ⟨congrArg FeedAnswer.entities (h.store.query_eq hseen), h⟩
  | sweep =>
    have hunseen : FeedOp.sweep.Unseen f.store.profile D R := trivial
    exact ⟨rfl, h.perform_unseen hunseen⟩
  | pass t => exact ⟨rfl, h⟩
  | commit | flush | consumerCount => exact hseen.elim

end AlikeOn

end Feed

/-! ## Feeds at a moment -/

namespace TimedFeed

variable {D R : String → Prop} {s t : TimedFeed α} {op : FeedOp α}

/-- Whether two feeds are alike at the same moment. -/
structure AlikeOn (D R : String → Prop) (s t : TimedFeed α) : Prop where
  clock : s.clock = t.clock
  feed : s.feed.AlikeOn D R s.clock.now t.feed

theorem alikeOn_start (profile : Profile α) (policy : ExpirationPolicy) (period : Duration)
    (clock : Clock) :
    (start profile policy period clock).AlikeOn D R (start profile policy period clock) where
  clock := rfl
  feed := ⟨.refl _, ChangeTracker.alikeOn_empty period⟩

namespace AlikeOn

/-- An unseen operation, in one feed only. -/
theorem next_left (h : s.AlikeOn D R t) (hunseen : op.Unseen s.feed.store.profile D R) :
    (s.next op).AlikeOn D R t := by
  have hclock : op.clock s.clock = s.clock := by
    cases op with
    | pass step => exact hunseen.elim
    | _ => rfl
  constructor
  case clock => exact hclock.trans h.clock
  case feed =>
    show (s.feed.perform s.clock op).2.AlikeOn D R (op.clock s.clock).now t.feed
    rw [hclock]
    exact h.feed.perform_left hunseen

/-- Any operation in both feeds, if a commit is paced alike. -/
theorem next (h : s.AlikeOn D R t)
    (hop : op.Seen s.feed.store.profile D R ∨ op.Unseen s.feed.store.profile D R ∨ op.Commits)
    (hpaced : ChangeTracker.Paced s.clock.now s.feed.tracker t.feed.tracker) :
    (s.next op).AlikeOn D R (t.next op) where
  clock := congrArg (op.clock ·) h.clock
  feed := by
    apply Feed.AlikeOn.later ?_ (op.now_le_clock s.clock)
    show (s.feed.perform s.clock op).2.AlikeOn D R s.clock.now (t.feed.perform t.clock op).2
    rw [← h.clock]
    rcases hop with hseen | hunseen | hcommits
    · exact (h.feed.perform_seen hseen).2
    · exact h.feed.perform_unseen hunseen
    · cases op with
      | commit => exact h.feed.commit hpaced
      | flush => exact h.feed.commit hpaced
      | _ => exact hcommits.elim

theorem event_eq (h : s.AlikeOn D R t) (hseen : op.Seen s.feed.store.profile D R) :
    s.event op = t.event op := by
  rw [event, event, ← h.clock, (h.feed.perform_seen hseen).1]

end AlikeOn

end TimedFeed

end TransitHub
