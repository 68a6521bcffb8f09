/-
# What runs of a feed keep apart

A run of a feed is compared with what is left of it when some operations are taken out. What others
see must not depend on these.

Datasets are isolated: without the batches and the clearings of one dataset, everything that is asked
about another one has the same answer, be it a batch, a clearing, a query or a poll of a consumer
that reads nothing else. It is not trivial that the polls are answered alike, because the changes of
the other dataset take part in the commits, and a commit with nothing to merge does not decide anew
how long consumers are remembered. All deadlines have to be instants that the clock can show for
this not to matter.

Pollers are independent: without the polls of all other consumers, one consumer is answered the same,
and so is everyone who ingests, clears or queries. Here both runs have the same changes in the
buffer at any time, so nothing is asked of the deadlines.
-/

import TransitHub.Entity.InfoMessage
import TransitHub.Proofs.EntityFilter
import TransitHub.Proofs.Feed.Alike

namespace TransitHub

/-- Whether a filter wants one dataset and no other. -/
def EntityFilter.wantsOnly (f : EntityFilter) (dataset : String) : Bool :=
  (f.values? .datasetId).any fun wanted => wanted.toList = [dataset]

theorem EntityFilter.eq_of_wantsOnly {f : EntityFilter} {dataset d : String}
    (h : f.wantsOnly dataset = true) (haccepts : f.acceptsDataset d = true) : d = dataset := by
  obtain ⟨wanted, hwanted, honly⟩ := (Option.any_eq_true _ _).1 h
  have hmem : d ∈ wanted := (acceptsDataset_iff.1 haccepts).1 wanted hwanted
  rw [← Std.ExtTreeSet.mem_toList, of_decide_eq_true honly] at hmem
  exact List.mem_singleton.1 hmem

namespace FeedOp

variable {α : Type}

/-- Whether an operation brings entities into a dataset or clears it. -/
def writesTo (dataset : String) : FeedOp α → Bool
  | .ingest d _ | .ingestJson d _ | .clearDataset d => d = dataset
  | _ => false

/-- Whether every poll of a consumer wants one dataset only. -/
def readsOnly (ops : List (FeedOp α)) (consumer dataset : String) : Bool :=
  ops.all fun
    | .poll poller request => poller ≠ consumer || request.filter.wantsOnly dataset
    | _ => true

/-- Whether an operation of a run asks about one dataset only. A poll does if all polls of its
consumer do. -/
def concerns (ops : List (FeedOp α)) (dataset : String) : FeedOp α → Bool
  | .ingest d _ | .ingestJson d _ | .clearDataset d => d = dataset
  | .getAll d => d = some dataset
  | .query filter => filter.wantsOnly dataset
  | .poll consumer _ => readsOnly ops consumer dataset
  | _ => false

/-- Whether an operation is a poll by anyone but one consumer. -/
def pollsForOthers (consumer : String) : FeedOp α → Bool
  | .poll poller _ => poller ≠ consumer
  | _ => false

/-- Whether an operation is answered to one consumer, or from the records alone. -/
def answersTo (consumer : String) : FeedOp α → Bool
  | .poll poller _ | .pendingCount poller => poller = consumer
  | .ingest .. | .ingestJson .. | .clearDataset _ | .getAll _ | .query _ => true
  | .commit | .flush | .consumerCount | .sweep | .pass _ => false

end FeedOp

namespace TimedFeed

variable {α : Type} {D R : String → Prop} {s t : TimedFeed α} {op : FeedOp α}

/-- The answers of a run, with their operations. -/
def events (s : TimedFeed α) : List (FeedOp α) → List (FeedEvent α)
  | [] => []
  | op :: rest => s.event op :: (s.next op).events rest

/-! ## Taking operations out -/

/-- A run shows the same with and without some operations if both stay related. The relation may
also speak of the operations that are still to come. -/
theorem filter_events_eq (Rel : List (FeedOp α) → TimedFeed α → TimedFeed α → Prop)
    {dropped shown : FeedOp α → Bool}
    (hdropped : ∀ {op rest s t}, Rel (op :: rest) s t → dropped op = true →
      shown op = false ∧ Rel rest (s.next op) t)
    (hkept : ∀ {op rest s t}, Rel (op :: rest) s t → dropped op = false →
      (shown op = true → s.event op = t.event op) ∧ Rel rest (s.next op) (t.next op))
    {ops : List (FeedOp α)} (h : Rel ops s t) :
    (t.events (ops.filter fun op => !dropped op)).filter (fun e => shown e.op) =
      (s.events ops).filter fun e => shown e.op := by
  -- The whole run sets the pace: what is dropped is performed in its feed only.
  induction ops generalizing s t with
  | nil => rfl
  | cons op rest ih =>
    have hop (u : TimedFeed α) : (u.event op).op = op := rfl
    cases hdrop : dropped op with
    | true =>
      obtain ⟨hhidden, hrest⟩ := hdropped h hdrop
      rw [List.filter_cons_of_neg (by simp [hdrop]), events,
        List.filter_cons_of_neg (by simp [hop, hhidden]), ih hrest]
    | false =>
      obtain ⟨hevent, hrest⟩ := hkept h hdrop
      rw [List.filter_cons_of_pos (by simp [hdrop]), events, events]
      cases hshow : shown op with
      | true =>
        rw [List.filter_cons_of_pos (by simp [hop, hshow]),
          List.filter_cons_of_pos (by simp [hop, hshow]), hevent hshow, ih hrest]
      | false =>
        rw [List.filter_cons_of_neg (by simp [hop, hshow]),
          List.filter_cons_of_neg (by simp [hop, hshow]), ih hrest]

/-! ## Pacing the commits -/

/-- As long as the clock can show the end of a period that begins now, the change set of every
consumer ends one period after its last poll. -/
theorem punctual_next (h : s.feed.tracker.Punctual s.clock.now)
    (hrange : s.clock.now + s.feed.tracker.period < Instant.limit) (op : FeedOp α) :
    (s.next op).feed.tracker.Punctual (s.next op).clock.now := by
  apply ChangeTracker.Punctual.later ?_ (op.now_le_clock s.clock)
  exact h.step hrange (s.tracker_next op)

/-- Where batches report the same in both feeds, the same is buffered in both. -/
theorem AlikeOn.buffer_next (h : s.AlikeOn D R t)
    (hstores : ∀ dataset, s.feed.store.profile.StoresIn dataset D) (hbuffer : s.buffer = t.buffer)
    (op : FeedOp α) : (s.next op).buffer = (t.next op).buffer := by
  change s.feed.tracker.buffer = t.feed.tracker.buffer at hbuffer
  have hingest (dataset : String) (items : List α) (undecodable : Nat) :
      (s.feed.ingest s.clock dataset items undecodable).2.tracker.buffer =
        (t.feed.ingest t.clock dataset items undecodable).2.tracker.buffer := by
    have hresult := (h.feed.store.upsertAll (hstores dataset) items).1
    rw [Feed.tracker_ingest, Feed.tracker_ingest, ← h.clock, hresult]
    split
    · exact hbuffer
    · rw [ChangeTracker.recordChange, ChangeTracker.recordChange, hbuffer]
  have hcommit : (s.feed.tracker.commit s.clock.now).2.buffer =
      (t.feed.tracker.commit t.clock.now).2.buffer := by
    rw [ChangeTracker.buffer_commit, ChangeTracker.buffer_commit, hbuffer]
  cases op with
  | ingest dataset items => exact hingest dataset items 0
  | ingestJson dataset items =>
    show (s.feed.ingestJson s.clock dataset items).2.tracker.buffer =
      (t.feed.ingestJson t.clock dataset items).2.tracker.buffer
    unfold Feed.ingestJson
    rw [← h.feed.store.profile]
    exact hingest dataset _ _
  | commit => exact hcommit
  | flush => exact hcommit
  | poll poller request =>
    rw [buffer_poll, buffer_poll]
    exact hbuffer
  | _ => exact hbuffer

theorem now_le_run (s : TimedFeed α) (ops : List (FeedOp α)) :
    s.clock.now ≤ (s.run ops).clock.now :=
  List.foldlRecOn (motive := fun t : TimedFeed α => s.clock.now ≤ t.clock.now) ops next
    (Int.le_refl s.clock.now) fun t h op _ => Int.le_trans h (op.now_le_clock t.clock)

/-! ## Datasets -/

section Datasets

variable {kind : DataKind} {A B : String} {all rest : List (FeedOp kind.Entity)}
  {op : FeedOp kind.Entity} {s t : TimedFeed kind.Entity}

/-- The batches for a dataset and its clearings are not noticed in the others. -/
theorem unseen_of_writesTo (hwrites : op.writesTo A = true) :
    op.Unseen kind.profile (· ≠ A) R := by
  have hstores {dataset : String} (hdataset : decide (dataset = A) = true) :
      kind.profile.StoresIn dataset fun d => ¬ d ≠ A := by
    apply kind.storesIn fun d => ¬ d ≠ A
    exact not_not_intro (of_decide_eq_true hdataset)
  cases op with
  | ingest dataset items => exact hstores hwrites
  | ingestJson dataset items => exact hstores hwrites
  | clearDataset dataset => exact not_not_intro (of_decide_eq_true hwrites)
  | _ => exact nomatch hwrites

theorem not_concerns_of_writesTo (hne : A ≠ B) (hwrites : op.writesTo A = true) :
    op.concerns all B = false := by
  have hother {dataset : String} (hdataset : decide (dataset = A) = true) :
      decide (dataset = B) = false := by
    rw [of_decide_eq_true hdataset]
    exact decide_eq_false hne
  cases op with
  | ingest | ingestJson | clearDataset => exact hother hwrites
  | _ => exact nomatch hwrites

/-- What asks about another dataset is seen. -/
theorem seen_of_concerns (hne : A ≠ B) (hmem : op ∈ all) (hconcerns : op.concerns all B = true) :
    op.Seen kind.profile (· ≠ A) fun consumer => FeedOp.readsOnly all consumer B = true := by
  have hother {d : String} (hd : d = B) : d ≠ A := by
    rw [hd]
    exact hne.symm
  cases op with
  | ingest dataset items => exact kind.storesIn (· ≠ A) (hother (of_decide_eq_true hconcerns))
  | ingestJson dataset items => exact kind.storesIn (· ≠ A) (hother (of_decide_eq_true hconcerns))
  | clearDataset dataset => exact hother (of_decide_eq_true hconcerns)
  | getAll dataset =>
    intro d hd
    rw [of_decide_eq_true hconcerns] at hd
    exact hother (of_decide_eq_true hd)
  | query filter =>
    intro d hd
    exact hother (filter.eq_of_wantsOnly hconcerns hd)
  | poll consumer request =>
    refine ⟨hconcerns, fun d hd => ?_⟩
    have hwants := List.all_eq_true.1 hconcerns _ hmem
    simp only [ne_eq, not_true_eq_false, decide_false, Bool.false_or] at hwants
    exact hother (request.filter.eq_of_wantsOnly hwants hd)
  | _ => exact nomatch hconcerns

/-- Everything that is left in the run may be performed in both feeds. -/
theorem sorted_of_not_writesTo (hne : A ≠ B) (hmem : op ∈ all) (hkept : op.writesTo A = false) :
    let R := fun consumer => FeedOp.readsOnly all consumer B = true
    op.Seen kind.profile (· ≠ A) R ∨ op.Unseen kind.profile (· ≠ A) R ∨ op.Commits := by
  intro R
  cases op with
  | ingest dataset items => exact Or.inl (kind.storesIn (· ≠ A) (of_decide_eq_false hkept))
  | ingestJson dataset items => exact Or.inl (kind.storesIn (· ≠ A) (of_decide_eq_false hkept))
  | clearDataset dataset => exact Or.inl (of_decide_eq_false hkept)
  | poll consumer request =>
    by_cases hreads : FeedOp.readsOnly all consumer B = true
    · exact Or.inl (seen_of_concerns hne hmem hreads)
    · exact Or.inr (Or.inl hreads)
  | commit | flush => exact Or.inr (Or.inr trivial)
  | pass => exact Or.inl trivial
  | pendingCount | consumerCount | getAll | query | sweep => exact Or.inr (Or.inl trivial)

/-- Two feeds with the operations that are still to come, one of which has seen nothing of a
dataset. -/
structure Apart (A B : String) (all rest : List (FeedOp kind.Entity))
    (s t : TimedFeed kind.Entity) : Prop where
  alike : s.AlikeOn (· ≠ A) (fun consumer => FeedOp.readsOnly all consumer B = true) t
  profile : s.feed.store.profile = kind.profile
  punctual : s.feed.tracker.Punctual s.clock.now ∧ t.feed.tracker.Punctual t.clock.now
  range : (s.run rest).clock.now + s.feed.tracker.period < Instant.limit
  mem_all : ∀ op ∈ rest, op ∈ all

namespace Apart

theorem range_now (h : Apart A B all rest s t) :
    s.clock.now + s.feed.tracker.period < Instant.limit ∧
      t.clock.now + t.feed.tracker.period < Instant.limit := by
  have hnow : s.clock.now + s.feed.tracker.period < Instant.limit :=
    Int.lt_of_le_of_lt (Int.add_le_add_right (s.now_le_run rest) _) h.range
  refine ⟨hnow, ?_⟩
  rw [← h.alike.clock, ← h.alike.feed.tracker.period]
  exact hnow

theorem paced (h : Apart A B all rest s t) :
    ChangeTracker.Paced s.clock.now s.feed.tracker t.feed.tracker := by
  obtain ⟨hpunctual, hpunctual'⟩ := h.punctual
  obtain ⟨hrange, hrange'⟩ := h.range_now
  rw [← h.alike.clock] at hpunctual' hrange'
  exact Or.inr ⟨hpunctual, hpunctual', hrange, hrange'⟩

theorem next_left (h : Apart A B all (op :: rest) s t) (hwrites : op.writesTo A = true) :
    Apart A B all rest (s.next op) t where
  alike := by
    apply h.alike.next_left
    rw [h.profile]
    exact unseen_of_writesTo hwrites
  profile := (s.profile_next op).trans h.profile
  punctual := ⟨punctual_next h.punctual.1 h.range_now.1 op, h.punctual.2⟩
  range := by
    rw [period_next]
    exact h.range
  mem_all op hop := h.mem_all op (List.mem_cons_of_mem _ hop)

theorem next (hne : A ≠ B) (h : Apart A B all (op :: rest) s t)
    (hkept : op.writesTo A = false) : Apart A B all rest (s.next op) (t.next op) where
  alike := by
    apply h.alike.next ?_ h.paced
    rw [h.profile]
    exact sorted_of_not_writesTo hne (h.mem_all op List.mem_cons_self) hkept
  profile := (s.profile_next op).trans h.profile
  punctual := ⟨punctual_next h.punctual.1 h.range_now.1 op,
    punctual_next h.punctual.2 h.range_now.2 op⟩
  range := by
    rw [period_next]
    exact h.range
  mem_all op hop := h.mem_all op (List.mem_cons_of_mem _ hop)

end Apart

end Datasets

/-! ## Pollers -/

section Pollers

variable {consumer : String} {p : Profile α}

/-- Nobody else notices the polls of others. -/
theorem unseen_of_pollsForOthers (hpolls : op.pollsForOthers consumer = true) :
    op.Unseen p D (· = consumer) := by
  cases op with
  | poll poller request =>
    have hother : poller ≠ consumer := of_decide_eq_true hpolls
    exact hother
  | _ => exact nomatch hpolls

theorem not_answersTo_of_pollsForOthers (hpolls : op.pollsForOthers consumer = true) :
    op.answersTo consumer = false := by
  cases op with
  | poll poller request => exact decide_eq_false (of_decide_eq_true hpolls)
  | _ => exact nomatch hpolls

theorem buffer_of_pollsForOthers (hpolls : op.pollsForOthers consumer = true) :
    (s.next op).buffer = s.buffer := by
  cases op with
  | poll poller request => exact s.buffer_poll poller request
  | _ => exact nomatch hpolls

/-- What is answered to the consumer, or from the records alone, is seen. -/
theorem seen_of_answersTo (hanswers : op.answersTo consumer = true) :
    op.Seen p (fun _ => True) (· = consumer) := by
  cases op with
  | poll poller request => exact ⟨of_decide_eq_true hanswers, fun _ _ => trivial⟩
  | pendingCount poller => exact ⟨of_decide_eq_true hanswers, fun _ => trivial⟩
  | ingest | ingestJson => exact fun _ _ _ => trivial
  | clearDataset => trivial
  | getAll | query => exact fun _ _ => trivial
  | _ => exact nomatch hanswers

/-- Everything else that is left in the run may be performed in both feeds. -/
theorem sorted_of_not_pollsForOthers (hkept : op.pollsForOthers consumer = false) :
    op.Seen p (fun _ => True) (· = consumer) ∨
      op.Unseen p (fun _ => True) (· = consumer) ∨ op.Commits := by
  cases op with
  | poll poller request =>
    have hself : poller = consumer := Decidable.not_not.1 (of_decide_eq_false hkept)
    exact Or.inl (seen_of_answersTo (decide_eq_true hself))
  | commit | flush => exact Or.inr (Or.inr trivial)
  | pendingCount | consumerCount | sweep => exact Or.inr (Or.inl trivial)
  | pass => exact Or.inl trivial
  | ingest | ingestJson | clearDataset | getAll | query => exact Or.inl (seen_of_answersTo rfl)

/-- Two feeds that have the same records, the same changes in the buffer and the same to serve to
one consumer. -/
structure Shared (consumer : String) (s t : TimedFeed α) : Prop where
  alike : s.AlikeOn (fun _ => True) (· = consumer) t
  buffer : s.buffer = t.buffer

theorem Shared.next_left (h : Shared consumer s t) (hpolls : op.pollsForOthers consumer = true) :
    Shared consumer (s.next op) t where
  alike := h.alike.next_left (unseen_of_pollsForOthers hpolls)
  buffer := (buffer_of_pollsForOthers hpolls).trans h.buffer

theorem Shared.next (h : Shared consumer s t) (hkept : op.pollsForOthers consumer = false) :
    Shared consumer (s.next op) (t.next op) where
  alike := by
    apply h.alike.next (sorted_of_not_pollsForOthers hkept)
    exact Or.inl (congrArg ChangeBuffer.isEmpty h.buffer)
  buffer := h.alike.buffer_next (fun _ _ _ _ => trivial) h.buffer op

/-- Pollers are independent. Taking the polls of all other consumers out of a run changes no answer
to one consumer, how many keys wait for it included, and no answer to a batch, a clearing, a reading
of all entities or a query. -/
theorem pollers_independent (profile : Profile α) (policy : ExpirationPolicy) (period : Duration)
    (clock : Clock) (consumer : String) (ops : List (FeedOp α)) :
    let s := start profile policy period clock
    (s.events (ops.filter fun op => !op.pollsForOthers consumer)).filter
        (fun e => e.op.answersTo consumer) =
      (s.events ops).filter fun e => e.op.answersTo consumer := by
  intro s
  have hshared : Shared consumer s s := ⟨alikeOn_start profile policy period clock, rfl⟩
  apply filter_events_eq (fun _ => Shared consumer) ?_ ?_ hshared
  · intro op rest s t h hpolls
    exact ⟨not_answersTo_of_pollsForOthers hpolls, h.next_left hpolls⟩
  · intro op rest s t h hkept
    exact ⟨fun hanswers => h.alike.event_eq (seen_of_answersTo hanswers), h.next hkept⟩

end Pollers

end TimedFeed

end TransitHub
