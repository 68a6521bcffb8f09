/-
# What is served again

Nothing new has come in between two polls of a consumer, yet the second one may serve a key that the
first one served. A key that changes again while it is pending is pending and buffered at once. A
poll takes it out of the change set but not out of the buffer, so the next commit makes it pending
once more.

This is the only way, and it needs all three: a key that waited in the buffer at the first poll with
a stamp after the consumer's baseline, a commit in between, and a record that is still live. The
poll that makes a consumer known puts its baseline after everything in the buffer, so nothing that
it serves is served again.
-/

import TransitHub.Entity.InfoMessage
import TransitHub.Proofs.EntityFilter
import TransitHub.Proofs.Feed.Paging

namespace TransitHub

/-- Neither a batch nor a poll by a consumer. -/
def FeedOp.Quiet {α : Type} (consumer : String) : FeedOp α → Prop
  | .ingest .. | .ingestJson .. => False
  | .poll poller _ => poller ≠ consumer
  | _ => True

/-- A poll by a consumer that serves it an entity of a key. -/
def FeedEvent.Serves {α : Type} (e : FeedEvent α) (consumer : String) (k : RecordKey) : Prop :=
  ∃ v, v ∈ e.served consumer k

namespace TimedFeed

variable {α : Type} {s : TimedFeed α} {consumer : String} {op : FeedOp α} {c' : ChangeSet}

/-! ## Stamps -/

theorem stamped_next (h : s.buffer.Stamped) (op : FeedOp α) : (s.next op).buffer.Stamped :=
  (s.tracker_next op).stamped h

theorem stamped_run (profile : Profile α) (policy : ExpirationPolicy) (period : Duration)
    (clock : Clock) (ops : List (FeedOp α)) :
    ((start profile policy period clock).run ops).buffer.Stamped :=
  List.foldlRecOn (motive := fun s : TimedFeed α => s.buffer.Stamped) ops next
    (ChangeBuffer.stamped_of_empty 0) fun _ h op _ => stamped_next h op

/-! ## Without a batch -/

/-- Without a batch and a commit, what a consumer waits for stays as it is. -/
theorem next_of_uncommitted (hquiet : op.Quiet consumer) (huncommitted : ¬ op.Commits)
    (hafter : (s.next op).changeSet? consumer = some c') :
    s.changeSet? consumer = some c' ∧ (s.next op).buffer = s.buffer := by
  cases op with
  | ingest dataset items => exact hquiet.elim
  | ingestJson dataset items => exact hquiet.elim
  | commit => exact absurd trivial huncommitted
  | flush => exact absurd trivial huncommitted
  | poll poller request =>
    obtain ⟨_, -, hset⟩ := s.changeSet?_poll poller request
    rw [hset, if_neg hquiet] at hafter
    exact ⟨hafter, s.buffer_poll poller request⟩
  | _ => exact ⟨changeSet?_of_idle (by trivial) hafter, buffer_of_idle (by trivial)⟩

/-- A commit moves what waits in the buffer into the change set. -/
theorem next_of_commits (hcommits : op.Commits)
    (hafter : (s.next op).changeSet? consumer = some c') :
    ∃ c, s.changeSet? consumer = some c ∧
      (∀ k, k ∈ c'.pending ↔ k ∈ c.pending ∨ s.buffer.HoldsAfter c.baseline k) ∧
      (s.next op).buffer = { sequence := s.buffer.sequence } := by
  have hcommit (h : (s.feed.tracker.commit s.clock.now).2.consumers.lookup s.clock.now consumer =
      some c') := ChangeTracker.lookup_commit h
  have hbuffer := s.feed.tracker.buffer_commit s.clock.now
  cases op with
  | commit =>
    obtain ⟨c, hc, -, hpending⟩ := hcommit hafter
    exact ⟨c, hc, hpending, hbuffer⟩
  | flush =>
    obtain ⟨c, hc, -, hpending⟩ := hcommit hafter
    exact ⟨c, hc, hpending, hbuffer⟩
  | _ => exact hcommits.elim

/-- Without a batch nothing becomes pending but what a commit finds in the buffer. -/
theorem pending_of_quiet_run {ops : List (FeedOp α)} (hquiet : ∀ op ∈ ops, op.Quiet consumer)
    (hafter : (s.run ops).changeSet? consumer = some c') :
    ∃ c, s.changeSet? consumer = some c ∧ ∀ k, k ∈ c'.pending ↔
      k ∈ c.pending ∨ s.buffer.HoldsAfter c.baseline k ∧ ∃ op ∈ ops, op.Commits := by
  induction ops generalizing s with
  | nil => exact ⟨c', hafter, fun k => by simp⟩
  | cons op rest ih =>
    obtain ⟨c₁, hc₁, hrest⟩ := ih (fun op hop => hquiet op (List.mem_cons_of_mem _ hop)) hafter
    by_cases hcommits : op.Commits
    · obtain ⟨c, hc, hpending, hbuffer⟩ := next_of_commits hcommits hc₁
      refine ⟨c, hc, fun k => ?_⟩
      have hempty : ¬ (s.next op).buffer.HoldsAfter c₁.baseline k := by
        rw [hbuffer]
        exact ChangeBuffer.not_holdsAfter_of_isEmpty rfl _ k
      rw [hrest, hpending]
      simp [hempty, hcommits]
    · obtain ⟨hc, hbuffer⟩ := next_of_uncommitted (hquiet op List.mem_cons_self) hcommits hc₁
      refine ⟨c₁, hc, fun k => ?_⟩
      rw [hrest, hbuffer]
      simp [hcommits]

/-! ## Two polls -/

/-- A poll without filter and page size serves every pending key whose record is live. -/
theorem serves_of_pending {c : ChangeSet} {k : RecordKey} {e : α}
    (hc : s.changeSet? consumer = some c) (hk : k ∈ c.pending) (he : s.get? k = some e) :
    (s.event (.poll consumer {})).Serves consumer k := by
  have hempty : EntityFilter.isEmpty {} = true := by decide
  have hscope : k ∈ s.inScope consumer {} := by
    rw [inScope, hc]
    exact List.mem_filter.2 ⟨Std.ExtTreeSet.mem_toList.2 hk,
      EntityFilter.acceptsDataset_of_isEmpty hempty k.dataset⟩
  have hconsumed : k ∈ (s.pollResult consumer {}).consumed := by
    rw [pollResult, Feed.poll, ChangeTracker.consumed_read, Std.ExtTreeSet.mem_ofList,
      List.contains_iff_mem, ← inScope_eq_scope]
    exact hscope
  exact ⟨e, mem_served_of_consumes (consumes_poll.2 ⟨rfl, hconsumed⟩) he
    (EntityFilter.acceptsValues_of_isEmpty hempty _)⟩

/-- What a consumer that is known can be served are the pending keys whose records are live. -/
theorem exists_serves_iff {c : ChangeSet} {k : RecordKey} (hc : s.changeSet? consumer = some c) :
    (∃ request, (s.event (.poll consumer request)).Serves consumer k) ↔
      k ∈ c.pending ∧ ∃ e, s.get? k = some e := by
  constructor
  · intro h
    obtain ⟨request, v, hv⟩ := h
    obtain ⟨hconsumes, hlive⟩ := get?_of_served hv
    have hcandidate := ((s.answered_poll consumer request).consumed k
      (consumes_poll.1 hconsumes).2).1
    have hlookup : s.feed.tracker.consumers.lookup s.clock.now consumer = some c := hc
    rw [ChangeTracker.candidates, hlookup] at hcandidate
    exact ⟨hcandidate, v, hlive⟩
  · intro h
    obtain ⟨hk, e, he⟩ := h
    exact ⟨{}, serves_of_pending hc hk he⟩

/-- A poll takes a key that it serves out of the change set, but it does not move the baseline. -/
theorem takes_of_served {request : ReadRequest} {c : ChangeSet} {k : RecordKey}
    (hserved : (s.event (.poll consumer request)).Serves consumer k)
    (hc : (s.next (.poll consumer request)).changeSet? consumer = some c) :
    k ∉ c.pending ∧ c.baseline = s.feed.tracker.baselineFor s.clock.now consumer := by
  obtain ⟨v, hv⟩ := hserved
  obtain ⟨pending, hmem, hset⟩ := s.changeSet?_poll consumer request
  rw [hset, if_pos rfl] at hc
  split at hc
  · exact absurd hc.symm (Option.some_ne_none c)
  · obtain rfl := Option.some.inj hc
    exact ⟨fun hk => ((hmem k).1 hk).2 (get?_of_served hv).1, rfl⟩

/-- Where no batch comes in between, a key that one poll of a consumer serves is served by the next
one, for some filter and page size, exactly if it waited in the buffer at the first poll with a
stamp after the consumer's baseline, a commit took place in between, and its record is live. What
the poll that makes a consumer known serves is never served again. -/
theorem served_again_iff {profile : Profile α} {policy : ExpirationPolicy} {period : Duration}
    {clock : Clock} {before between : List (FeedOp α)} {s t : TimedFeed α} {first : ReadRequest}
    {k : RecordKey} (hs : (start profile policy period clock).run before = s)
    (ht : (s.next (.poll consumer first)).run between = t)
    (hquiet : ∀ op ∈ between, op.Quiet consumer) (hknown : t.changeSet? consumer ≠ none)
    (hserved : (s.event (.poll consumer first)).Serves consumer k) :
    ((∃ second, (t.event (.poll consumer second)).Serves consumer k) ↔
      s.buffer.HoldsAfter (s.feed.tracker.baselineFor s.clock.now consumer) k ∧
        (∃ op ∈ between, op.Commits) ∧ ∃ e, t.get? k = some e) ∧
    (s.changeSet? consumer = none →
      ∀ second, ¬ (t.event (.poll consumer second)).Serves consumer k) := by
  obtain ⟨c', hc'⟩ := Option.ne_none_iff_exists'.1 hknown
  -- What the first poll serves is not pending after it, so it can only come from the buffer.
  have hpending : k ∈ c'.pending ↔
      s.buffer.HoldsAfter (s.feed.tracker.baselineFor s.clock.now consumer) k ∧
        ∃ op ∈ between, op.Commits := by
    rw [← ht] at hc'
    obtain ⟨c, hc, hrun⟩ := pending_of_quiet_run hquiet hc'
    obtain ⟨htaken, hbaseline⟩ := takes_of_served hserved hc
    rw [hrun, buffer_poll, hbaseline]
    exact or_iff_right htaken
  rw [exists_serves_iff hc', hpending, and_assoc]
  refine ⟨Iff.rfl, fun hunknown second hserves => ?_⟩
  obtain ⟨hk, -⟩ := (exists_serves_iff hc').1 ⟨second, hserves⟩
  have hlookup : s.feed.tracker.consumers.lookup s.clock.now consumer = none := hunknown
  have hheld := (hpending.1 hk).1
  rw [ChangeTracker.baselineFor, hlookup, ← hs] at hheld
  exact (stamped_run profile policy period clock before).not_holdsAfter k hheld

/-- A message that changes again while a reader still has it pending is served, committed and served
once more, with nothing new in between. -/
theorem message_served_twice :
    let s := (start InfoMessage.profile ⟨0, Duration.hour⟩ Duration.minute ⟨.epoch, 0⟩).run
      [.poll "reader" {}, .ingest "A" [{ identifier := some "m", content := some "first" }], .commit,
        .ingest "A" [{ identifier := some "m", content := some "second" }]]
    let t := (s.next (.poll "reader" {})).run [.commit]
    (s.pollResult "reader" {}).items = [{ identifier := some "m", content := some "second" }] ∧
      (t.pollResult "reader" {}).items = [{ identifier := some "m", content := some "second" }] := by
  decide +kernel

/-- A reader whose first poll finds a message that is buffered and not yet committed is not served
it again after the commit. -/
theorem message_served_once :
    let s := (start InfoMessage.profile ⟨0, Duration.hour⟩ Duration.minute ⟨.epoch, 0⟩).run
      [.ingest "A" [{ identifier := some "m" }]]
    let t := (s.next (.poll "reader" {})).run [.commit, .poll "other" {}, .sweep]
    ∀ second, ¬ (t.event (.poll "reader" second)).Serves "reader"
      { dataset := "A", primary := "m" } := by
  intro s t
  have hunknown : s.changeSet? "reader" = none := by decide +kernel
  have hquiet : ∀ op ∈ ([.commit, .poll "other" {}, .sweep] : List (FeedOp InfoMessage)),
      op.Quiet "reader" := by
    simp [FeedOp.Quiet]
  have hknown : (t.changeSet? "reader").isSome := by decide +kernel
  have hserved : { identifier := some "m" } ∈ (s.event (.poll "reader" {})).served "reader"
      { dataset := "A", primary := "m" } := by
    decide +kernel
  exact (served_again_iff rfl rfl hquiet (Option.isSome_iff_ne_none.1 hknown) ⟨_, hserved⟩).2
    hunknown

end TimedFeed

end TransitHub
