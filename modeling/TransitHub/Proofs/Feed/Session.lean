/-
# What a feed owes a consumer

A session of a consumer begins with the poll that makes it known and goes on for as long as it stays
known; what it polls for may be restricted. A key is owed to the consumer while it is pending, or
while it waits in the buffer with a stamp after the consumer's baseline. What is owed stays owed
until a poll of the consumer takes it, whatever else happens and whatever the polls ask for.

The baseline never exceeds the last sequence number, so what a batch stamps is after every baseline.
This is what makes a reported key owed to everybody.
-/

import TransitHub.Entity.InfoMessage
import TransitHub.Proofs.Feed.Step

namespace TransitHub

open TimedFeed

variable {α : Type}

/-- The events since a consumer became known, and the feed that they have led to. All polls of the
consumer are allowed ones, and it is known after every event. -/
inductive Session (origin : TimedFeed α) (consumer : String) (allowed : ReadRequest → Prop) :
    TimedFeed α → List (FeedEvent α) → Prop
  | registered (ops : List (FeedOp α)) (request : ReadRequest)
      (hunknown : (origin.run ops).changeSet? consumer = none) (hallowed : allowed request)
      (hknown : ((origin.run ops).next (.poll consumer request)).changeSet? consumer ≠ none) :
      Session origin consumer allowed ((origin.run ops).next (.poll consumer request))
        [(origin.run ops).event (.poll consumer request)]
  | continued {s : TimedFeed α} {events : List (FeedEvent α)}
      (hsession : Session origin consumer allowed s events) (op : FeedOp α)
      (hallowed : ∀ request, op = .poll consumer request → allowed request)
      (hknown : (s.next op).changeSet? consumer ≠ none) :
      Session origin consumer allowed (s.next op) (events ++ [s.event op])

/-- A consumer is still to be served a key. -/
def TimedFeed.Owes (s : TimedFeed α) (consumer : String) (k : RecordKey) : Prop :=
  ∃ c, s.changeSet? consumer = some c ∧ (k ∈ c.pending ∨ s.buffer.HoldsAfter c.baseline k)

/-! ## Steps -/

namespace TimedFeed

variable {s : TimedFeed α} {consumer : String} {op : FeedOp α} {c c' : ChangeSet}

theorem Moves.baseline_eq (h : Moves s consumer op c c') : c'.baseline = c.baseline := by
  cases h with
  | kept hset => rw [hset]
  | recorded ks hset => rw [hset]
  | merged hbaseline => exact hbaseline
  | polled hbaseline => exact hbaseline

theorem Moves.sequence_le (h : Moves s consumer op c c') :
    s.buffer.sequence ≤ (s.next op).buffer.sequence := by
  cases h with
  | kept _ hbuffer => exact Nat.le_of_eq (congrArg ChangeBuffer.sequence hbuffer).symm
  | recorded ks _ hbuffer =>
    rw [hbuffer]
    exact Nat.le_succ s.buffer.sequence
  | merged _ _ hbuffer => exact Nat.le_of_eq (congrArg ChangeBuffer.sequence hbuffer).symm
  | polled _ _ hbuffer => exact Nat.le_of_eq (congrArg ChangeBuffer.sequence hbuffer).symm

/-- What is owed is consumed or stays owed. -/
theorem Moves.consumes_or_owes (h : Moves s consumer op c c')
    (hbefore : s.changeSet? consumer = some c)
    (hafter : (s.next op).changeSet? consumer = some c')
    (hle : c.baseline ≤ s.buffer.sequence) {k : RecordKey} (howes : s.Owes consumer k) :
    (s.event op).Consumes consumer k ∨ (s.next op).Owes consumer k := by
  have howes : k ∈ c.pending ∨ s.buffer.HoldsAfter c.baseline k := by
    obtain ⟨c₀, hc₀, howes⟩ := howes
    obtain rfl : c = c₀ := Option.some.inj (hbefore.symm.trans hc₀)
    exact howes
  have hstays (h : k ∈ c'.pending ∨ (s.next op).buffer.HoldsAfter c'.baseline k) :
      (s.next op).Owes consumer k := ⟨c', hafter, h⟩
  have hbaseline := h.baseline_eq
  cases h with
  | kept hset hbuffer =>
    right
    apply hstays
    rw [hset, hbuffer]
    exact howes
  | recorded ks hset hbuffer =>
    right
    apply hstays
    rw [hset, hbuffer]
    exact howes.imp_right fun hheld => hheld.record hle ks
  | merged _ hpending =>
    right
    apply hstays
    left
    exact (hpending k).2 howes
  | polled _ hpending hbuffer =>
    by_cases hconsumes : (s.event op).Consumes consumer k
    · exact Or.inl hconsumes
    · right
      apply hstays
      rw [hbaseline, hbuffer]
      exact howes.imp_left fun hmem => (hpending k).2 ⟨hmem, hconsumes⟩

/-- A key that is reported is owed to everyone who is known. -/
theorem Moves.owes_of_reports (h : Moves s consumer op c c')
    (hafter : (s.next op).changeSet? consumer = some c')
    (hle : c.baseline ≤ s.buffer.sequence) {k : RecordKey} (hreports : (s.event op).Reports k) :
    (s.next op).Owes consumer k := by
  cases h with
  | kept _ _ hquiet => exact absurd hreports (hquiet k)
  | recorded ks hset hbuffer hks =>
    refine ⟨c', hafter, Or.inr ?_⟩
    rw [hset, hbuffer]
    exact ChangeBuffer.holdsAfter_record_of_mem ((hks k).1 hreports) hle
  | merged _ _ _ hquiet => exact absurd hreports (hquiet k)
  | polled _ _ _ hquiet => exact absurd hreports (hquiet k)

end TimedFeed

/-! ## Sessions -/

namespace Session

variable {origin s : TimedFeed α} {consumer : String} {allowed : ReadRequest → Prop}
  {events : List (FeedEvent α)}

theorem known (h : Session origin consumer allowed s events) :
    ∃ c, s.changeSet? consumer = some c := by
  cases h with
  | registered _ _ _ _ hknown => exact Option.ne_none_iff_exists'.1 hknown
  | continued _ _ _ hknown => exact Option.ne_none_iff_exists'.1 hknown

/-- No baseline is ahead of the sequence. -/
theorem baseline_le (h : Session origin consumer allowed s events) {c : ChangeSet}
    (hc : s.changeSet? consumer = some c) : c.baseline ≤ s.buffer.sequence := by
  induction h generalizing c with
  | registered ops request hunknown _ _ =>
    obtain ⟨-, hbaseline, -⟩ := (origin.run ops).changeSet?_register request hunknown hc
    rw [buffer_poll]
    exact Nat.le_of_eq hbaseline
  | continued hsession op _ _ ih =>
    obtain ⟨c₀, hc₀⟩ := hsession.known
    have hmoves := next_moves op hc₀ hc
    calc c.baseline = c₀.baseline := hmoves.baseline_eq
      _ ≤ _ := ih hc₀
      _ ≤ _ := hmoves.sequence_le

theorem period_ne_zero (h : Session origin consumer allowed s events) :
    s.feed.tracker.period ≠ 0 := by
  induction h with
  | registered ops request hunknown _ hknown =>
    rw [period_next]
    obtain ⟨c, hc⟩ := Option.ne_none_iff_exists'.1 hknown
    exact ((origin.run ops).changeSet?_register request hunknown hc).1
  | continued _ op _ _ ih =>
    rw [period_next]
    exact ih

/-- What is owed in a session is consumed by its next event or stays owed. -/
theorem consumes_or_owes (h : Session origin consumer allowed s events) (op : FeedOp α)
    (hknown : (s.next op).changeSet? consumer ≠ none) {k : RecordKey}
    (howes : s.Owes consumer k) :
    (s.event op).Consumes consumer k ∨ (s.next op).Owes consumer k := by
  obtain ⟨c, hc⟩ := h.known
  obtain ⟨c', hc'⟩ := Option.ne_none_iff_exists'.1 hknown
  exact (next_moves op hc hc').consumes_or_owes hc hc' (h.baseline_le hc) howes

theorem owes_of_reports (h : Session origin consumer allowed s events) (op : FeedOp α)
    (hknown : (s.next op).changeSet? consumer ≠ none) {k : RecordKey}
    (hreports : (s.event op).Reports k) : (s.next op).Owes consumer k := by
  obtain ⟨c, hc⟩ := h.known
  obtain ⟨c', hc'⟩ := Option.ne_none_iff_exists'.1 hknown
  exact (next_moves op hc hc').owes_of_reports hc' (h.baseline_le hc) hreports

/-- A key that was reported during the session has been consumed since, or is owed. -/
theorem consumed_or_owes_of_reported (h : Session origin consumer allowed s events)
    {earlier later : List (FeedEvent α)} {e : FeedEvent α} {k : RecordKey}
    (hevents : events = earlier ++ e :: later) (hreports : e.Reports k) :
    (∃ e' ∈ later, e'.Consumes consumer k) ∨ s.Owes consumer k := by
  induction h generalizing later with
  | registered ops request _ _ _ =>
    -- The session begins with a poll, and a poll reports nothing.
    have hmem : e ∈ [(origin.run ops).event (.poll consumer request)] := by
      rw [hevents]
      exact List.mem_append_right earlier List.mem_cons_self
    rw [List.mem_singleton.1 hmem] at hreports
    exact hreports.elim
  | @continued s events hsession op _ hknown ih =>
    rcases List.eq_nil_or_concat later with hlater | ⟨later', last, hlater⟩
    · subst hlater
      have hlast := (List.append_inj' hevents rfl).2
      obtain rfl : s.event op = e := List.head_eq_of_cons_eq hlast
      exact Or.inr (hsession.owes_of_reports op hknown hreports)
    · subst hlater
      have hsplit : events ++ [s.event op] = (earlier ++ e :: later') ++ [last] := by
        rw [hevents, List.concat_eq_append, List.append_assoc, List.cons_append]
      obtain ⟨hevents', hlast⟩ := List.append_inj' hsplit rfl
      obtain rfl : s.event op = last := List.head_eq_of_cons_eq hlast
      rw [List.concat_eq_append]
      rcases ih hevents' with ⟨e', he', hconsumes⟩ | howes
      · exact Or.inl ⟨e', List.mem_append_left _ he', hconsumes⟩
      · rcases hsession.consumes_or_owes op hknown howes with hconsumes | howes
        · exact Or.inl ⟨s.event op, List.mem_append_right _ List.mem_cons_self, hconsumes⟩
        · exact Or.inr howes

/-- A poll leaves pending whatever its filter does not accept, for every consumer. -/
theorem pending_of_rejected (h : Session origin consumer allowed s events) {poller : String}
    {request : ReadRequest} {c : ChangeSet} {k : RecordKey}
    (hc : s.changeSet? consumer = some c) (hk : k ∈ c.pending)
    (hrejected : request.filter.acceptsKey k = false) :
    ∃ c', (s.next (.poll poller request)).changeSet? consumer = some c' ∧ k ∈ c'.pending := by
  obtain ⟨pending, hpending, hset⟩ := s.changeSet?_poll poller request
  rw [hset]
  by_cases hself : poller = consumer
  · subst hself
    rw [if_pos rfl, if_neg h.period_ne_zero]
    refine ⟨_, rfl, (hpending k).2 ⟨?_, fun hconsumes => ?_⟩⟩
    · have hlookup : s.feed.tracker.consumers.lookup s.clock.now poller = some c := hc
      rw [ChangeTracker.candidates, hlookup]
      exact hk
    · rw [accepts_of_consumes hconsumes] at hrejected
      exact Bool.false_ne_true hrejected.symm
  · rw [if_neg hself]
    exact ⟨c, hc, hk⟩

/-- No change is lost, whatever is polled for. What a batch reports while a consumer is known has
been consumed by a later poll of the consumer, or is pending for it, or waits for a commit that will
merge it; and no poll removes a pending key whose dataset its filter does not accept. -/
theorem changes_kept_until_consumed {profile : Profile α} {policy : ExpirationPolicy}
    {period : Duration} {clock : Clock}
    (h : Session (start profile policy period clock) consumer allowed s events) :
    (∀ earlier e later k, events = earlier ++ e :: later → e.Reports k →
      (∃ e' ∈ later, e'.Consumes consumer k) ∨
        ∃ c, s.changeSet? consumer = some c ∧
          (k ∈ c.pending ∨ ∃ stamp, s.buffer.stamps[k]? = some stamp ∧ c.baseline < stamp)) ∧
    (∀ poller request c k, s.changeSet? consumer = some c → k ∈ c.pending →
      request.filter.acceptsDataset k.dataset = false →
      ∃ c', (s.next (.poll poller request)).changeSet? consumer = some c' ∧ k ∈ c'.pending) := by
  constructor
  · intro earlier e later k hevents hreports
    exact h.consumed_or_owes_of_reported hevents hreports
  · intro poller request c k hc hk hrejected
    exact h.pending_of_rejected hc hk hrejected

/-- A message that was committed for a reader, who then asks for another dataset only. -/
theorem changes_kept_for_reader_of_other_dataset :
    let k : RecordKey := { dataset := "A", primary := "m" }
    let s₁ := (start InfoMessage.profile ⟨0, Duration.hour⟩ Duration.minute ⟨.epoch, 0⟩).next
      (.poll "reader" {})
    let s₂ := s₁.next (.ingest "A" [{ identifier := some "m" }])
    let s₃ := s₂.next .commit
    ((∃ e ∈ [s₂.event .commit], e.Consumes "reader" k) ∨ s₃.Owes "reader" k) ∧
      ∃ c, (s₃.next (.poll "reader" { filter := .forDataset "B" })).changeSet? "reader" = some c ∧
        k ∈ c.pending := by
  intro k s₁ s₂ s₃
  have h₁ : Session (start InfoMessage.profile ⟨0, Duration.hour⟩ Duration.minute ⟨.epoch, 0⟩)
      "reader" (fun _ => True) s₁ _ :=
    .registered [] {} (by decide +kernel) trivial (by decide +kernel)
  have h₂ : Session _ "reader" (fun _ => True) s₂ _ :=
    h₁.continued (.ingest "A" [{ identifier := some "m" }]) (fun _ _ => trivial)
      (by decide +kernel)
  have h₃ : Session _ "reader" (fun _ => True) s₃ _ :=
    h₂.continued .commit (fun _ _ => trivial) (by decide +kernel)
  have hreports : (s₁.event (.ingest "A" [{ identifier := some "m" }])).Reports k :=
    show k ∈ UpsertResult.changedKeys _ by decide +kernel
  obtain ⟨c, hc⟩ := h₃.known
  have hpending : k ∈ c.pending := by
    have hkept : (s₃.changeSet? "reader").any (fun c => c.pending.contains k) = true := by
      decide +kernel
    rw [hc] at hkept
    exact hkept
  have hkept := changes_kept_until_consumed h₃
  exact ⟨hkept.1 [_] _ [_] k rfl hreports,
    hkept.2 "reader" { filter := .forDataset "B" } c k hc hpending (by decide +kernel)⟩

end Session

end TransitHub
