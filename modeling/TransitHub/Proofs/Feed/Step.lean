/-
# One step of a feed

What one operation can do to a consumer that is known before and after it: `Moves` lists the four
ways in which keys travel between the buffer, its change set and the answers to its polls, and
`next_moves` says that there is no other. Arguments about runs use this list and do not look at the
operations again.

The second half is about the records. An operation that reports nothing about a key leaves under the
key, if anything, what says the same as before. Here the exactness of the kept fingerprints enters:
it is by them that a store decides whether it has to report an item.
-/

import TransitHub.Proofs.Feed.Run

namespace TransitHub

/-- An operation that is no batch, no commit and no poll. -/
def FeedOp.Idle {α : Type} : FeedOp α → Prop
  | .ingest .. | .ingestJson .. | .commit | .flush | .poll .. => False
  | _ => True

/-- An operation that merges what is buffered. -/
def FeedOp.Commits {α : Type} : FeedOp α → Prop
  | .commit | .flush => True
  | _ => False

theorem Feed.tracker_ingest {α : Type} (f : Feed α) (c : Clock) (dataset : String) (items : List α)
    (undecodable : Nat) :
    (f.ingest c dataset items undecodable).2.tracker =
      if (f.store.upsertAll c dataset items).1.changed.isEmpty then f.tracker
      else f.tracker.recordChange (f.store.upsertAll c dataset items).1.changedKeys :=
  rfl

namespace TimedFeed

variable {α : Type}

/-! ## Change sets and the buffer -/

/-- The ways in which an operation can move keys, seen by one consumer. -/
inductive Moves (s : TimedFeed α) (consumer : String) (op : FeedOp α) (c c' : ChangeSet) : Prop
  /-- Nothing moves. -/
  | kept (hset : c' = c) (hbuffer : (s.next op).buffer = s.buffer)
      (hquiet : ∀ k, ¬ (s.event op).Reports k)
      (hother : ∀ k, ¬ (s.event op).Consumes consumer k)
  /-- A batch stamps what it changed. -/
  | recorded (ks : KeySet) (hset : c' = c) (hbuffer : (s.next op).buffer = s.buffer.record ks)
      (hreports : ∀ k, (s.event op).Reports k ↔ k ∈ ks)
      (hother : ∀ k, ¬ (s.event op).Consumes consumer k)
  /-- A commit moves what is buffered into the change set. -/
  | merged (hbaseline : c'.baseline = c.baseline)
      (hpending : ∀ k, k ∈ c'.pending ↔ k ∈ c.pending ∨ s.buffer.HoldsAfter c.baseline k)
      (hbuffer : (s.next op).buffer = { sequence := s.buffer.sequence })
      (hquiet : ∀ k, ¬ (s.event op).Reports k)
      (hother : ∀ k, ¬ (s.event op).Consumes consumer k)
  /-- A poll by the consumer takes out what it reports as consumed. -/
  | polled (hbaseline : c'.baseline = c.baseline)
      (hpending : ∀ k, k ∈ c'.pending ↔ k ∈ c.pending ∧ ¬ (s.event op).Consumes consumer k)
      (hbuffer : (s.next op).buffer = s.buffer)
      (hquiet : ∀ k, ¬ (s.event op).Reports k)

/-- A batch changes nothing in the tracker but the buffer: it notes what it reports there, and leaves
it alone if it reports nothing. -/
theorem tracker_ingest (f : Feed α) (c : Clock) (dataset : String) (items : List α)
    (undecodable : Nat) :
    ∃ b, (f.ingest c dataset items undecodable).2.tracker = { f.tracker with buffer := b } ∧
      ((b = f.tracker.buffer ∧ ∀ k, k ∉ (f.store.upsertAll c dataset items).1.changedKeys) ∨
        b = f.tracker.buffer.record (f.store.upsertAll c dataset items).1.changedKeys) := by
  have htracker := f.tracker_ingest c dataset items undecodable
  by_cases hempty : (f.store.upsertAll c dataset items).1.changed.isEmpty = true
  · refine ⟨f.tracker.buffer, htracker.trans (if_pos hempty), Or.inl ⟨rfl, fun k => ?_⟩⟩
    rw [EntityStore.mem_changedKeys, List.isEmpty_iff.1 hempty]
    exact List.not_mem_nil
  · exact ⟨_, htracker.trans (if_neg hempty), Or.inr rfl⟩

variable {s : TimedFeed α} {consumer : String} {c c' : ChangeSet}

theorem moves_of_ingest {op : FeedOp α} {dataset : String} {items : List α} {undecodable : Nat}
    (hperform : s.feed.perform s.clock op =
      (.ingested (s.feed.ingest s.clock dataset items undecodable).1,
        (s.feed.ingest s.clock dataset items undecodable).2))
    (hclock : op.clock s.clock = s.clock)
    (hother : ∀ k, ¬ (s.event op).Consumes consumer k)
    (hbefore : s.changeSet? consumer = some c)
    (hafter : (s.next op).changeSet? consumer = some c') : Moves s consumer op c c' := by
  obtain ⟨b, htracker, hb⟩ := tracker_ingest s.feed s.clock dataset items undecodable
  have hreports (k : RecordKey) : (s.event op).Reports k ↔
      k ∈ (s.feed.store.upsertAll s.clock dataset items).1.changedKeys := by
    simp only [event, FeedEvent.Reports, hperform]
    rfl
  have hbuffer : (s.next op).buffer = b := by
    simp only [buffer, next, hperform, htracker]
  have hset : c' = c := by
    have hlookup : (s.next op).changeSet? consumer = s.changeSet? consumer := by
      simp only [changeSet?, next, hperform, hclock, htracker]
    rw [hlookup, hbefore] at hafter
    exact (Option.some.inj hafter).symm
  rcases hb with ⟨hsame, hnone⟩ | hrecorded
  · exact .kept hset (hbuffer.trans hsame) (fun k hk => hnone k ((hreports k).1 hk)) hother
  · exact .recorded _ hset (hbuffer.trans hrecorded) hreports hother

/-- The result of a poll. -/
def pollResult (s : TimedFeed α) (poller : String) (request : ReadRequest) : ReadResult α :=
  (s.feed.poll s.clock.now poller request).1

theorem answered_poll (s : TimedFeed α) (poller : String) (request : ReadRequest) :
    s.feed.tracker.Answered s.feed.store s.clock.now poller request (s.pollResult poller request)
      (s.next (.poll poller request)).feed.tracker (s.next (.poll poller request)).feed.store :=
  s.feed.tracker.read_answered s.feed.store s.clock.now poller request

theorem consumes_poll {poller : String} {request : ReadRequest} {k : RecordKey} :
    (s.event (.poll poller request)).Consumes consumer k ↔
      poller = consumer ∧ k ∈ (s.pollResult poller request).consumed := Iff.rfl

/-- A poll sets the change set of the one who polls to the candidates that it leaves. -/
theorem changeSet?_poll (s : TimedFeed α) (poller : String) (request : ReadRequest) :
    ∃ pending : KeySet,
      (∀ k, k ∈ pending ↔
        k ∈ s.feed.tracker.candidates s.feed.store s.clock.now poller request ∧
          ¬ (s.event (.poll poller request)).Consumes poller k) ∧
      ∀ consumer, (s.next (.poll poller request)).changeSet? consumer =
        if poller = consumer then
          (if s.feed.tracker.period = 0 then none
            else some ⟨pending, s.clock.now, s.feed.tracker.baselineFor s.clock.now poller⟩)
        else s.changeSet? consumer := by
  obtain ⟨pending, htracker, hpending⟩ := (s.answered_poll poller request).remembered
  refine ⟨pending, fun k => ?_, fun consumer => ?_⟩
  · rw [hpending, consumes_poll, and_iff_right rfl]
  · rw [changeSet?, htracker]
    exact ChangeTracker.lookup_remember ..

/-- The poll that makes a consumer known starts from the state that its filter accepts. -/
theorem changeSet?_register (s : TimedFeed α) {consumer : String} (request : ReadRequest)
    (hunknown : s.changeSet? consumer = none) {c : ChangeSet}
    (hknown : (s.next (.poll consumer request)).changeSet? consumer = some c) :
    s.feed.tracker.period ≠ 0 ∧ c.baseline = s.buffer.sequence ∧
      ∀ k, k ∈ c.pending ↔ ((∃ e, s.get? k = some e) ∧ request.filter.acceptsKey k = true) ∧
        ¬ (s.event (.poll consumer request)).Consumes consumer k := by
  have hlookup : s.feed.tracker.consumers.lookup s.clock.now consumer = none := hunknown
  obtain ⟨pending, hpending, hset⟩ := s.changeSet?_poll consumer request
  rw [hset, if_pos rfl] at hknown
  split at hknown
  · exact absurd hknown (Option.some_ne_none c).symm
  · next hperiod =>
    obtain rfl := Option.some.inj hknown
    refine ⟨hperiod, ?_, fun k => ?_⟩
    · simp only [ChangeTracker.baselineFor, hlookup]
      rfl
    · rw [hpending]
      simp only [ChangeTracker.candidates, hlookup, EntityStore.mem_keys]
      rfl

theorem buffer_poll (s : TimedFeed α) (poller : String) (request : ReadRequest) :
    (s.next (.poll poller request)).buffer = s.buffer := by
  obtain ⟨pending, htracker, -⟩ := (s.answered_poll poller request).remembered
  rw [buffer, htracker]
  rfl

/-- A poll moves keys out of the change set of the one who polls, and of nobody else. -/
theorem moves_of_poll {poller : String} {request : ReadRequest}
    (hbefore : s.changeSet? consumer = some c)
    (hafter : (s.next (.poll poller request)).changeSet? consumer = some c') :
    Moves s consumer (.poll poller request) c c' := by
  have hbuffer := s.buffer_poll poller request
  obtain ⟨pending, hpending, hset⟩ := s.changeSet?_poll poller request
  rw [hset] at hafter
  by_cases hself : poller = consumer
  · subst hself
    have hlookup : s.feed.tracker.consumers.lookup s.clock.now poller = some c := hbefore
    simp only [ChangeTracker.candidates, hlookup] at hpending
    simp only [if_true, ChangeTracker.baselineFor, hlookup] at hafter
    split at hafter
    · exact absurd hafter (Option.some_ne_none c').symm
    · obtain rfl := Option.some.inj hafter
      exact .polled rfl hpending hbuffer fun k hk => hk
  · rw [if_neg hself] at hafter
    have hsame : c' = c := Option.some.inj (hafter.symm.trans hbefore)
    exact .kept hsame hbuffer (fun k hk => hk) fun k hk => hself hk.1

theorem moves_of_commit {op : FeedOp α}
    (hperform : s.feed.perform s.clock op =
      (.committed (s.feed.commit s.clock.now).1, (s.feed.commit s.clock.now).2))
    (hclock : op.clock s.clock = s.clock)
    (hother : ∀ k, ¬ (s.event op).Consumes consumer k)
    (hbefore : s.changeSet? consumer = some c)
    (hafter : (s.next op).changeSet? consumer = some c') : Moves s consumer op c c' := by
  have htracker : (s.next op).feed.tracker = (s.feed.tracker.commit s.clock.now).2 := by
    rw [next, hperform]
    rfl
  have hnow : (s.next op).clock.now = s.clock.now := congrArg Clock.now hclock
  rw [changeSet?, htracker, hnow] at hafter
  obtain ⟨c₀, hc₀, hbaseline, hpending⟩ := ChangeTracker.lookup_commit hafter
  obtain rfl : c = c₀ := Option.some.inj (hbefore.symm.trans hc₀)
  have hquiet (k : RecordKey) : ¬ (s.event op).Reports k := by
    simp only [event, FeedEvent.Reports, hperform]
    exact id
  refine .merged hbaseline hpending ?_ hquiet hother
  rw [buffer, htracker, ChangeTracker.buffer_commit]
  rfl

/-- An operation that is no batch, no commit and no poll leaves everyone who is still known with the
same change set. -/
theorem changeSet?_of_idle {op : FeedOp α} (hidle : op.Idle)
    (hafter : (s.next op).changeSet? consumer = some c') : s.changeSet? consumer = some c' := by
  cases op with
  | pendingCount asked =>
    have htouch := s.feed.tracker.consumers.live?_touch s.clock.now asked consumer
    exact (TtlStore.lookup_congr htouch).symm.trans hafter
  | sweep =>
    have hsweep := s.feed.tracker.consumers.live?_sweep s.clock.now consumer
    exact (TtlStore.lookup_congr hsweep).symm.trans hafter
  | pass t => exact TtlStore.lookup_of_later (t.now_le_apply s.clock) hafter
  | clearDataset | consumerCount | getAll | query => exact hafter
  | _ => exact hidle.elim

theorem buffer_of_idle {op : FeedOp α} (hidle : op.Idle) : (s.next op).buffer = s.buffer := by
  cases op with
  | ingest | ingestJson | commit | flush | poll => exact hidle.elim
  | _ => rfl

/-- Every operation moves keys in one of the four ways. -/
theorem next_moves (op : FeedOp α) (hbefore : s.changeSet? consumer = some c)
    (hafter : (s.next op).changeSet? consumer = some c') : Moves s consumer op c c' := by
  have hkept (hidle : op.Idle) : c' = c :=
    Option.some.inj ((changeSet?_of_idle hidle hafter).symm.trans hbefore)
  cases op with
  | ingest dataset items => exact moves_of_ingest rfl rfl (fun _ => id) hbefore hafter
  | ingestJson dataset items => exact moves_of_ingest rfl rfl (fun _ => id) hbefore hafter
  | commit => exact moves_of_commit rfl rfl (fun _ => id) hbefore hafter
  | flush => exact moves_of_commit rfl rfl (fun _ => id) hbefore hafter
  | poll poller request => exact moves_of_poll hbefore hafter
  | _ => exact .kept (hkept trivial) (buffer_of_idle trivial) (fun _ => id) (fun _ => id)

/-- Every operation does one of these things to the tracker. -/
theorem tracker_next (s : TimedFeed α) (op : FeedOp α) :
    s.feed.tracker.Step s.clock.now (s.next op).feed.tracker := by
  have hingest (dataset : String) (items : List α) (undecodable : Nat) :
      s.feed.tracker.Step s.clock.now
        (s.feed.ingest s.clock dataset items undecodable).2.tracker := by
    rw [Feed.tracker_ingest]
    split
    · exact .kept
    · exact .recorded _
  cases op with
  | ingest dataset items => exact hingest dataset items 0
  | ingestJson dataset items =>
    exact hingest dataset (Feed.decodable s.feed.store.profile items)
      (items.length - (Feed.decodable s.feed.store.profile items).length)
  | commit | flush => exact .committed
  | poll poller request =>
    obtain ⟨pending, htracker, -⟩ := (s.answered_poll poller request).remembered
    rw [htracker]
    exact .polled poller pending _
  | pendingCount asked => exact .looked asked
  | sweep => exact .swept
  | clearDataset | consumerCount | getAll | query | pass => exact .kept

theorem period_next (s : TimedFeed α) (op : FeedOp α) :
    (s.next op).feed.tracker.period = s.feed.tracker.period :=
  (s.tracker_next op).period_eq

/-! ## Records -/

/-- A poll disturbs no record and no fingerprint. -/
theorem store_poll (s : TimedFeed α) (poller : String) (request : ReadRequest) :
    (s.next (.poll poller request)).feed.store = s.feed.store ∨
      ∃ ks, (s.next (.poll poller request)).feed.store = s.feed.store.touchAll s.clock.now ks := by
  rcases (s.answered_poll poller request).store with hstore | hstore
  · exact Or.inl hstore
  · exact Or.inr ⟨_, hstore⟩

theorem get?_poll (s : TimedFeed α) (poller : String) (request : ReadRequest) (k : RecordKey) :
    (s.next (.poll poller request)).get? k = s.get? k := by
  have hclock : (s.next (.poll poller request)).clock.now = s.clock.now := rfl
  rw [get?, get?, hclock]
  rcases s.store_poll poller request with hstore | ⟨ks, hstore⟩
  · rw [hstore]
  · rw [hstore, EntityStore.get?_touchAll]

@[simp]
theorem profile_next (s : TimedFeed α) (op : FeedOp α) :
    (s.next op).feed.store.profile = s.feed.store.profile := by
  cases op with
  | ingest dataset items => exact s.feed.store.profile_upsertAll s.clock dataset items
  | ingestJson dataset items => exact s.feed.store.profile_upsertAll s.clock dataset _
  | clearDataset dataset => exact s.feed.store.profile_clearDataset s.clock.now dataset
  | poll poller request =>
    rcases s.store_poll poller request with hstore | ⟨ks, hstore⟩
    · rw [hstore]
    · rw [hstore]; rfl
  | _ => rfl

/-- The kept fingerprints are those of the records. -/
def ChecksumsExact (s : TimedFeed α) : Prop := s.feed.store.ChecksumsExact s.clock.now

theorem checksumsExact_start (profile : Profile α) (policy : ExpirationPolicy) (period : Duration)
    (c : Clock) : (start profile policy period c).ChecksumsExact :=
  EntityStore.checksumsExact_empty profile policy c.now

theorem ChecksumsExact.next (h : s.ChecksumsExact) (op : FeedOp α) :
    (s.next op).ChecksumsExact := by
  refine EntityStore.ChecksumsExact.later ?_ (op.now_le_clock s.clock)
  cases op with
  | ingest dataset items => exact EntityStore.ChecksumsExact.upsertAll h dataset items
  | ingestJson dataset items => exact EntityStore.ChecksumsExact.upsertAll h dataset _
  | clearDataset dataset => exact EntityStore.ChecksumsExact.clearDataset h dataset
  | poll poller request =>
    rcases s.store_poll poller request with hstore | ⟨ks, hstore⟩
    · rw [hstore]; exact h
    · rw [hstore]; exact EntityStore.ChecksumsExact.touchAll h ks
  | sweep => exact EntityStore.ChecksumsExact.sweep h
  | _ => exact h

theorem checksumsExact_run (h : s.ChecksumsExact) (ops : List (FeedOp α)) :
    (s.run ops).ChecksumsExact :=
  List.foldlRecOn (motive := ChecksumsExact) ops next h fun _ hs op _ => hs.next op

theorem profile_run (s : TimedFeed α) (ops : List (FeedOp α)) :
    (s.run ops).feed.store.profile = s.feed.store.profile :=
  List.foldlRecOn (motive := fun t : TimedFeed α => t.feed.store.profile = s.feed.store.profile)
    ops next rfl fun t ht op _ => (t.profile_next op).trans ht

/-- What an operation reports nothing about says afterwards what it said before. -/
theorem ChecksumsExact.agrees_of_quiet (h : s.ChecksumsExact) (op : FeedOp α) {k : RecordKey}
    (hquiet : ¬ (s.event op).Reports k) {e' : α} (he' : (s.next op).get? k = some e') :
    ∃ e, s.get? k = some e ∧
      s.feed.store.profile.fingerprint e = s.feed.store.profile.fingerprint e' := by
  cases op with
  | ingest dataset items =>
    exact EntityStore.ChecksumsExact.agrees_of_unreported h dataset items hquiet e' he'
  | ingestJson dataset items =>
    exact EntityStore.ChecksumsExact.agrees_of_unreported h dataset _ hquiet e' he'
  | clearDataset dataset => exact ⟨e', EntityStore.get?_of_clearDataset he', rfl⟩
  | poll poller request =>
    rw [get?_poll] at he'
    exact ⟨e', he', rfl⟩
  | sweep =>
    have hsweep := s.feed.store.get?_sweep s.clock.now k
    exact ⟨e', hsweep.symm.trans he', rfl⟩
  | pass t => exact ⟨e', EntityStore.get?_of_later (t.now_le_apply s.clock) he', rfl⟩
  | _ => exact ⟨e', he', rfl⟩

/-! ## What a poll serves -/

/-- Only keys that the filter accepts are consumed. -/
theorem accepts_of_consumes {request : ReadRequest} {k : RecordKey}
    (hconsumes : (s.event (.poll consumer request)).Consumes consumer k) :
    request.filter.acceptsKey k = true := by
  have hconsumed := (consumes_poll.1 hconsumes).2
  exact ((s.answered_poll consumer request).consumed k hconsumed).2

/-- What a poll serves to the one who polls. -/
theorem mem_served_poll {request : ReadRequest} {k : RecordKey} {v : α} :
    v ∈ (s.event (.poll consumer request)).served consumer k ↔
      (k, v) ∈ (s.pollResult consumer request).served := by
  have hserved : (s.event (.poll consumer request)).served consumer k =
      ((s.pollResult consumer request).served.filter fun entry => entry.1 = k).map (·.2) :=
    if_pos rfl
  rw [hserved, List.mem_map]
  constructor
  · intro h
    obtain ⟨⟨key, value⟩, hentry, rfl⟩ := h
    obtain ⟨hmem, hkey⟩ := List.mem_filter.1 hentry
    obtain rfl : key = k := of_decide_eq_true hkey
    exact hmem
  · intro hmem
    exact ⟨(k, v), List.mem_filter.2 ⟨hmem, decide_eq_true rfl⟩, rfl⟩

/-- Only consumed keys are served, each with the entity that is live. -/
theorem get?_of_served {op : FeedOp α} {k : RecordKey} {v : α}
    (hv : v ∈ (s.event op).served consumer k) :
    (s.event op).Consumes consumer k ∧ s.get? k = some v := by
  cases op with
  | poll poller request =>
    by_cases hself : poller = consumer
    · subst hself
      have hserved := mem_served_poll.1 hv
      obtain ⟨hconsumed, hvalue, -⟩ := ((s.answered_poll poller request).served k v).1 hserved
      exact ⟨consumes_poll.2 ⟨rfl, hconsumed⟩, hvalue⟩
    · have hnone : (s.event (.poll poller request)).served consumer k = [] := if_neg hself
      rw [hnone] at hv
      exact absurd hv List.not_mem_nil
  | _ => exact absurd hv List.not_mem_nil

/-- A consumed key with a live entity that the filter wants is served. -/
theorem mem_served_of_consumes {request : ReadRequest} {k : RecordKey} {e : α}
    (hconsumes : (s.event (.poll consumer request)).Consumes consumer k)
    (he : s.get? k = some e)
    (hselects : s.feed.store.profile.selects request.filter e = true) :
    e ∈ (s.event (.poll consumer request)).served consumer k := by
  have hconsumed := (consumes_poll.1 hconsumes).2
  exact mem_served_poll.2
    (((s.answered_poll consumer request).served k e).2 ⟨hconsumed, he, hselects⟩)

/-- Whoever consumes a key does so by a poll. -/
theorem poll_of_consumes {op : FeedOp α} {k : RecordKey}
    (hconsumes : (s.event op).Consumes consumer k) : ∃ request, op = .poll consumer request := by
  cases op with
  | poll poller request =>
    obtain ⟨rfl, -⟩ := hconsumes
    exact ⟨request, rfl⟩
  | _ => exact hconsumes.elim

theorem served_eq_nil {op : FeedOp α} {k : RecordKey}
    (hother : ¬ (s.event op).Consumes consumer k) : (s.event op).served consumer k = [] :=
  List.eq_nil_iff_forall_not_mem.2 fun _ hv => hother (get?_of_served hv).1

end TimedFeed

end TransitHub
