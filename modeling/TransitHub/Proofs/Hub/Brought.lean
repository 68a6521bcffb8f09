/-
# What a run brings to a hub

Every entity that a hub stores or posts came to it in a batch, whatever happened in between: what a
batch changed are items of it, what a snapshot holds was stored, and what is stored is an item of an
earlier batch. So nothing is stored, left to a task or posted but what the operations of the run
brought.
-/

import TransitHub.Proofs.Hub.Clearing
import TransitHub.Proofs.Push.Origins
import TransitHub.Proofs.Push.Snapshot

namespace TransitHub

/-! ## Items of batches -/

namespace EntityStore

variable {α : Type} {s : EntityStore α} {c : Clock} {dataset : String} {items : List α}
  {key : RecordKey} {e : α}

/-- The verdicts of a batch are about the keys of its items. -/
theorem key?_of_mem_verdicts {v : Verdict α} (h : v ∈ s.verdicts c dataset items) :
    s.profile.key? dataset v.item = some v.key := by
  induction items generalizing s with
  | nil => exact absurd h List.not_mem_nil
  | cons item rest ih =>
    unfold verdicts at h
    split at h
    · exact ih h
    · next key hkey =>
      rcases List.mem_cons.1 h with rfl | hrest
      · exact hkey
      · rw [← (upsertOne_upserted s c key item).profile_eq]
        exact ih hrest

theorem item_of_latest? {p : Outcome → Bool} {v : Verdict α}
    (h : Verdict.latest? p key (s.verdicts c dataset items) = some v) :
    v.item ∈ items ∧ s.profile.key? dataset v.item = some key := by
  have hmem : v ∈ s.verdicts c dataset items := List.mem_reverse.1 (List.mem_of_find?_eq_some h)
  have hkey : v.key = key := by
    have hfound := List.find?_some h
    rw [Bool.and_eq_true] at hfound
    exact of_decide_eq_true hfound.1
  exact ⟨item_of_mem_verdicts hmem, hkey ▸ key?_of_mem_verdicts hmem⟩

/-- What a batch reports is one of its items, under the key of that item. -/
theorem item_of_changed (h : (key, e) ∈ (s.upsertAll c dataset items).1.changed) :
    e ∈ items ∧ s.profile.key? dataset e = some key := by
  have hnil : (([] : List (RecordKey × α)).map (·.1)).Nodup := List.nodup_nil
  rw [changed_upsertAll, mem_foldl_noteVerdict hnil] at h
  cases hlatest : Verdict.latest? (· = .changed) key (s.verdicts c dataset items) with
  | none =>
    rw [hlatest] at h
    exact absurd h List.not_mem_nil
  | some v =>
    rw [hlatest] at h
    exact h ▸ item_of_latest? hlatest

/-- What is stored after a batch was stored before, or is one of its items, under the key of that
item. -/
theorem item_of_get? (h : (s.upsertAll c dataset items).2.get? c.now key = some e) :
    s.get? c.now key = some e ∨ e ∈ items ∧ s.profile.key? dataset e = some key := by
  rw [get?_upsertAll] at h
  cases hlatest : Verdict.latest? Outcome.settles key (s.verdicts c dataset items) with
  | none =>
    rw [hlatest] at h
    exact Or.inl h
  | some v =>
    rw [hlatest] at h
    obtain ⟨-, hv⟩ := Option.ite_none_right_eq_some.1 h
    exact Or.inr (Option.some.inj hv ▸ item_of_latest? hlatest)

end EntityStore

namespace TimedFeed

variable {α : Type} {s : TimedFeed α} {key : RecordKey} {e : α}

/-- What is stored after a quiet operation was stored before. -/
theorem get?_of_quiet {op : FeedOp α} (hquiet : op.IsQuiet) (h : (s.next op).get? key = some e) :
    s.get? key = some e := by
  cases op with
  | ingest => exact hquiet.elim
  | ingestJson => exact hquiet.elim
  | clearDataset dataset => exact EntityStore.get?_of_clearDataset h
  | poll poller request => exact (s.get?_poll poller request key).symm.trans h
  | sweep => exact (s.feed.store.get?_sweep s.clock.now key).symm.trans h
  | pass t => exact EntityStore.get?_of_later (t.now_le_apply s.clock) h
  | _ => exact h

theorem get?_of_quiet_run {ops : List (FeedOp α)} (hquiet : ∀ op ∈ ops, op.IsQuiet)
    (h : (s.run ops).get? key = some e) : s.get? key = some e :=
  List.foldlRecOn (motive := fun t : TimedFeed α => t.get? key = some e → s.get? key = some e)
    ops next id (fun _ ih op hop hnext => ih (get?_of_quiet (hquiet op hop) hnext)) h

end TimedFeed

/-! ## What is known to a hub -/

/-- Whether an operation brings an entity in a batch for a dataset. -/
def HubOp.Brings {k : DataKind} (dataset : String) (e : k.Entity) (op : HubOp) : Prop :=
  ∃ batch : Batch k, op = .ingest k dataset batch ∧ e ∈ batch.items k.profile

/-- Whether all that an operation brings is known, as far as it has a key. -/
def HubOp.IsKnown (known : Known) (op : HubOp) : Prop :=
  ∀ (k : DataKind) (dataset : String) (key : RecordKey) (e : k.Entity),
    op.Brings dataset e → k.profile.key? dataset e = some key → known k e

/-- Whether the entities of a task are known. -/
def Spawned.Conveys (known : Known) : Spawned → Prop
  | .change k _ changed => ∀ entry ∈ changed, known k entry.2
  | .snapshot _ => True

namespace Hub

variable {h h' : Hub} {known : Known} {producer : String} {hash : String → Fingerprint}

/-- Whether all that is stored, posted, and to be posted is known. -/
structure Conveys (known : Known) (producer : String) (hash : String → Fingerprint) (h : Hub) :
    Prop where
  exact : ∀ k, h.Exact hash k
  stored : ∀ (k : DataKind) (key : RecordKey) (e : k.Entity),
    (h.timedFeed k).get? key = some e → known k e
  dispatcher : h.dispatcher.Conveys known producer

theorem conveys_new (known : Known) (config : HubConfig) (producer : String) (clock : Clock)
    (hash : String → Fingerprint) :
    (Hub.new config (.json producer) clock hash).Conveys known producer hash where
  exact := exact_new config (.json producer) clock hash
  stored k key e he := by
    have hnone : ((Hub.new config (.json producer) clock hash).timedFeed k).get? key = none := by
      cases k <;>
        exact Option.map_eq_none_iff.2 (congrArg _ (TtlStore.live?_empty _ _ clock.now key))
    exact nomatch hnone.symm.trans he
  dispatcher :=
    { builder := rfl
      posts := fun post hpost => absurd hpost List.not_mem_nil
      pool :=
        { waiting := fun job hjob => absurd hjob List.not_mem_nil
          running := fun seat hseat => absurd hseat List.not_mem_nil } }

/-- Quiet changes bring no entities to the dispatcher. -/
theorem Quietly.conveys (hpath : Quietly h h') (hd : h.dispatcher.Conveys known producer) :
    h'.dispatcher.Conveys known producer := by
  induction hpath with
  | refl => exact hd
  | tail _ hchange ih =>
    cases hchange with
    | dispatch hpath => exact Dispatcher.Quietly.conveys hpath ih
    | feed _ _ _ _ _ hdispatcher => exact hdispatcher ▸ ih
    | pass _ _ _ hdispatcher => exact hdispatcher ▸ ih

theorem Submits.conveys {registry : Registry} {jobs : List PushJob}
    (hs : h.Submits registry jobs h') (hd : h.dispatcher.Conveys known producer)
    (hjobs : ∀ job ∈ jobs, job.Conveys known producer) :
    h'.dispatcher.Conveys known producer := by
  obtain ⟨es, between, rfl, -, hqueued⟩ := hs
  have hstart : ((h.dispatcher.withRegistry registry).report es).Conveys known producer :=
    ⟨hd.builder, hd.posts, hd.pool⟩
  exact between.quietly_settle.conveys (hqueued.conveys hstart hjobs)

theorem conveys_dispatch (h : Hub) {k : DataKind} (dataset : String) {changed : List k.Entity}
    (hd : h.dispatcher.Conveys known producer) (hknown : ∀ e ∈ changed, known k e) :
    (h.dispatch k dataset changed).settle.dispatcher.Conveys known producer := by
  by_cases hchanged : changed = []
  · subst hchanged
    exact h.quietly_settle.conveys hd
  · refine (h.submits_dispatch hd.builder dataset hchanged).conveys hd fun job hjob => ?_
    obtain ⟨s, -, hjob⟩ := List.mem_flatMap.1 hjob
    exact Dispatcher.conveys_batchJob hknown job hjob

theorem Conveys.runSpawned (hh : h.Conveys known producer hash) {t : Spawned}
    (ht : t.Conveys known) : (h.runSpawned t).Conveys known producer hash where
  exact k := (h.moves_runSpawned t).exact (hh.exact k)
  stored k key e he := by
    rw [timedFeed, clock_runSpawned, feeds_runSpawned] at he
    exact hh.stored k key e he
  dispatcher := by
    cases t with
    | change k dataset changed =>
      refine h.conveys_dispatch dataset hh.dispatcher fun e he => ?_
      obtain ⟨entry, hentry, rfl⟩ := List.mem_map.1 he
      exact ht entry hentry
    | snapshot s =>
      refine (h.submits_deliverSnapshot hh.dispatcher.builder s.kind s).conveys hh.dispatcher
        (Dispatcher.conveys_delivery fun e he => ?_)
      rw [snapshot_eq] at he
      obtain ⟨⟨key, e⟩, hentry, rfl⟩ := List.mem_map.1 he
      exact hh.stored s.kind key e (EntityStore.mem_entries.1 hentry).1

theorem Conveys.call (hh : h.Conveys known producer hash) {op : HubOp} (hop : op.IsKnown known) :
    (h.call op).2.Conveys known producer hash ∧ ∀ t ∈ (h.call op).1, t.Conveys known := by
  have hexact (k : DataKind) : (h.call op).2.Exact hash k := (h.moves_call op).exact (hh.exact k)
  have hstored (k : DataKind) (key : RecordKey) (e : k.Entity)
      (he : ((h.call op).2.timedFeed k).get? key = some e) : known k e := by
    rcases h.timedFeed_call op k with ⟨dataset, batch, rfl, hclock, hstore⟩ | ⟨ops, hquiet, hrun⟩
    · have he' : ((h.call (.ingest k dataset batch)).2.feeds.get k).store.get?
          (h.call (.ingest k dataset batch)).2.clock.now key = some e := he
      rw [hclock, hstore, upserted] at he'
      rcases EntityStore.item_of_get? he' with hbefore | ⟨hitem, hkey⟩
      · exact hh.stored k key e hbefore
      · rw [(hh.exact k).profile] at hitem hkey
        exact hop k dataset key e ⟨batch, rfl, hitem⟩ hkey
    · rw [hrun] at he
      exact hh.stored k key e (TimedFeed.get?_of_quiet_run hquiet he)
  by_cases hquiet : op.IsQuiet
  · refine ⟨⟨hexact, hstored, (h.quietly_call hquiet).conveys hh.dispatcher⟩, ?_⟩
    rw [h.call_of_quiet hquiet]
    exact fun t ht => absurd ht List.not_mem_nil
  cases op with
  | ingest k dataset batch =>
    obtain ⟨counted, feed, es, -, -, -, hdispatcher, hcall⟩ := h.call_ingest k dataset batch
    have hcounted : counted.dispatcher.Conveys known producer := by
      rw [hdispatcher]
      exact ⟨hh.dispatcher.builder, hh.dispatcher.posts, hh.dispatcher.pool⟩
    refine ⟨⟨hexact, hstored, ?_⟩, ?_⟩
    · rw [hcall]
      split
      · exact counted.quietly_settle.conveys hcounted
      · exact hcounted
    · rw [hcall]
      split
      · exact fun t ht => absurd ht List.not_mem_nil
      · intro t ht
        rw [List.mem_singleton.1 ht]
        intro entry hentry
        obtain ⟨hitem, hkey⟩ := EntityStore.item_of_changed hentry
        rw [(hh.exact k).profile] at hitem hkey
        exact hop k dataset entry.1 entry.2 ⟨batch, rfl, hitem⟩ hkey
  | subscribe fresh request =>
    rcases h.call_subscribe fresh request with ⟨_, -, hnone, hpath⟩ | ⟨s, ttl, es, -, -, hcall⟩
    · refine ⟨⟨hexact, hstored, hpath.conveys hh.dispatcher⟩, ?_⟩
      rw [hnone]
      exact fun t ht => absurd ht List.not_mem_nil
    · rw [hcall] at hexact hstored ⊢
      refine ⟨⟨hexact, hstored, ?_⟩, fun t ht => ?_⟩
      · exact ⟨hh.dispatcher.builder, hh.dispatcher.posts, hh.dispatcher.pool⟩
      · obtain ⟨-, ht⟩ := List.mem_ite_nil_right.1 ht
        rw [List.mem_singleton.1 ht]
        trivial
  | _ => exact (hquiet trivial).elim

end Hub

namespace Lagging

variable {l : Lagging} {known : Known} {producer : String} {hash : String → Fingerprint}

/-- Whether all that is stored, posted, to be posted, and left to tasks is known. -/
structure Conveys (known : Known) (producer : String) (hash : String → Fingerprint)
    (l : Lagging) : Prop where
  hub : l.hub.Conveys known producer hash
  tasks : ∀ task ∈ l.tasks, task.1.Conveys known

theorem Conveys.next (hl : l.Conveys known producer hash) {op : LaggingOp}
    (hop : ∀ op', op = .call op' → op'.IsKnown known) :
    (l.next op).Conveys known producer hash := by
  cases op with
  | call op =>
    obtain ⟨hhub, hspawned⟩ := hl.hub.call (hop op rfl)
    exact ⟨hhub, fun task htask =>
      (l.task_of_call htask).elim (hl.tasks task) (hspawned task.1)⟩
  | work place =>
    rcases l.work_cases place with ⟨-, hnext⟩ | ⟨t, n, hwaits, hnext⟩
    · rwa [hnext]
    · rw [hnext]
      exact ⟨hl.hub.runSpawned (hl.tasks (t, n) (List.mem_of_getElem? hwaits)),
        fun task htask => hl.tasks task (List.mem_of_mem_eraseIdx htask)⟩

/-- The entities with a key that the operations of a run bring. -/
def Brought (ops : List LaggingOp) : Known := fun k e =>
  ∃ dataset key op, .call op ∈ ops ∧ op.Brings dataset e ∧ k.profile.key? dataset e = some key

/-- Over a run nothing is stored or posted but what its operations brought. -/
theorem conveys_run (config : HubConfig) (producer : String) (clock : Clock)
    (hash : String → Fingerprint) (ops : List LaggingOp) :
    (run { hub := Hub.new config (.json producer) clock hash } ops).Conveys (Brought ops) producer
      hash := by
  refine List.foldlRecOn (motive := Conveys (Brought ops) producer hash) ops next ?_
    fun l hl op hop => ?_
  · exact ⟨Hub.conveys_new _ config producer clock hash, fun _ hnil => absurd hnil List.not_mem_nil⟩
  · refine hl.next fun op' hcall k dataset key e hbrings hkey => ?_
    exact ⟨dataset, key, op', hcall ▸ hop, hbrings, hkey⟩

end Lagging

end TransitHub
