/-
# Clearing a dataset

A dataset is cleared in the store of one kind or of all. That takes its live records away, and it
takes nothing else: no record of another dataset or kind, nothing that is buffered or pending for a
consumer, no subscription and no streak. The keys that are still buffered or pending are not served
any more, since what a poll serves is read from the store.

A dataset that was cleared stays so until something is ingested into it, whatever else the hub does
in the meantime. The first item of a key that is ingested then and is not expired is a change, so
nothing that was remembered of the key keeps it from being reported.
-/

import Mathlib.Algebra.Order.Ring.Nat
import TransitHub.Proofs.Feed.Absence
import TransitHub.Proofs.Hub.Calls
import TransitHub.Proofs.Hub.Records
import TransitHub.Proofs.Store.Alike

namespace TransitHub

/-- The kinds that are chosen: one, or all. -/
def DataKind.chosen : Option DataKind → List DataKind
  | some k => [k]
  | none => all

/-- Whether an operation brings a batch for a dataset of a kind. -/
def LaggingOp.Ingests (k : DataKind) (dataset : String) (op : LaggingOp) : Prop :=
  ∃ batch, op = .call (.ingest k dataset batch)

namespace TimedFeed

variable {α : Type} {s : TimedFeed α} {key : RecordKey}

/-- Over a quiet run an absent key stays absent. -/
theorem absent_of_quiet_run (habsent : s.get? key = none) {ops : List (FeedOp α)}
    (hquiet : ∀ op ∈ ops, op.IsQuiet) : (s.run ops).get? key = none := by
  refine List.foldlRecOn (motive := fun t : TimedFeed α => t.get? key = none) ops next habsent
    fun t ht op hop => absent_next ht ?_
  have hop' := hquiet op hop
  cases op with
  | ingest => exact hop'.elim
  | ingestJson => exact hop'.elim
  | _ => exact id

end TimedFeed

namespace Hub

variable {h h' : Hub} {k : DataKind} {ks : List DataKind} {dataset : String} {key : RecordKey}

/-- Drop the records of a dataset in the stores of the chosen kinds; the answer is their number. -/
def clearDataset (h : Hub) (kind : Option DataKind) (dataset : String) : Nat × Hub :=
  h.clearEach (DataKind.chosen kind) dataset

/-! ## What is cleared and what is left -/

theorem clearEach_cons (h : Hub) (k : DataKind) (ks : List DataKind) (dataset : String) :
    h.clearEach (k :: ks) dataset =
      ((h.clear k dataset).1 + ((h.clear k dataset).2.clearEach ks dataset).1,
        ((h.clear k dataset).2.clearEach ks dataset).2) := by
  let step (acc : Nat × Hub) (k : DataKind) : Nat × Hub :=
    (acc.1 + (acc.2.clear k dataset).1, (acc.2.clear k dataset).2)
  have hstart (k : DataKind) (ks : List DataKind) (h : Hub) : h.clearEach (k :: ks) dataset =
      ks.foldl step ((h.clear k dataset).1, (h.clear k dataset).2) := by
    show ks.foldl step (0 + (h.clear k dataset).1, (h.clear k dataset).2) = _
    rw [Nat.zero_add]
  have htotal (ks : List DataKind) (total : Nat) (h : Hub) :
      ks.foldl step (total, h) =
        (total + (h.clearEach ks dataset).1, (h.clearEach ks dataset).2) := by
    induction ks generalizing total h with
    | nil => rfl
    | cons k rest ih =>
      rw [hstart, List.foldl_cons, ih, ih, ← Nat.add_assoc]
  rw [hstart, htotal]

/-- What stays as it is when a dataset is cleared in the stores of some kinds. -/
structure Spared (h : Hub) (ks : List DataKind) (dataset : String) (h' : Hub) : Prop where
  clock : h'.clock = h.clock
  /-- Records of other datasets or kinds keep their values and deadlines. -/
  records : ∀ k key, (k ∈ ks → key.dataset ≠ dataset) →
    (h'.feeds.get k).store.records.slot? key = (h.feeds.get k).store.records.slot? key
  /-- And so do their fingerprints. -/
  checksums : ∀ k key, (k ∈ ks → key.dataset ≠ dataset) →
    (h'.feeds.get k).store.checksums.slot? key = (h.feeds.get k).store.checksums.slot? key
  /-- Change sets with their baselines, and the buffered keys. -/
  trackers : ∀ k, (h'.feeds.get k).tracker = (h.feeds.get k).tracker
  /-- Subscriptions, and how long they have been failing. -/
  registry : h'.registry = h.registry
  /-- What waits to be posted. -/
  pool : h'.dispatcher.pool = h.dispatcher.pool
  posts : h'.posts = h.posts
  heartbeats : h'.heartbeats = h.heartbeats

theorem feed_clear (h : Hub) (k : DataKind) (dataset : String) :
    (h.clear k dataset).2.feeds.get k = ((h.feeds.get k).clear h.now dataset).2 :=
  Feeds.get_set ..

theorem feed_clear_of_ne (h : Hub) {k k' : DataKind} (hne : k ≠ k') (dataset : String) :
    (h.clear k dataset).2.feeds.get k' = h.feeds.get k' :=
  Feeds.get_set_of_ne _ _ hne

theorem spared_clear (h : Hub) (k : DataKind) (dataset : String) :
    h.Spared [k] dataset (h.clear k dataset).2 := by
  have hslot (k' : DataKind) (key : RecordKey) (hkey : k' ∈ [k] → key.dataset ≠ dataset) :
      ((h.clear k dataset).2.feeds.get k').store.records.slot? key =
          (h.feeds.get k').store.records.slot? key ∧
        ((h.clear k dataset).2.feeds.get k').store.checksums.slot? key =
          (h.feeds.get k').store.checksums.slot? key := by
    by_cases hk : k = k'
    · subst hk
      rw [feed_clear]
      exact EntityStore.slot?_clearDataset _ h.now (hkey List.mem_cons_self)
    · rw [h.feed_clear_of_ne hk]
      exact ⟨rfl, rfl⟩
  refine ⟨rfl, fun k' key hkey => (hslot k' key hkey).1, fun k' key hkey => (hslot k' key hkey).2,
    fun k' => ?_, rfl, rfl, rfl, rfl⟩
  by_cases hk : k = k'
  · subst hk
    rw [feed_clear]
    rfl
  · rw [h.feed_clear_of_ne hk]

theorem spared_clearEach (h : Hub) (ks : List DataKind) (dataset : String) :
    h.Spared ks dataset (h.clearEach ks dataset).2 := by
  induction ks generalizing h with
  | nil => exact ⟨rfl, fun _ _ _ => rfl, fun _ _ _ => rfl, fun _ => rfl, rfl, rfl, rfl, rfl⟩
  | cons k rest ih =>
    have hfirst := h.spared_clear k dataset
    have hrest := ih (h.clear k dataset).2
    rw [clearEach_cons]
    refine ⟨hrest.clock.trans hfirst.clock, fun k' key hkey => ?_, fun k' key hkey => ?_,
      fun k' => (hrest.trackers k').trans (hfirst.trackers k'),
      hrest.registry.trans hfirst.registry, hrest.pool.trans hfirst.pool,
      hrest.posts.trans hfirst.posts, hrest.heartbeats.trans hfirst.heartbeats⟩
    · have hfirst' := hfirst.records k' key fun hk =>
        hkey (List.mem_cons.2 (Or.inl (List.mem_singleton.1 hk)))
      exact (hrest.records k' key fun hk => hkey (List.mem_cons_of_mem k hk)).trans hfirst'
    · have hfirst' := hfirst.checksums k' key fun hk =>
        hkey (List.mem_cons.2 (Or.inl (List.mem_singleton.1 hk)))
      exact (hrest.checksums k' key fun hk => hkey (List.mem_cons_of_mem k hk)).trans hfirst'

/-- The answer counts the records that were live in the stores of the kinds. -/
theorem counts_clearEach (h : Hub) (hnodup : ks.Nodup) (dataset : String) :
    ∃ count : DataKind → Nat,
      (∀ k, (h.feeds.get k).store.Counts h.now (fun key => key.dataset = dataset) (count k)) ∧
        (h.clearEach ks dataset).1 = (ks.map count).sum := by
  refine ⟨fun k => ((h.feeds.get k).store.clearDataset h.now dataset).1,
    fun k => (h.feeds.get k).store.counts_clearDataset h.now dataset, ?_⟩
  induction ks generalizing h with
  | nil => rfl
  | cons k rest ih =>
    obtain ⟨hfresh, hrest⟩ := List.nodup_cons.1 hnodup
    rw [clearEach_cons, ih (h.clear k dataset).2 hrest, List.map_cons, List.sum_cons]
    refine congrArg (_ + List.sum ·) (List.map_congr_left fun k' hk' => ?_)
    have hne : k ≠ k' := fun heq => hfresh (heq ▸ hk')
    rw [h.feed_clear_of_ne hne]
    rfl

/-- Nothing of the dataset is left in the stores of the kinds. -/
theorem absent_clearEach (h : Hub) (hk : k ∈ ks) (hkey : key.dataset = dataset) :
    ((h.clearEach ks dataset).2.timedFeed k).get? key = none := by
  induction ks generalizing h with
  | nil => exact absurd hk List.not_mem_nil
  | cons k' rest ih =>
    rw [clearEach_cons]
    by_cases hlater : k ∈ rest
    · exact ih (h.clear k' dataset).2 hlater
    · obtain rfl : k = k' := (List.mem_cons.1 hk).resolve_right hlater
      have hspared := (h.clear k dataset).2.spared_clearEach rest dataset
      have hcleared : ((h.clear k dataset).2.timedFeed k).get? key = none := by
        rw [timedFeed, TimedFeed.get?, feed_clear]
        exact EntityStore.absent_clearDataset _ h.now hkey
      have hslot := hspared.records k key fun hk => absurd hk hlater
      rw [timedFeed, TimedFeed.get?, hspared.clock]
      refine Eq.trans (EntityStore.get?_congr ?_) hcleared
      rw [TtlStore.live?, TtlStore.live?, hslot]
      rfl

theorem quietly_clearEach (h : Hub) (ks : List DataKind) (dataset : String) :
    Quietly h (h.clearEach ks dataset).2 := by
  induction ks generalizing h with
  | nil => exact .refl
  | cons k rest ih =>
    rw [clearEach_cons]
    exact (h.quietly_clear k dataset).trans (ih _)

/-! ## Until the next batch -/

/-- What an operation does to a feed before its tasks run: it puts a batch into its store, or it is
quiet. -/
theorem timedFeed_call (h : Hub) (op : HubOp) (k : DataKind) :
    (∃ dataset batch, op = .ingest k dataset batch ∧ (h.call op).2.clock = h.clock ∧
      ((h.call op).2.feeds.get k).store = (h.upserted dataset batch).2) ∨
    ∃ ops, (∀ op ∈ ops, FeedOp.IsQuiet op) ∧
      (h.call op).2.timedFeed k = (h.timedFeed k).run ops := by
  have hquietly {h' : Hub} (hpath : Quietly h h') : ∃ ops, (∀ op ∈ ops, FeedOp.IsQuiet op) ∧
      h'.timedFeed k = (h.timedFeed k).run ops :=
    timedFeed_of_path hpath k fun _ => trivial
  have hnone {h' : Hub} (hclock : h'.clock = h.clock) (hfeed : h'.feeds.get k = h.feeds.get k) :
      ∃ ops, (∀ op ∈ ops, FeedOp.IsQuiet op) ∧ h'.timedFeed k = (h.timedFeed k).run ops :=
    ⟨[], fun _ hnil => (nomatch hnil), by rw [timedFeed, hclock, hfeed]; rfl⟩
  by_cases hquiet : op.IsQuiet
  · exact Or.inr (hquietly (h.quietly_call hquiet))
  cases op with
  | ingest k' dataset batch =>
    obtain ⟨counted, feed, -, hclock, hfeeds, hstore, -, hcall⟩ := h.call_ingest k' dataset batch
    have hclock' : (h.call (.ingest k' dataset batch)).2.clock = h.clock := by
      rw [hcall]
      split
      · exact (clock_settle _).trans hclock
      · exact hclock
    have hfeeds' : (h.call (.ingest k' dataset batch)).2.feeds = h.feeds.set k' feed := by
      rw [hcall]
      split
      · exact (feeds_settle _).trans hfeeds
      · exact hfeeds
    by_cases hk : k' = k
    · subst hk
      exact Or.inl ⟨dataset, batch, rfl, hclock', by rw [hfeeds', Feeds.get_set, hstore]⟩
    · exact Or.inr (hnone hclock' (by rw [hfeeds', Feeds.get_set_of_ne _ _ hk]))
  | subscribe fresh request =>
    rcases h.call_subscribe fresh request with ⟨_, -, -, hpath⟩ | ⟨s, ttl, es, -, -, hcall⟩
    · exact Or.inr (hquietly hpath)
    · exact Or.inr (hnone (by rw [hcall]) (by rw [hcall]))
  | _ => exact (hquiet trivial).elim

/-- Whether the store of a kind treats items as it was set up to. -/
structure Configured (h : Hub) (config : HubConfig) (hash : String → Fingerprint) (k : DataKind) :
    Prop where
  profile : (h.feeds.get k).store.profile = k.profileBy hash
  policy : (h.feeds.get k).store.policy = config.policy k

theorem configured_new (config : HubConfig) (builder : PayloadBuilder) (clock : Clock)
    (hash : String → Fingerprint) (k : DataKind) :
    (Hub.new config builder clock hash).Configured config hash k := by
  cases k <;> exact ⟨rfl, rfl⟩

theorem Moves.configured (hpath : Moves h h') {config : HubConfig} {hash : String → Fingerprint}
    (hconfigured : h.Configured config hash k) : h'.Configured config hash k := by
  obtain ⟨ops, -, hrun⟩ := timedFeed_of_path hpath k fun _ => trivial
  constructor
  · show (h'.timedFeed k).feed.store.profile = k.profileBy hash
    rw [hrun, TimedFeed.profile_run]
    exact hconfigured.profile
  · show (h'.timedFeed k).feed.store.policy = config.policy k
    rw [hrun, TimedFeed.policy_run]
    exact hconfigured.policy

/-- Whether reading a kind shows nothing of a dataset. -/
structure Withholds (h : Hub) (k : DataKind) (dataset : String) : Prop where
  getAll : ∀ scope : Option String,
    (h.feeds.get k).store.Lists h.now
      (fun key _ => (∀ d ∈ scope, key.dataset = d) ∧ key.dataset ≠ dataset)
      ((h.feeds.get k).store.getAll h.now scope)
  query : ∀ f : EntityFilter,
    (h.feeds.get k).store.Lists h.now
      (fun key e => f.Admits key.dataset (k.profile.carried e) ∧ key.dataset ≠ dataset)
      ((h.feeds.get k).store.query h.now f)
  poll : ∀ (consumer : String) (request : ReadRequest) (key : RecordKey) (e : k.Entity),
    (key, e) ∈ (h.poll k consumer request).1.served → key.dataset ≠ dataset

/-- Nothing is shown of a dataset without records. -/
theorem withholds_of_absent {hash : String → Fingerprint}
    (hprofile : (h.feeds.get k).store.profile = k.profileBy hash)
    (habsent : ∀ key : RecordKey, key.dataset = dataset → (h.timedFeed k).get? key = none) :
    h.Withholds k dataset := by
  have hother {key : RecordKey} {e : k.Entity}
      (he : (h.feeds.get k).store.get? h.now key = some e) : key.dataset ≠ dataset := by
    intro hkey
    exact Option.some_ne_none e (he.symm.trans (habsent key hkey))
  have hlists {wanted : RecordKey → k.Entity → Prop} {es : List k.Entity}
      (hes : (h.feeds.get k).store.Lists h.now wanted es) :
      (h.feeds.get k).store.Lists h.now (fun key e => wanted key e ∧ key.dataset ≠ dataset) es := by
    obtain ⟨records, heq, hsorted, hmem⟩ := hes
    refine ⟨records, heq, hsorted, fun key e => (hmem key e).trans (and_congr_right fun he => ?_)⟩
    exact (and_iff_left (hother (EntityStore.get?_eq_some_iff.2 he))).symm
  refine ⟨fun scope => hlists (EntityStore.lists_getAll _ h.now scope), fun f => ?_, ?_⟩
  · have hlisted := hlists (EntityStore.lists_query _ h.now f)
    rw [hprofile] at hlisted
    exact hlisted
  · intro consumer request key e hserved
    exact hother (((h.timedFeed k).answered_poll consumer request).served key e |>.1 hserved).2.1

end Hub

namespace Lagging

open Hub

variable {l : Lagging} {k : DataKind} {key : RecordKey} {op : LaggingOp} {ops : List LaggingOp}
  {dataset : String} {config : HubConfig} {hash : String → Fingerprint}

/-- Whether an operation renews a key of a kind, under the policy of the kind. -/
def Renews (l : Lagging) (policy : ExpirationPolicy) (k : DataKind) (key : RecordKey)
    (op : LaggingOp) : Prop :=
  ∃ dataset batch, op = .call (.ingest k dataset batch) ∧
    ∃ item ∈ batch.items k.profile, k.profile.Renews policy l.hub.clock.wall dataset key item

/-- Whether no operation of a run renews a key. -/
def Spares (policy : ExpirationPolicy) (k : DataKind) (key : RecordKey) :
    Lagging → List LaggingOp → Prop
  | _, [] => True
  | l, op :: rest => ¬ l.Renews policy k key op ∧ Spares policy k key (l.next op) rest

/-- What does not renew an absent key leaves it absent. -/
theorem absent_next (hconfigured : l.hub.Configured config hash k)
    (habsent : (l.hub.timedFeed k).get? key = none)
    (hnot : ¬ l.Renews (config.policy k) k key op) :
    ((l.next op).hub.timedFeed k).get? key = none := by
  cases op with
  | work place =>
    rcases l.work_cases place with ⟨-, hnext⟩ | ⟨t, n, -, hnext⟩
    · rwa [hnext]
    · rw [hnext]
      show ((l.hub.runSpawned t).timedFeed k).get? key = none
      rw [timedFeed, clock_runSpawned, feeds_runSpawned]
      exact habsent
  | call op =>
    rcases l.hub.timedFeed_call op k with ⟨dataset, batch, rfl, hclock, hstore⟩ | ⟨ops, hquiet, hrun⟩
    · show ((l.hub.call (.ingest k dataset batch)).2.feeds.get k).store.get?
        (l.hub.call (.ingest k dataset batch)).2.clock.now key = none
      rw [hclock, hstore, upserted]
      refine EntityStore.absent_upsertAll habsent fun item hitem hrenews => hnot ?_
      rw [hconfigured.profile] at hitem
      rw [hconfigured.profile, hconfigured.policy] at hrenews
      exact ⟨dataset, batch, rfl, item, hitem, hrenews⟩
    · show ((l.hub.call op).2.timedFeed k).get? key = none
      rw [hrun]
      exact TimedFeed.absent_of_quiet_run habsent hquiet

theorem absent_run (hconfigured : l.hub.Configured config hash k)
    (habsent : (l.hub.timedFeed k).get? key = none)
    (hspares : Spares (config.policy k) k key l ops) :
    ((l.run ops).hub.timedFeed k).get? key = none := by
  induction ops generalizing l with
  | nil => exact habsent
  | cons op rest ih =>
    exact ih ((l.moves_next op).configured hconfigured)
      (absent_next hconfigured habsent hspares.1) hspares.2

/-- Without a batch for a dataset no key of it is renewed. -/
theorem spares_of_not_ingests (policy : ExpirationPolicy) (hkey : key.dataset = dataset)
    (hnone : ∀ op ∈ ops, ¬ op.Ingests k dataset) : Spares policy k key l ops := by
  induction ops generalizing l with
  | nil => trivial
  | cons op rest ih =>
    refine ⟨fun hrenews => hnone op List.mem_cons_self ?_,
      ih fun op' hop' => hnone op' (List.mem_cons_of_mem op hop')⟩
    obtain ⟨dataset', batch, rfl, item, -, hitem, -⟩ := hrenews
    obtain rfl : dataset' = dataset := (DataKind.dataset_of_key? hitem).symm.trans hkey
    exact ⟨batch, rfl⟩

end Lagging

namespace Hub

/-- The first item of a batch that renews an absent key is a change, and the key is reported. -/
theorem changed_of_renews {h : Hub} {config : HubConfig} {k : DataKind} {dataset : String}
    {key : RecordKey} {batch : Batch k} {first rest : List k.Entity} {item : k.Entity}
    {hash : String → Fingerprint} (hconfigured : h.Configured config hash k)
    (habsent : (h.timedFeed k).get? key = none)
    (hitems : batch.items k.profile = first ++ item :: rest)
    (hspared : ∀ item ∈ first,
      ¬ k.profile.Renews (config.policy k) h.clock.wall dataset key item)
    (hrenews : k.profile.Renews (config.policy k) h.clock.wall dataset key item) :
    ((h.upserted dataset (.entities first)).2.upsertOne h.clock key item).1 = .changed ∧
      key ∈ (h.upserted dataset batch).1.changedKeys := by
  have hrenews' : (h.feeds.get k).store.profile.Renews (h.feeds.get k).store.policy h.clock.wall
      dataset key item := by
    rw [hconfigured.profile, hconfigured.policy]
    exact hrenews
  have hspared' : ∀ item ∈ first, ¬ (h.feeds.get k).store.profile.Renews
      (h.feeds.get k).store.policy h.clock.wall dataset key item := by
    rw [hconfigured.profile, hconfigured.policy]
    exact hspared
  have hitems' : batch.items (h.feeds.get k).store.profile = first ++ item :: rest := by
    rw [hconfigured.profile]
    exact hitems
  rw [upserted, upserted, hitems']
  exact EntityStore.changed_of_renews habsent hspared' hrenews'

/-- Clearing a dataset clears it and nothing else, whatever a hub did before and whatever tasks of
it are still waiting. The answer is the number of records of the dataset that were live in the
chosen stores. Everything else is spared. Until something is ingested into the dataset, nothing of
it is listed or served for the chosen kinds. And of every key of the dataset the first item that
comes and is not expired is a change, and its batch reports the key. -/
theorem clearing_exact (config : HubConfig) (builder : PayloadBuilder) (clock : Clock)
    (hash : String → Fingerprint) (before : List LaggingOp) (kind : Option DataKind)
    (dataset : String) :
    let l := Lagging.run { hub := .new config builder clock hash } before
    let cleared := l.hub.clearDataset kind dataset
    (∃ count : DataKind → Nat,
      (∀ k, (l.hub.feeds.get k).store.Counts l.hub.now (fun key => key.dataset = dataset)
        (count k)) ∧
      cleared.1 = ((DataKind.chosen kind).map count).sum) ∧
    l.hub.Spared (DataKind.chosen kind) dataset cleared.2 ∧
    ∀ k ∈ DataKind.chosen kind, ∀ later : List LaggingOp,
      let after := (Lagging.run { l with hub := cleared.2 } later).hub
      ((∀ op ∈ later, ¬ op.Ingests k dataset) → after.Withholds k dataset) ∧
      ∀ key : RecordKey, key.dataset = dataset →
        Lagging.Spares (config.policy k) k key { l with hub := cleared.2 } later →
        ∀ (batch : Batch k) (first rest : List k.Entity) (item : k.Entity),
          batch.items k.profile = first ++ item :: rest →
          (∀ item ∈ first,
            ¬ k.profile.Renews (config.policy k) after.clock.wall dataset key item) →
          k.profile.Renews (config.policy k) after.clock.wall dataset key item →
          ((after.upserted dataset (.entities first)).2.upsertOne after.clock key item).1 =
              .changed ∧
            key ∈ (after.upserted dataset batch).1.changedKeys := by
  intro l cleared
  have hnodup : (DataKind.chosen kind).Nodup := by
    cases kind with
    | none => decide
    | some k => exact List.nodup_singleton k
  refine ⟨l.hub.counts_clearEach hnodup dataset, l.hub.spared_clearEach _ dataset, ?_⟩
  intro k hk later after
  have hconfigured : cleared.2.Configured config hash k := by
    have hpath : Moves (.new config builder clock hash) l.hub :=
      Lagging.moves_run { hub := .new config builder clock hash } before
    have hcleared : Moves l.hub cleared.2 := (l.hub.quietly_clearEach _ dataset).moves
    exact Moves.configured (hpath.trans hcleared) (configured_new config builder clock hash k)
  have hafter : after.Configured config hash k :=
    Moves.configured (Lagging.moves_run { l with hub := cleared.2 } later) hconfigured
  have habsent {key : RecordKey} (hkey : key.dataset = dataset)
      (hspares : Lagging.Spares (config.policy k) k key { l with hub := cleared.2 } later) :
      (after.timedFeed k).get? key = none :=
    Lagging.absent_run hconfigured (l.hub.absent_clearEach hk hkey) hspares
  constructor
  · intro hnone
    refine withholds_of_absent hafter.profile fun key hkey => habsent hkey ?_
    exact Lagging.spares_of_not_ingests _ hkey hnone
  · intro key hkey hspares batch first rest item hitems hspared hrenews
    exact changed_of_renews hafter (habsent hkey hspares) hitems hspared hrenews

/-- A message is cleared while a reader has not seen it and its push still waits. The reader is not
served it any more, and when it comes once more, unchanged, it is reported. -/
theorem cleared_message_reported_again :
    let config : HubConfig := {}
    let message : InfoMessage := { identifier := some "m" }
    let key : RecordKey := { dataset := "A", primary := "m" }
    let batch : Batch .generalMessage := .entities [message]
    let request : SubscriptionRequest := {
      kind := .generalMessage, address := some "http://consumer/push" }
    let before : List LaggingOp := [
      .call (.subscribe "sub" request), .call (.poll .generalMessage "reader" {}),
      .call (.ingest .generalMessage "A" batch), .call (.ingest .generalMessage "B" batch),
      .call (.commit .generalMessage)]
    let later : List LaggingOp := [.work 1, .call (.poll .generalMessage "reader" {})]
    let l := Lagging.run { hub := .new config (.json "hub") ⟨.epoch, 0⟩ } before
    let cleared := l.hub.clearDataset none "A"
    let after := (Lagging.run { l with hub := cleared.2 } later).hub
    (∀ op ∈ later, ¬ op.Ingests .generalMessage "A") ∧ l.tasks.length = 2 ∧ cleared.1 = 1 ∧
      after.Withholds .generalMessage "A" ∧ key ∈ (after.upserted "A" batch).1.changedKeys := by
  intro config message key batch request before later l cleared after
  have hnone : ∀ op ∈ later, ¬ op.Ingests .generalMessage "A" := by
    intro op hop hingests
    obtain ⟨batch', rfl⟩ := hingests
    simp [later] at hop
  have hspares : Lagging.Spares (config.policy .generalMessage) .generalMessage key
      { l with hub := cleared.2 } later := Lagging.spares_of_not_ingests _ rfl hnone
  have hlater := (clearing_exact config (.json "hub") ⟨.epoch, 0⟩ Fingerprint.ofText before none
    "A").2.2 .generalMessage (by decide) later
  have hwithholds : after.Withholds .generalMessage "A" := hlater.1 hnone
  have hreported := (hlater.2 key rfl hspares batch [] [] message rfl
    (fun _ hnil => absurd hnil List.not_mem_nil) ⟨rfl, by decide +kernel⟩).2
  refine ⟨hnone, ?_, ?_, hwithholds, hreported⟩
  · decide +kernel
  · decide +kernel

end Hub

end TransitHub
