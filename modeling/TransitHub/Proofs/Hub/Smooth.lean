/-
# Runs on which nothing is lost

Nothing is lost on a run if every post is accepted at once, no job meets a full queue, and the queue
stays open. Then the workers are idle between the operations, and whatever submits jobs posts what
they carry. A change posts to a live subscription the entities that it takes, a snapshot the ones
that are queried for it, and neither posts anything else to it.
-/

import TransitHub.Proofs.Hub.Records
import TransitHub.Proofs.Push.FanOut
import TransitHub.Proofs.Push.Immediate
import TransitHub.Proofs.Store.Alike
import TransitHub.Proofs.Store.Report

namespace TransitHub

/-- The documents of the entities that were posted to the subscription with an identifier. -/
def itemsTo (id : String) (posts : List Post) : List Json :=
  (posts.filter (Post.isFor id)).flatMap fun post => post.payload.items

theorem itemsTo_append (id : String) (posts posts' : List Post) :
    itemsTo id (posts ++ posts') = itemsTo id posts ++ itemsTo id posts' := by
  rw [itemsTo, List.filter_append, List.flatMap_append]
  rfl

theorem itemsTo_eq_nil {id : String} {posts : List Post}
    (h : ∀ post ∈ posts, post.payload.items = []) : itemsTo id posts = [] :=
  List.flatMap_eq_nil_iff.2 fun post hpost => h post (List.mem_filter.1 hpost).1

/-- Where posts carry what jobs carry, the documents to a subscription are those of its jobs. -/
theorem itemsTo_of_outgoing {id : String} {posts : List Post} {jobs : List PushJob}
    (h : posts.map Post.outgoing = jobs.flatMap PushJob.outgoing) :
    itemsTo id posts =
      (jobs.filter (PushJob.isFor id)).flatMap fun job => job.payloads.flatMap Payload.items := by
  have hposts (posts : List Post) : itemsTo id posts =
      ((posts.map Post.outgoing).filter fun out => out.1 = id).flatMap fun out => out.2.items := by
    rw [List.filter_map, List.flatMap_map]
    rfl
  rw [hposts, h]
  clear h hposts
  induction jobs with
  | nil => rfl
  | cons job rest ih =>
    rw [List.flatMap_cons, List.filter_append, List.flatMap_append, ih, List.filter_cons]
    by_cases hid : job.subscription.id = id
    · have hall : job.outgoing.filter (fun out => out.1 = id) = job.outgoing :=
        List.filter_eq_self.2 fun out hout => by
          obtain ⟨p, -, rfl⟩ := List.mem_map.1 hout
          exact decide_eq_true hid
      rw [hall, if_pos (show PushJob.isFor id job = true from decide_eq_true hid), List.flatMap_cons,
        PushJob.outgoing, List.flatMap_map]
    · have hnone : job.outgoing.filter (fun out => out.1 = id) = [] :=
        List.filter_eq_nil_iff.2 fun out hout heq => by
          obtain ⟨p, -, rfl⟩ := List.mem_map.1 hout
          exact hid (of_decide_eq_true heq)
      have hother : ¬ PushJob.isFor id job = true := fun heq => hid (of_decide_eq_true heq)
      rw [hnone, if_neg hother]
      rfl

/-- A delivery carries its documents. -/
theorem items_delivery (producer : String) (wall : Timestamp) (kind : DataKind) (limit : Option Nat)
    (s : Subscription) (documents : List Json) :
    ((Dispatcher.delivery producer wall kind limit s documents).flatMap
      fun job => job.payloads.flatMap Payload.items) = documents := by
  by_cases hne : documents = []
  · rw [hne]
    rfl
  · obtain ⟨full, last, payloads, hcuts, hpayloads, hjob⟩ :=
      Dispatcher.delivery_eq producer wall kind limit s hne
    rw [hjob, List.flatMap_singleton, hpayloads, List.flatMap_append, List.flatMap_map,
      List.flatMap_singleton, Payload.items_entities, ← hcuts.whole]
    congr 1
    simp only [Payload.items_entities]
    exact List.flatMap_id

namespace Registry

variable {r : Registry} {c : Clock} {now : Instant} {s : Subscription}

theorem get?_empty (now : Instant) (id : String) : empty.get? now id = none := by
  simp [get?_eq, slot?, empty]

theorem get?_of_slot?_of {r' : Registry} {now' : Instant} {id : String}
    (hslots : ∀ slot, r'.slot? now' id = some slot → r.slot? now id = some slot)
    (hlive : r'.get? now' id = some s) : r.get? now id = some s := by
  obtain ⟨slot, hslot, rfl⟩ := Option.map_eq_some_iff.1 hlive
  rw [get?_eq, hslots slot hslot]
  rfl

theorem Coherent.id_of_get? (h : r.Coherent now) {id : String} (hlive : r.get? now id = some s) :
    s.id = id := by
  obtain ⟨slot, hslot, rfl⟩ := Option.map_eq_some_iff.1 hlive
  exact h.keyed id slot hslot

/-- What is live after matching is not past its end, if it is of the kind that was matched. -/
theorem Coherent.isExpired_of_lookup (h : r.Coherent c.now) {kind : DataKind} {dataset : String}
    (hkind : s.kind = kind) (hlive : (r.lookup c kind dataset).2.get? c.now s.id = some s) :
    s.isExpired c.wall = false := by
  have hperformed : Performed r c (.lookup kind dataset) (r.lookup c kind dataset).2 :=
    r.perform_performed c (.lookup kind dataset)
  have hbefore := get?_of_slot?_of (fun slot => hperformed.slot?_of_quiet trivial) hlive
  obtain ⟨slot, hslot, hvalue⟩ := Option.map_eq_some_iff.1 hbefore
  have hlisted : s ∈ r.directory.entries := hvalue ▸ h.listed s.id slot hslot
  refine Bool.eq_false_iff.2 fun hexpired => ?_
  have hended : s ∈ r.ended c.wall kind :=
    List.mem_filter.2 ⟨List.mem_filter.2 ⟨hlisted, decide_eq_true hkind⟩, hexpired⟩
  generalize (r.lookup c kind dataset).2 = r' at hperformed hlive
  cases hperformed with
  | matched _ _ hnone =>
    rw [hnone] at hended
    exact nomatch hended
  | ended =>
    rw [get?_eq, slot?_refresh, slot?_foldl_drop, if_pos (List.mem_map_of_mem hended)] at hlive
    exact nomatch hlive

end Registry

namespace Hub

variable {h h' h'' : Hub} {config : HubConfig} {producer : String} {hash : String → Fingerprint}
  {registry : Registry}
  {jobs : List PushJob}

theorem Moves.grows (hpath : Moves h h') : Dispatcher.Grows h.dispatcher h'.dispatcher := by
  induction hpath with
  | refl => exact .refl _
  | tail _ hchange ih =>
    refine ih.trans ?_
    cases hchange with
    | dispatch hpath => exact Dispatcher.Moves.grows hpath
    | feed _ _ _ _ _ hdispatcher => rw [hdispatcher]; exact .refl _
    | pass _ _ _ hdispatcher => rw [hdispatcher]; exact .refl _

theorem Moves.posts_le (hpath : Moves h h') : h.posts.length ≤ h'.posts.length := by
  obtain ⟨posts, hextends⟩ := hpath.grows.outbound
  show h.posts.length ≤ h'.dispatcher.outbound.posts.length
  rw [hextends.posts, List.length_append]
  exact Nat.le_add_right _ _

theorem Moves.running (hpath : Moves h h') (hidle : h.dispatcher.pool.running = [])
    (himmediate : h'.dispatcher.outbound.Immediate) : h'.dispatcher.pool.running = [] := by
  induction hpath with
  | refl => exact hidle
  | tail _ hchange ih =>
    obtain ⟨_, hextends⟩ := (Moves.grows (.single hchange)).outbound
    have hbefore := ih (hextends.immediate himmediate).1
    cases hchange with
    | dispatch hpath => exact Dispatcher.Moves.running hpath hbefore himmediate
    | feed _ _ _ _ _ hdispatcher => rw [hdispatcher]; exact hbefore
    | pass _ _ _ hdispatcher => rw [hdispatcher]; exact hbefore

/-- Quiet work posts no entities. -/
theorem Quietly.bare (hpath : Quietly h h') (hbare : h.dispatcher.Bare producer)
    (himmediate : h'.dispatcher.outbound.Immediate) :
    h'.dispatcher.Bare producer ∧ ∃ posts, h'.posts = h.posts ++ posts ∧
      ∀ post ∈ posts, post.payload.items = [] := by
  induction hpath with
  | refl => exact ⟨hbare, [], by rw [List.append_nil], fun _ hnil => nomatch hnil⟩
  | tail _ hchange ih =>
    obtain ⟨_, hextends⟩ := (Moves.grows (Quietly.moves (.single hchange))).outbound
    obtain ⟨hbare', posts, hposts, hitems⟩ := ih (hextends.immediate himmediate).1
    cases hchange with
    | dispatch hpath =>
      obtain ⟨hbare'', posts', hposts', hitems'⟩ := Dispatcher.Quietly.bare hpath hbare' himmediate
      refine ⟨hbare'', posts ++ posts', ?_, fun post hpost => ?_⟩
      · rw [← List.append_assoc, ← hposts]
        exact hposts'
      · exact (List.mem_append.1 hpost).elim (hitems post) (hitems' post)
    | feed _ _ _ _ _ hdispatcher =>
      rw [Hub.posts, hdispatcher]
      exact ⟨hbare', posts, hposts, hitems⟩
    | pass _ _ _ hdispatcher =>
      rw [Hub.posts, hdispatcher]
      exact ⟨hbare', posts, hposts, hitems⟩

/-- Nothing was lost so far: every post was accepted at once, no job met a full queue, and the queue
is open. -/
structure Smooth (h : Hub) : Prop where
  immediate : h.dispatcher.outbound.Immediate
  room : ∀ id, LogEvent.queueFull id ∉ h.journal
  opened : h.dispatcher.pool.closed = false

instance (h : Hub) : Decidable h.Smooth :=
  decidable_of_iff (h.dispatcher.outbound.Immediate ∧ (∀ id, LogEvent.queueFull id ∉ h.journal) ∧
    h.dispatcher.pool.closed = false)
    ⟨fun ⟨himmediate, hroom, hopen⟩ => ⟨himmediate, hroom, hopen⟩,
      fun hsmooth => ⟨hsmooth.immediate, hsmooth.room, hsmooth.opened⟩⟩

theorem Smooth.earlier (hsmooth : h'.Smooth) (hpath : Moves h h') : h.Smooth := by
  obtain ⟨posts, hextends⟩ := hpath.grows.outbound
  obtain ⟨events, hevents⟩ := hextends.journal
  refine ⟨(hextends.immediate hsmooth.immediate).1, fun id hmem => hsmooth.room id ?_, ?_⟩
  · rw [journal, hevents, List.reverse_append]
    exact List.mem_append_left _ hmem
  · exact Bool.eq_false_iff.2 fun hclosed =>
      Bool.eq_false_iff.1 hsmooth.opened (hpath.grows.closed hclosed)

/-- A hub between two operations of a run on which nothing was lost. -/
structure Ready (config : HubConfig) (producer : String) (hash : String → Fingerprint) (h : Hub) :
    Prop where
  sound : h.Sound config producer
  exact : ∀ k, h.Exact hash k
  idle : h.dispatcher.pool.running = []

theorem ready_new (config : HubConfig) (producer : String) (clock : Clock)
    (hash : String → Fingerprint) :
    (Hub.new config (.json producer) clock hash).Ready config producer hash :=
  ⟨sound_new config producer clock hash, exact_new config _ clock hash, rfl⟩

theorem Ready.of_moves (hready : h.Ready config producer hash) (hpath : Moves h h')
    (hrest : h'.dispatcher.pool.AtRest) (hsmooth : h'.Smooth) : h'.Ready config producer hash :=
  ⟨⟨hpath.sound hready.sound.dispatcher, hrest⟩, fun k => hpath.exact (hready.exact k),
    hpath.running hready.idle hsmooth.immediate⟩

theorem Ready.call (hready : h.Ready config producer hash) (op : HubOp)
    (hsmooth : (h.call op).2.Smooth) : (h.call op).2.Ready config producer hash :=
  hready.of_moves (h.moves_call op) (h.atRest_call op hready.sound.atRest) hsmooth

theorem Ready.runSpawned (hready : h.Ready config producer hash) (t : Spawned)
    (hsmooth : (h.runSpawned t).Smooth) : (h.runSpawned t).Ready config producer hash :=
  hready.of_moves (h.moves_runSpawned t) (h.atRest_runSpawned t) hsmooth

theorem Ready.waiting (hready : h.Ready config producer hash) : h.dispatcher.pool.waiting = [] := by
  refine (WorkerPool.atRest_iff.1 hready.sound.atRest).1.resolve_right fun hbusy => ?_
  rw [hready.idle] at hbusy
  exact absurd h.dispatcher.pool.workers_pos (Nat.not_lt.2 hbusy)

theorem Ready.bare (hready : h.Ready config producer hash) : h.dispatcher.Bare producer := by
  refine ⟨hready.sound.dispatcher.builder, hready.idle, fun job hjob => ?_⟩
  rw [hready.waiting] at hjob
  exact nomatch hjob

/-- An operation posts what some jobs carry, and what is live afterwards is so in a registry. -/
structure Carries (h : Hub) (registry : Registry) (jobs : List PushJob) (h' : Hub) : Prop where
  clock : h'.clock = h.clock
  posts : ∃ posts, h'.posts = h.posts ++ posts ∧
    posts.map Post.outgoing = jobs.flatMap PushJob.outgoing
  slots : ∀ id slot, h'.registry.slot? h.now id = some slot → registry.slot? h.now id = some slot

theorem Carries.itemsTo (hc : h.Carries registry jobs h') (id : String) :
    ∃ posts, h'.posts = h.posts ++ posts ∧ TransitHub.itemsTo id posts =
      (jobs.filter (PushJob.isFor id)).flatMap fun job => job.payloads.flatMap Payload.items := by
  obtain ⟨posts, hposts, hout⟩ := hc.posts
  exact ⟨posts, hposts, itemsTo_of_outgoing hout⟩

/-- Where nothing is lost, an operation posts what it submits. -/
theorem Submits.carries (hs : h.Submits registry jobs h') (hready : h.Ready config producer hash)
    (hopen : h.dispatcher.pool.closed = false) (hsmooth : h'.Smooth) :
    h.Carries registry jobs h' := by
  obtain ⟨o, es, hposts, hregistry, hpool, houtbound⟩ := hs.turns hopen fun id hmem =>
    hsmooth.room id (List.mem_of_mem_drop hmem)
  rw [hready.waiting, List.nil_append] at houtbound
  have himmediate := hsmooth.immediate
  rw [houtbound] at himmediate
  obtain ⟨-, -, posts, hextends, hout⟩ := WorkerPool.settle_immediate h.now
    (p := h.dispatcher.pool.withJobs jobs h.dispatcher.pool.running) hready.idle o himmediate
  refine ⟨hs.clock_eq, ⟨posts, ?_, hout⟩, fun id slot hslot => ?_⟩
  · rw [Hub.posts, houtbound, ← hposts]
    exact hextends.posts
  · rw [Hub.registry, houtbound] at hslot
    rw [← hregistry]
    exact Dispatcher.slot?_of_settle h.now _ o hslot

theorem get?_of_carries (hc : h.Carries registry jobs h') {id : String} {s : Subscription}
    (hlive : h'.registry.get? h'.now id = some s) : registry.get? h.now id = some s := by
  rw [now, hc.clock] at hlive
  exact Registry.get?_of_slot?_of (hc.slots id) hlive

/-- A change posts to what is live afterwards the entities that it selects, if the dataset is one
that it takes. -/
theorem change_posts (hready : h.Ready config producer hash) {k : DataKind} {dataset : String}
    {changed : List (RecordKey × k.Entity)} (hchanged : changed ≠ [])
    (hsmooth : (h.runSpawned (.change k dataset changed)).Smooth) {id : String} {s : Subscription}
    (hlive : (h.runSpawned (.change k dataset changed)).registry.get?
      (h.runSpawned (.change k dataset changed)).now id = some s) :
    h.registry.get? h.now id = some s ∧
      ∃ posts, (h.runSpawned (.change k dataset changed)).posts = h.posts ++ posts ∧
        itemsTo id posts =
          if s.concerns k dataset && s.filter.acceptsDataset dataset then
            (Dispatcher.selected k.profile s (changed.map (·.2))).map k.profile.toJson
          else [] := by
  have hcoherent := hready.sound.dispatcher.coherent
  have hopen := (hsmooth.earlier (h.moves_runSpawned _)).opened
  have hcarries : h.Carries (h.registry.lookup h.clock k dataset).2
      (h.changeJobs producer dataset (changed.map (·.2)))
      (h.runSpawned (.change k dataset changed)) :=
    (h.submits_dispatch hready.sound.dispatcher.builder dataset
      fun hnil => hchanged (List.map_eq_nil_iff.1 hnil)).carries hready hopen hsmooth
  have hmatched := get?_of_carries hcarries hlive
  have hbefore : h.registry.get? h.now id = some s :=
    Registry.get?_of_slot?_of (fun slot => (h.registry.perform_performed h.clock
      (.lookup k dataset)).slot?_of_quiet trivial) hmatched
  obtain rfl := hcoherent.id_of_get? hbefore
  obtain ⟨posts, hposts, hitems⟩ := hcarries.itemsTo s.id
  refine ⟨hbefore, posts, hposts, ?_⟩
  rw [hitems, filter_changeJobs hcoherent producer dataset _ hbefore]
  by_cases hconcerns : s.concerns k dataset = true
  · have hkind : s.kind = k := of_decide_eq_true (Bool.and_eq_true_iff.1 hconcerns).1
    rw [hcoherent.isExpired_of_lookup (c := h.clock) hkind hmatched, hconcerns]
    cases s.filter.acceptsDataset dataset with
    | false => rfl
    | true => exact items_delivery ..
  · rw [Bool.eq_false_iff.2 hconcerns, Bool.and_false, Bool.false_and]
    rfl

/-- A snapshot posts to its subscription the entities that are queried, and nothing to another. -/
theorem snapshot_posts (hready : h.Ready config producer hash) {s : Subscription}
    (hsmooth : (h.runSpawned (.snapshot s)).Smooth) (id : String) :
    (∀ s', (h.runSpawned (.snapshot s)).registry.get? (h.runSpawned (.snapshot s)).now id = some s' →
      h.registry.get? h.now id = some s') ∧
    ∃ posts, (h.runSpawned (.snapshot s)).posts = h.posts ++ posts ∧
      itemsTo id posts =
        if s.id = id then (h.snapshot s.kind s).map s.kind.profile.toJson else [] := by
  have hopen := (hsmooth.earlier (h.moves_runSpawned _)).opened
  have hcarries := (h.submits_deliverSnapshot hready.sound.dispatcher.builder s.kind s).carries
    hready hopen hsmooth
  obtain ⟨posts, hposts, hitems⟩ := hcarries.itemsTo id
  refine ⟨fun s' hlive => get?_of_carries hcarries hlive, posts, hposts, ?_⟩
  rw [hitems, Dispatcher.filter_delivery]
  split
  · exact items_delivery ..
  · rfl

/-- Without its task a batch posts nothing. -/
theorem call_ingest_carries (hready : h.Ready config producer hash) (k : DataKind)
    (dataset : String) (batch : Batch k) (hsmooth : (h.call (.ingest k dataset batch)).2.Smooth) :
    h.Carries h.registry [] (h.call (.ingest k dataset batch)).2 ∧
      ∃ feed, feed.store = (h.upserted dataset batch).2 ∧
        (h.call (.ingest k dataset batch)).2.feeds = h.feeds.set k feed := by
  have hopen := (hsmooth.earlier (h.moves_call _)).opened
  obtain ⟨counted, feed, es, hclock, hfeeds, hstore, hdispatcher, hcall⟩ :=
    h.call_ingest k dataset batch
  rw [hcall] at hsmooth ⊢
  split
  · next hunheard =>
    rw [if_pos hunheard] at hsmooth
    have hsubmits : h.Submits h.registry [] counted.settle :=
      ⟨es, counted, rfl, hclock, by rw [hdispatcher]; exact .refl _⟩
    refine ⟨hsubmits.carries hready hopen hsmooth, feed, hstore, ?_⟩
    rw [feeds_settle, hfeeds]
  · refine ⟨⟨hclock, ⟨[], ?_, rfl⟩, fun id slot hslot => ?_⟩, feed, hstore, hfeeds⟩
    · show counted.posts = _
      rw [posts, hdispatcher, List.append_nil]
      rfl
    · have hregistry : counted.registry = h.registry := by
        rw [registry, hdispatcher]
        rfl
      rwa [hregistry] at hslot

end Hub

/-! ## Tasks that lag behind -/

/-- What holds of a task from its spawning on. -/
def Spawned.Sound : Spawned → Prop
  | .change _ dataset changed => changed ≠ [] ∧ ∀ entry ∈ changed, entry.1.dataset = dataset
  | .snapshot s => s.kind = .situationExchange

theorem Hub.call_sound {h : Hub} {hash : String → Fingerprint} (hexact : ∀ k, h.Exact hash k)
    (op : HubOp) : ∀ t ∈ (h.call op).1, t.Sound := by
  by_cases hquiet : op.IsQuiet
  · rw [h.call_of_quiet hquiet]
    exact fun _ hnil => nomatch hnil
  cases op with
  | ingest k dataset batch =>
    obtain ⟨counted, feed, es, -, -, -, -, hcall⟩ := h.call_ingest k dataset batch
    rw [hcall]
    split
    · exact fun _ hnil => nomatch hnil
    · next hheard =>
      rw [Bool.or_eq_true] at hheard
      intro t ht
      rw [List.mem_singleton.1 ht]
      refine ⟨fun hnil => hheard (Or.inl ?_), fun entry hentry => ?_⟩
      · rw [changedBy, UpsertResult.changedValues, hnil]
        rfl
      · have hstores : (h.feeds.get k).store.profile.StoresIn dataset fun d => d = dataset := by
          rw [(hexact k).profile]
          exact k.storesIn (· = dataset) rfl
        exact EntityStore.storesIn_changedKeys hstores
          (EntityStore.mem_changedKeys.2 (List.mem_map_of_mem hentry))
  | subscribe fresh request =>
    rcases h.call_subscribe fresh request with ⟨_, -, hnone, -⟩ | ⟨s, _, _, -, -, hcall⟩
    · rw [hnone]
      exact fun _ hnil => nomatch hnil
    · rw [hcall]
      intro t ht
      obtain ⟨hkind, ht⟩ := List.mem_ite_nil_right.1 ht
      rw [List.mem_singleton.1 ht]
      exact hkind
  | _ => exact (hquiet trivial).elim

namespace Lagging

variable {l : Lagging} {config : HubConfig} {producer : String} {hash : String → Fingerprint}

/-- A hub at any moment of a run on which nothing was lost, with the tasks that wait. -/
structure Ready (config : HubConfig) (producer : String) (hash : String → Fingerprint)
    (l : Lagging) : Prop where
  hub : l.hub.Ready config producer hash
  tasks : ∀ task ∈ l.tasks, task.1.Sound

theorem Ready.next (hready : l.Ready config producer hash) (op : LaggingOp)
    (hsmooth : (l.next op).hub.Smooth) : (l.next op).Ready config producer hash := by
  cases op with
  | call op =>
    refine ⟨hready.hub.call op hsmooth, fun task htask => ?_⟩
    rcases l.task_of_call htask with hbefore | hnew
    · exact hready.tasks task hbefore
    · exact Hub.call_sound hready.hub.exact op task.1 hnew
  | work place =>
    rcases l.work_cases place with ⟨-, hnext⟩ | ⟨t, n, hwaits, hnext⟩
    · rwa [hnext]
    · rw [hnext] at hsmooth ⊢
      exact ⟨hready.hub.runSpawned t hsmooth, fun task htask =>
        hready.tasks task (List.mem_of_mem_eraseIdx htask)⟩

end Lagging

end TransitHub
