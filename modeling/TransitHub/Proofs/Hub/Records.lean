/-
# The records of a hub over a run

Whatever a hub does, each of its feeds undergoes a run of feed operations: what is done to the other
feeds and to the dispatcher is not seen from it. So what holds of every run of a feed holds of the
feeds of a hub; and where the hub is only quietly at work, no record comes and none changes what it
says.

The registry is alike. Quiet work ends subscriptions at most.
-/

import TransitHub.Proofs.Feed.Step
import TransitHub.Proofs.Hub.Spawned
import TransitHub.Proofs.Push.Delivery

namespace TransitHub

/-- A quiet operation reports no change. -/
theorem FeedOp.IsQuiet.not_reports {α : Type} {op : FeedOp α} (hquiet : op.IsQuiet)
    (s : TimedFeed α) (k : RecordKey) : ¬ (s.event op).Reports k := by
  cases op with
  | ingest => exact hquiet.elim
  | ingestJson => exact hquiet.elim
  | _ => exact id

namespace TimedFeed

variable {α : Type} {s : TimedFeed α}

theorem run_append (s : TimedFeed α) (ops ops' : List (FeedOp α)) :
    s.run (ops ++ ops') = (s.run ops).run ops' := List.foldl_append

/-- Over a quiet run no record comes, and none changes what it says. -/
theorem ChecksumsExact.agrees_of_quiet_run (h : s.ChecksumsExact) (ops : List (FeedOp α))
    (hquiet : ∀ op ∈ ops, op.IsQuiet) {k : RecordKey} {e' : α}
    (he' : (s.run ops).get? k = some e') :
    ∃ e, s.get? k = some e ∧
      s.feed.store.profile.fingerprint e = s.feed.store.profile.fingerprint e' := by
  induction ops generalizing s with
  | nil => exact ⟨e', he', rfl⟩
  | cons op rest ih =>
    obtain ⟨e₁, he₁, hsame₁⟩ := ih (h.next op)
      (fun op' hop' => hquiet op' (List.mem_cons_of_mem _ hop')) he'
    obtain ⟨e, he, hsame⟩ :=
      h.agrees_of_quiet op ((hquiet op List.mem_cons_self).not_reports s k) he₁
    rw [s.profile_next op] at hsame₁
    exact ⟨e, he, hsame.trans hsame₁⟩

end TimedFeed

namespace Registry

variable {r r' : Registry} {c : Clock}

/-- A quiet operation brings no subscription. -/
theorem Performed.slot?_of_quiet {op : RegistryOp} (h : Performed r c op r') (hquiet : op.IsQuiet)
    {id : String} {slot : Slot Subscription} (hslot : r'.slot? c.now id = some slot) :
    r.slot? c.now id = some slot := by
  have hdrop {r : Registry} {dropped : String}
      (hslot : (r.drop dropped).slot? c.now id = some slot) : r.slot? c.now id = some slot := by
    rw [slot?_drop, Option.ite_none_left_eq_some] at hslot
    exact hslot.2
  cases h with
  | accepted => exact hquiet.elim
  | rejected => exact hslot
  | unknown => exact hdrop hslot
  | terminated =>
    rw [slot?_refresh] at hslot
    exact hdrop hslot
  | rebuilt => exact hslot
  | matched => exact hslot
  | ended kind =>
    rw [slot?_refresh, slot?_foldl_drop, Option.ite_none_left_eq_some] at hslot
    exact hslot.2
  | ignored => exact hslot
  | degraded => exact hslot
  | cancelled =>
    rw [slot?_refresh] at hslot
    exact hdrop hslot
  | succeeded => exact hslot
  | touched touched => rwa [slot?_touch] at hslot
  | listed => exact hslot
  | swept => rwa [slot?_sweep] at hslot
  | passed => exact hslot

end Registry

namespace Dispatcher

variable {c : Clock} {d d' : Dispatcher} {id : String} {slot : Slot Subscription}

/-- What workers do brings no subscription. -/
theorem slot?_of_settle (now : Instant) (p : WorkerPool PushJob) (o : Outbound)
    (hslot : (p.settle (Outbound.work now) o).2.registry.slot? now id = some slot) :
    o.registry.slot? now id = some slot := by
  have hsettles := WorkerPool.settle_settles (Outbound.work now) p o
  refine (hsettles.keeps (P := fun _ => True) (I := fun o' => o'.registry.slot? now id = some slot →
    o.registry.slot? now id = some slot)
    (fun job o' _ hbefore => ⟨fun hslot => ?_, fun _ _ => trivial⟩)
    ⟨fun _ _ => trivial, fun _ _ => trivial⟩ fun hslot => hslot).2 hslot
  obtain ⟨_, -, hposting⟩ := Outbound.work_posting now job o'
  refine hbefore ?_
  have hperformed (op : RegistryOp) := o'.registry.perform_performed ⟨.epoch, now⟩ op
  rcases hposting.registry_eq .epoch with hsame | hsuccess | hfailure
  · rwa [hsame] at hslot
  · rw [hsuccess] at hslot
    exact (hperformed (.success _)).slot?_of_quiet trivial hslot
  · rw [hfailure] at hslot
    exact (hperformed (.failure _)).slot?_of_quiet trivial hslot

theorem Quiet.slot?_of (hquiet : Quiet c d d') (hslot : d'.registry.slot? c.now id = some slot) :
    d.registry.slot? c.now id = some slot := by
  cases hquiet with
  | report => exact hslot
  | registry op hop => exact (d.registry.perform_performed c op).slot?_of_quiet hop hslot
  | notice s content =>
    obtain ⟨jobs, hjobs⟩ := d.queued_submit c.wall s [content]
    have hsame : (d.submit c.wall s [content]).2.registry = d.registry := hjobs.registry
    rwa [hsame] at hslot
  | settle => exact slot?_of_settle c.now d.pool d.outbound hslot
  | close => exact hslot
  | script => exact hslot
  | release => exact hslot

theorem Quietly.slot?_of (hpath : Quietly c d d') (hslot : d'.registry.slot? c.now id = some slot) :
    d.registry.slot? c.now id = some slot := by
  induction hpath with
  | refl => exact hslot
  | tail _ hquiet ih => exact ih (hquiet.slot?_of hslot)

end Dispatcher

namespace Hub

variable {h h' : Hub}

/-- A feed of a hub at its moment. -/
def timedFeed (h : Hub) (k : DataKind) : TimedFeed k.Entity := ⟨h.clock, h.feeds.get k⟩

/-- A change is seen from a feed as operations on it. -/
theorem Change.timedFeed {path : Clock → Dispatcher → Dispatcher → Prop}
    {allowed : ∀ k : DataKind, FeedOp k.Entity → Prop} (hchange : Change path allowed h h')
    (k : DataKind) (hpass : ∀ t, allowed k (.pass t)) :
    ∃ ops, (∀ op ∈ ops, allowed k op) ∧ h'.timedFeed k = (h.timedFeed k).run ops := by
  have hnone {h' : Hub} (hclock : h'.clock = h.clock) (hfeed : h'.feeds.get k = h.feeds.get k) :
      ∃ ops, (∀ op ∈ ops, allowed k op) ∧ h'.timedFeed k = (h.timedFeed k).run ops :=
    ⟨[], fun _ hnil => (nomatch hnil), by rw [Hub.timedFeed, hclock, hfeed]; rfl⟩
  cases hchange with
  | dispatch _ hclock hfeeds => exact hnone hclock (by rw [hfeeds])
  | feed k' op hop hfeeds hclock =>
    by_cases hk : k' = k
    · subst hk
      have hget : h'.feeds.get k' = ((h.feeds.get k').perform h.clock op).2 := by
        rw [hfeeds, Feeds.get_set]
      have hnext (hstill : op.clock h.clock = h.clock) : ∃ ops, (∀ op ∈ ops, allowed k' op) ∧
          h'.timedFeed k' = (h.timedFeed k').run ops := by
        refine ⟨[op], fun op' hop' => ?_, ?_⟩
        · rw [List.mem_singleton.1 hop']
          exact hop
        · show _ = TimedFeed.mk (op.clock h.clock) ((h.feeds.get k').perform h.clock op).2
          rw [hstill, ← hget, Hub.timedFeed, hclock]
      cases op with
      | pass t => exact hnone hclock hget
      | _ => exact hnext rfl
    · exact hnone hclock (by rw [hfeeds, Feeds.get_set_of_ne _ _ hk])
  | pass t hclock hfeeds =>
    refine ⟨[.pass t], fun op' hop' => ?_, by rw [Hub.timedFeed, hclock, hfeeds]; rfl⟩
    rw [List.mem_singleton.1 hop']
    exact hpass t

/-- A path is seen from a feed as a run. -/
theorem timedFeed_of_path {path : Clock → Dispatcher → Dispatcher → Prop}
    {allowed : ∀ k : DataKind, FeedOp k.Entity → Prop}
    (hpath : Relation.ReflTransGen (Change path allowed) h h') (k : DataKind)
    (hpass : ∀ t, allowed k (.pass t)) :
    ∃ ops, (∀ op ∈ ops, allowed k op) ∧ h'.timedFeed k = (h.timedFeed k).run ops := by
  induction hpath with
  | refl => exact ⟨[], fun _ hnil => (nomatch hnil), rfl⟩
  | tail _ hchange ih =>
    obtain ⟨ops, hops, hrun⟩ := ih
    obtain ⟨ops', hops', hrun'⟩ := hchange.timedFeed k hpass
    refine ⟨ops ++ ops', fun op hop => (List.mem_append.1 hop).elim (hops op) (hops' op), ?_⟩
    rw [hrun', hrun, TimedFeed.run_append]

/-- Of each feed the profile is that of its kind with the hash of the hub, and its cache of
fingerprints is exact. -/
structure Exact (h : Hub) (hash : String → Fingerprint) (k : DataKind) : Prop where
  profile : (h.feeds.get k).store.profile = k.profileBy hash
  checksums : (h.timedFeed k).ChecksumsExact

theorem exact_new (config : HubConfig) (builder : PayloadBuilder) (clock : Clock)
    (hash : String → Fingerprint) (k : DataKind) :
    (Hub.new config builder clock hash).Exact hash k := by
  cases k <;> exact ⟨rfl, TimedFeed.checksumsExact_start _ _ _ clock⟩

theorem Moves.exact (hpath : Moves h h') {hash : String → Fingerprint} {k : DataKind}
    (hexact : h.Exact hash k) : h'.Exact hash k := by
  obtain ⟨ops, -, hrun⟩ := timedFeed_of_path hpath k fun _ => trivial
  refine ⟨?_, ?_⟩
  · show (h'.timedFeed k).feed.store.profile = k.profileBy hash
    rw [hrun, TimedFeed.profile_run]
    exact hexact.profile
  · rw [hrun]
    exact TimedFeed.checksumsExact_run hexact.checksums ops

theorem exact_run (config : HubConfig) (builder : PayloadBuilder) (clock : Clock)
    (hash : String → Fingerprint) (ops : List HubOp) (k : DataKind) :
    ((Hub.new config builder clock hash).run ops).Exact hash k :=
  run_induction ops (exact_new config builder clock hash k) fun h op hexact =>
    (h.moves_perform op).exact hexact

/-- Where a hub is only quietly at work, no record comes, and none changes what it says. -/
theorem Quietly.agrees (hpath : Quietly h h') {hash : String → Fingerprint} {k : DataKind}
    (hexact : h.Exact hash k) {key : RecordKey} {e' : k.Entity}
    (he' : (h'.feeds.get k).store.get? h'.now key = some e') :
    ∃ e, (h.feeds.get k).store.get? h.now key = some e ∧
      (k.profileBy hash).fingerprint e = (k.profileBy hash).fingerprint e' := by
  obtain ⟨ops, hquiet, hrun⟩ := timedFeed_of_path hpath k fun _ => trivial
  have hget : ((h.timedFeed k).run ops).get? key = some e' := by
    rw [← hrun]
    exact he'
  obtain ⟨e, he, hsame⟩ := hexact.checksums.agrees_of_quiet_run ops hquiet hget
  rw [← hexact.profile]
  exact ⟨e, he, hsame⟩

/-- Where a hub is only quietly at work, no subscription comes. -/
theorem Quietly.slot?_of (hpath : Quietly h h') {id : String} {slot : Slot Subscription}
    (hslot : h'.registry.slot? h'.now id = some slot) : h.registry.slot? h.now id = some slot := by
  induction hpath with
  | refl => exact hslot
  | tail _ hchange ih =>
    refine ih ?_
    cases hchange with
    | dispatch hpath hclock =>
      rw [now, hclock] at hslot
      exact Dispatcher.Quietly.slot?_of hpath hslot
    | feed _ _ _ _ hclock hdispatcher =>
      rwa [now, hclock, Hub.registry, hdispatcher] at hslot
    | pass t hclock _ hdispatcher =>
      rw [now, hclock, Hub.registry, hdispatcher] at hslot
      exact TtlStore.live?_of_later (t.now_le_apply _) hslot

end Hub

end TransitHub
