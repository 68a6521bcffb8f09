/-
# Subscribers to situations

A subscriber to situations is sent the current state at the start and the changes from then on. The
snapshot and the changes are sent by tasks, which may lag behind and run in any order, so the value
that it was sent last for a record need not be the stored one: an older change may come after a
newer one. But as long as nothing is lost on the way, the subscriber was sent every record that it
selects, and of the tasks that sent a record, the one that was spawned last sent the value that is
stored.

`Outlook` looks at the tasks that have run and those that wait alike. One of them tells of the
record, and neither it nor a later one tells anything but what is stored. Every operation keeps it
so: a change is left to a task that is later than all others, and a snapshot that runs sends what is
stored.

A change of fields that a hash confuses is no change to the store, so it is sent to nobody. What is
proved here is for hashes that tell apart the situations that came to the hub.

`Watch` keeps beside a hub what it sent to the subscription with an identifier since a request for
it was accepted last, record by record.
-/

import Mathlib.Data.Finset.Max
import TransitHub.Proofs.Entity.Fingerprint
import TransitHub.Proofs.Hub.Brought
import TransitHub.Proofs.Hub.Smooth
import TransitHub.Proofs.Store.Report

namespace TransitHub

/-- Whether a hash tells apart all known entities of a kind that differ in what is stable. -/
def Known.Apart (known : Known) (hash : String → Fingerprint) (k : DataKind) : Prop :=
  ∀ e e' : k.Entity, known k e → known k e' →
    hash (k.projection e) = hash (k.projection e') → k.projection e = k.projection e'

theorem Known.Apart.eq {known : Known} {hash : String → Fingerprint}
    (hapart : known.Apart hash .situationExchange) {e e' : Situation}
    (he : known .situationExchange e) (he' : known .situationExchange e')
    (hsame : hash e.projection = hash e'.projection) : e = e' :=
  Situation.projection_eq_iff.1 (hapart e e' he he' hsame)

/-! ## What was sent -/

/-- A value that was sent for a record, with the number of the task that sent it. -/
structure Sent where
  task : Nat
  key : RecordKey
  value : Situation
deriving DecidableEq

namespace Sent

variable {k : RecordKey} {v : Situation} {sent sent' : List Sent}

/-- The value that was sent last for a record. -/
def IsLast (k : RecordKey) (v : Situation) (sent : List Sent) : Prop :=
  ∃ n earlier later, sent = earlier ++ ⟨n, k, v⟩ :: later ∧ ∀ entry ∈ later, entry.key ≠ k

/-- The value that was sent for a record by the task that was spawned last of those that sent
one. -/
def IsLatest (k : RecordKey) (v : Situation) (sent : List Sent) : Prop :=
  ∃ n, ⟨n, k, v⟩ ∈ sent ∧ ∀ entry ∈ sent, entry.key = k → entry.task < n ∨ entry = ⟨n, k, v⟩

/-- Whether the tasks that sent a record ran in the order in which they were spawned. -/
def InTurn (k : RecordKey) (sent : List Sent) : Prop :=
  (sent.filter fun entry => entry.key = k).Pairwise fun entry entry' => entry.task ≤ entry'.task

/-- Where a task and all later ones sent the same value, this is the value of the latest one. -/
theorem isLatest_of_all {n : Nat} (hmem : ⟨n, k, v⟩ ∈ sent)
    (hall : ∀ entry ∈ sent, entry.key = k → n ≤ entry.task → entry.value = v) :
    IsLatest k v sent := by
  have hown : ⟨n, k, v⟩ ∈ sent.toFinset.filter fun entry => entry.key = k :=
    Finset.mem_filter.2 ⟨List.mem_toFinset.2 hmem, rfl⟩
  obtain ⟨⟨m, k', v'⟩, hlatest, hmax⟩ := Finset.exists_max_image _ task ⟨_, hown⟩
  obtain ⟨hmem', rfl⟩ := Finset.mem_filter.1 hlatest
  have hlater : n ≤ m := hmax _ hown
  obtain rfl : v' = v := hall _ (List.mem_toFinset.1 hmem') rfl hlater
  refine ⟨m, List.mem_toFinset.1 hmem', fun entry hentry hkey => ?_⟩
  rcases Nat.lt_or_eq_of_le
    (hmax entry (Finset.mem_filter.2 ⟨List.mem_toFinset.2 hentry, hkey⟩)) with hearlier | hsame
  · exact Or.inl hearlier
  · have hvalue := hall entry hentry hkey (hsame ▸ hlater)
    obtain ⟨n', k'', v''⟩ := entry
    obtain rfl : n' = m := hsame
    obtain rfl : k'' = k' := hkey
    exact Or.inr (congrArg _ hvalue)

/-- If the tasks ran in turn, it is the value that was sent last. -/
theorem isLast_of_inTurn {n : Nat} (hmem : ⟨n, k, v⟩ ∈ sent)
    (hall : ∀ entry ∈ sent, entry.key = k → n ≤ entry.task → entry.value = v)
    (hturn : InTurn k sent) : IsLast k v sent := by
  have hsome : (sent.reverse.find? fun entry => entry.key = k).isSome = true :=
    List.find?_isSome.2 ⟨_, List.mem_reverse.2 hmem, decide_eq_true rfl⟩
  obtain ⟨⟨m, k', v'⟩, hlast⟩ := Option.isSome_iff_exists.1 hsome
  obtain ⟨hkey, later, earlier, hsplit, hlater⟩ := List.find?_eq_some_iff_append.1 hlast
  obtain rfl : k' = k := of_decide_eq_true hkey
  have hsent : sent = earlier.reverse ++ ⟨m, k', v'⟩ :: later.reverse := by
    rw [← List.reverse_reverse sent, hsplit, List.reverse_append, List.reverse_cons,
      List.append_assoc]
    rfl
  have hnone : ∀ entry ∈ later.reverse, entry.key ≠ k' := by
    intro entry hentry
    simpa using hlater entry (List.mem_reverse.1 hentry)
  refine ⟨m, earlier.reverse, later.reverse, ?_, hnone⟩
  -- The task that sent the last value is not an earlier one.
  have hle : n ≤ m := by
    rw [hsent] at hmem
    rcases List.mem_append.1 hmem with hbefore | hrest
    · rw [InTurn, hsent, List.filter_append] at hturn
      exact (List.pairwise_append.1 hturn).2.2 _ (List.mem_filter.2 ⟨hbefore, hkey⟩) _
        (List.mem_filter.2 ⟨List.mem_cons_self, hkey⟩)
    · rcases List.mem_cons.1 hrest with hown | hafter
      · exact Nat.le_of_eq (congrArg task hown)
      · exact absurd rfl (hnone _ hafter)
  obtain rfl : v' = v :=
    hall ⟨m, k', v'⟩ (hsent ▸ List.mem_append_right _ List.mem_cons_self) rfl hle
  exact hsent

end Sent

/-! ## Tasks that have run and tasks that wait -/

namespace Spawned

/-- Whether a task tells a subscription of a record that it takes. -/
def Tells (s : Subscription) (k : RecordKey) : Spawned → Prop
  | .change .situationExchange _ changed => ∃ v, (k, v) ∈ changed
  | .change _ _ _ => False
  | .snapshot s' => s' = s

/-- Whether a task has nothing to tell of a record but values with a fingerprint. What a snapshot
tells is what is stored when it runs. -/
def Says (hash : String → Fingerprint) (k : RecordKey) (print : Fingerprint) : Spawned → Prop
  | .change .situationExchange _ changed => ∀ v, (k, v) ∈ changed → hash v.projection = print
  | .change _ _ _ => True
  | .snapshot _ => True

end Spawned

/-- Whether a task that has run or waits tells a subscription of a record, and neither it nor a task
that was spawned later tells anything but values with a fingerprint. -/
def Outlook (hash : String → Fingerprint) (s : Subscription) (k : RecordKey) (print : Fingerprint)
    (sent : List Sent) (tasks : List (Spawned × Nat)) : Prop :=
  ∃ n, ((∃ v, ⟨n, k, v⟩ ∈ sent) ∨ ∃ t, (t, n) ∈ tasks ∧ t.Tells s k) ∧
    (∀ entry ∈ sent, entry.key = k → n ≤ entry.task → hash entry.value.projection = print) ∧
    ∀ task ∈ tasks, n ≤ task.2 → task.1.Says hash k print

namespace Hub

/-- What a task sends to the subscription with an identifier: of a change what the live subscription
takes, and the snapshot if it is for this one. -/
def sends (h : Hub) (id : String) : Spawned → List (RecordKey × Situation)
  | .change .situationExchange _ changed =>
    match h.registry.get? h.now id with
    | some s => changed.filter fun entry =>
        s.takes .situationExchange Situation.profile entry.1 entry.2
    | none => []
  | .change _ _ _ => []
  | .snapshot s => if s.id = id then h.snapshotRecords .situationExchange s else []

variable {h : Hub} {config : HubConfig} {producer : String} {hash : String → Fingerprint}
  {known : Known} {id : String} {s : Subscription}

/-- What a change sends is what is selected of it, if the dataset is one that the subscription
takes. -/
theorem map_sends_change (hlive : h.registry.get? h.now id = some s)
    (hkind : s.kind = .situationExchange) {k : DataKind} {dataset : String}
    {changed : List (RecordKey × k.Entity)}
    (hdataset : ∀ entry ∈ changed, entry.1.dataset = dataset) :
    (h.sends id (.change k dataset changed)).map (fun entry => entry.2.toJson) =
      if s.concerns k dataset && s.filter.acceptsDataset dataset then
        (Dispatcher.selected k.profile s (changed.map (·.2))).map k.profile.toJson
      else [] := by
  by_cases hsituations : k = .situationExchange
  · subst hsituations
    have htakes : h.sends id (.change .situationExchange dataset changed) =
        changed.filter fun entry =>
          (s.concerns .situationExchange dataset && s.filter.acceptsDataset dataset) &&
            Situation.profile.selects s.filter entry.2 := by
      rw [sends, hlive]
      refine List.filter_congr fun entry hentry => ?_
      rw [Subscription.takes, hdataset entry hentry]
    rw [htakes]
    cases s.concerns .situationExchange dataset && s.filter.acceptsDataset dataset with
    | false => simp
    | true =>
      rw [if_pos rfl, Dispatcher.selected, List.filter_map, List.map_map]
      rfl
  · have hother : s.concerns k dataset = false := by
      rw [Subscription.concerns, hkind, decide_eq_false (Ne.symm hsituations), Bool.false_and]
    have hnone : h.sends id (.change k dataset changed) = [] := by
      cases k with
      | situationExchange => exact absurd rfl hsituations
      | _ => rfl
    rw [hother, hnone]
    rfl

/-- What a task sends to a live subscription is posted to it, and nothing else. -/
theorem sends_posts (hready : h.Ready config producer hash) {t : Spawned} (hsound : t.Sound)
    (hsmooth : (h.runSpawned t).Smooth)
    (hlive : (h.runSpawned t).registry.get? (h.runSpawned t).now id = some s) :
    h.registry.get? h.now id = some s ∧ (s.kind = .situationExchange →
      ∃ posts, (h.runSpawned t).posts = h.posts ++ posts ∧
        itemsTo id posts = (h.sends id t).map fun entry => entry.2.toJson) := by
  cases t with
  | change k dataset changed =>
    obtain ⟨hchanged, hdataset⟩ := hsound
    obtain ⟨hbefore, posts, hposts, hitems⟩ := change_posts hready hchanged hsmooth hlive
    exact ⟨hbefore, fun hkind =>
      ⟨posts, hposts, hitems.trans (map_sends_change hbefore hkind hdataset).symm⟩⟩
  | snapshot s' =>
    have hkind' : s'.kind = .situationExchange := hsound
    obtain ⟨hbefore, posts, hposts, hitems⟩ := snapshot_posts hready hsmooth id
    refine ⟨hbefore s hlive, fun _ => ⟨posts, hposts, hitems.trans ?_⟩⟩
    rw [sends]
    split
    · rw [hkind', snapshot_eq, List.map_map]
      rfl
    · rfl

/-- A task that tells a live subscription of a stored record which it takes, with the fingerprint
that is stored, sends it what is stored. -/
theorem mem_sends_of_tells (hready : h.Ready config producer hash)
    (hapart : known.Apart hash .situationExchange) {t : Spawned} (hknown : t.Conveys known)
    (hlive : h.registry.get? h.now id = some s) (hkind : s.kind = .situationExchange)
    {k : RecordKey} {e : Situation} (he : h.feeds.situations.store.get? h.now k = some e)
    (hstored : known .situationExchange e)
    (htakes : s.takes .situationExchange Situation.profile k e = true) (htells : t.Tells s k)
    (hprint : t.Says hash k (hash e.projection)) : (k, e) ∈ h.sends id t := by
  cases t with
  | change kind dataset changed =>
    cases kind with
    | situationExchange =>
      obtain ⟨v, hv⟩ := htells
      obtain rfl : v = e := hapart.eq (hknown (k, v) hv) hstored (hprint v hv)
      rw [sends, hlive]
      exact List.mem_filter.2 ⟨hv, htakes⟩
    | _ => exact htells.elim
  | snapshot s' =>
    obtain rfl : s' = s := htells
    rw [sends, if_pos (hready.sound.dispatcher.coherent.id_of_get? hlive)]
    refine mem_snapshotRecords_of_takes hkind he ?_
    rw [(hready.exact .situationExchange).profile]
    exact htakes

/-- What a task sends came to the hub. -/
theorem known_of_mem_sends (hh : h.Conveys known producer hash) {t : Spawned}
    (hknown : t.Conveys known) {entry : RecordKey × Situation} (hentry : entry ∈ h.sends id t) :
    known .situationExchange entry.2 := by
  cases t with
  | change kind dataset changed =>
    cases kind with
    | situationExchange =>
      rw [sends] at hentry
      split at hentry
      · exact hknown entry (List.mem_filter.1 hentry).1
      · exact absurd hentry List.not_mem_nil
    | _ => exact absurd hentry List.not_mem_nil
  | snapshot s' =>
    rw [sends, List.mem_ite_nil_right] at hentry
    exact hh.stored .situationExchange entry.1 entry.2 (EntityStore.mem_entries.1 hentry.2).1

/-- A task sends of a record what it has to tell, or what is stored. -/
theorem print_of_mem_sends {t : Spawned} {k : RecordKey} {e v : Situation}
    (he : h.feeds.situations.store.get? h.now k = some e)
    (hprint : t.Says hash k (hash e.projection)) (hv : (k, v) ∈ h.sends id t) :
    hash v.projection = hash e.projection := by
  cases t with
  | change kind dataset changed =>
    cases kind with
    | situationExchange =>
      rw [sends] at hv
      split at hv
      · exact hprint v (List.mem_filter.1 hv).1
      · exact absurd hv List.not_mem_nil
    | _ => exact absurd hv List.not_mem_nil
  | snapshot s' =>
    rw [sends, List.mem_ite_nil_right] at hv
    have hlookup := (EntityStore.mem_entries.1 hv.2).1
    rw [Option.some.inj (hlookup.symm.trans he)]

/-- When a task runs, it sends what it has to tell, so that the outlook stays. -/
theorem outlook_work (hready : h.Ready config producer hash)
    (hapart : known.Apart hash .situationExchange) {place n : Nat} {t : Spawned}
    {tasks : List (Spawned × Nat)} (hwaits : tasks[place]? = some (t, n))
    (hknown : t.Conveys known) (hlive : h.registry.get? h.now id = some s)
    (hkind : s.kind = .situationExchange) {k : RecordKey} {e : Situation}
    (he : h.feeds.situations.store.get? h.now k = some e) (hstored : known .situationExchange e)
    (htakes : s.takes .situationExchange Situation.profile k e = true) {sent : List Sent}
    (houtlook : Outlook hash s k (hash e.projection) sent tasks) :
    Outlook hash s k (hash e.projection)
      (sent ++ (h.sends id t).map fun entry => ⟨n, entry.1, entry.2⟩) (tasks.eraseIdx place) := by
  obtain ⟨m, htells, hsent, htasks⟩ := houtlook
  have hmem : (t, n) ∈ tasks := List.mem_of_getElem? hwaits
  refine ⟨m, ?_, fun entry hentry hkey hlater => ?_, fun task htask =>
    htasks task (List.mem_of_mem_eraseIdx htask)⟩
  · rcases htells with ⟨v, hv⟩ | ⟨t', ht', htells⟩
    · exact Or.inl ⟨v, List.mem_append_left _ hv⟩
    obtain ⟨i, hi⟩ := List.mem_iff_getElem?.1 ht'
    by_cases hplace : i = place
    · subst hplace
      obtain ⟨rfl, rfl⟩ : t = t' ∧ n = m := Prod.mk.inj (Option.some.inj (hwaits.symm.trans hi))
      have hsends : (k, e) ∈ h.sends id t := mem_sends_of_tells hready hapart hknown hlive hkind he
        hstored htakes htells (htasks _ hmem (Nat.le_refl n))
      exact Or.inl ⟨e, List.mem_append_right _ (List.mem_map_of_mem hsends)⟩
    · exact Or.inr ⟨t', List.mem_eraseIdx_iff_getElem?.2 ⟨i, hplace, hi⟩, htells⟩
  · rcases List.mem_append.1 hentry with hold | hnew
    · exact hsent entry hold hkey hlater
    · obtain ⟨⟨k', v⟩, hv, rfl⟩ := List.mem_map.1 hnew
      obtain rfl : k' = k := hkey
      exact print_of_mem_sends he (htasks _ hmem hlater) hv

/-- How the tasks of a call stand to a record that is live after it. Either the record says what it
said before and they have nothing else to tell, or the one task that there is tells what it says
now. -/
def Foretells (h : Hub) (hash : String → Fingerprint) (s : Subscription) (tasks : List Spawned)
    (k : RecordKey) (e' : Situation) : Prop :=
  (∃ e, h.feeds.situations.store.get? h.now k = some e ∧
    hash e.projection = hash e'.projection ∧
    ∀ t ∈ tasks, t.Says hash k (hash e'.projection)) ∨
  ∃ t, tasks = [t] ∧ t.Tells s k ∧ t.Says hash k (hash e'.projection)

/-- A batch leaves what it changes to a task, which tells of every record that it changes and of no
other. -/
theorem foretells_situations (hready : h.Ready config producer hash) (dataset : String)
    (batch : Batch .situationExchange) (hheard : h.registry.size h.now ≠ 0) {k : RecordKey}
    {e' : Situation} (he' : (h.upserted dataset batch).2.get? h.now k = some e') :
    h.Foretells hash s (h.call (.ingest .situationExchange dataset batch)).1 k e' := by
  obtain ⟨_, -, -, -, -, -, -, hcall⟩ := h.call_ingest .situationExchange dataset batch
  have hprofile := (hready.exact .situationExchange).profile
  have hexact : (h.feeds.get .situationExchange).store.ChecksumsExact h.now :=
    (hready.exact .situationExchange).checksums
  rw [hcall]
  by_cases hchanged : k ∈ (h.upserted dataset batch).1.changedKeys
  · obtain ⟨⟨k, v⟩, hreported, rfl⟩ := List.mem_map.1 (EntityStore.mem_changedKeys.1 hchanged)
    have hspawns : ¬ ((h.changedBy dataset batch).isEmpty || h.registry.size h.now = 0) = true := by
      rw [Bool.or_eq_true, List.isEmpty_iff, decide_eq_true_eq]
      exact not_or_intro (List.ne_nil_of_mem (List.mem_map_of_mem hreported)) hheard
    rw [if_neg hspawns]
    refine Or.inr ⟨_, rfl, ⟨v, hreported⟩, fun v hv => ?_⟩
    have hsame := hexact.stored_says_reported dataset _ hv he'
    rw [hprofile] at hsame
    exact (Except.ok.inj hsame).symm
  · obtain ⟨e, he, hsame⟩ := hexact.agrees_of_unreported dataset _ hchanged e' he'
    rw [hprofile] at hsame
    refine Or.inl ⟨e, he, Except.ok.inj hsame, fun t ht => ?_⟩
    split at ht
    · exact absurd ht List.not_mem_nil
    · rw [List.mem_singleton.1 ht]
      exact fun v hv => absurd (EntityStore.mem_changedKeys.2 (List.mem_map.2 ⟨(k, v), hv, rfl⟩))
        hchanged

/-- A batch of another kind leaves nothing to its task that tells of situations. -/
theorem foretells_of_ne {kind : DataKind} (hother : kind ≠ .situationExchange) (dataset : String)
    (batch : Batch kind) {k : RecordKey} {e : Situation}
    (he : h.feeds.situations.store.get? h.now k = some e) :
    h.Foretells hash s (h.call (.ingest kind dataset batch)).1 k e := by
  obtain ⟨_, -, -, -, -, -, -, hcall⟩ := h.call_ingest kind dataset batch
  refine Or.inl ⟨e, he, rfl, fun t ht => ?_⟩
  rw [hcall] at ht
  split at ht
  · exact absurd ht List.not_mem_nil
  · rw [List.mem_singleton.1 ht]
    cases kind with
    | situationExchange => exact absurd rfl hother
    | _ => trivial

end Hub

/-- A hub, whose tasks may lag behind, with what it sent to the subscription with an identifier. -/
structure Watch extends Lagging where
  /-- What a request for the identifier was accepted with last. -/
  accepted : Option Subscription := none
  /-- How many posts had been made then. -/
  before : Nat := 0
  /-- What was sent since, record by record. -/
  sent : List Sent := []

namespace Watch

/-- A request that is accepted for the identifier starts the account anew. -/
def next (id : String) (w : Watch) : LaggingOp → Watch
  | .call op =>
    let toLagging := w.toLagging.next (.call op)
    match op with
    | .subscribe fresh request =>
      match (w.hub.subscribe fresh request).1 with
      | .ok s =>
        if s.id = id then
          { toLagging, accepted := some s, before := w.hub.posts.length, sent := [] }
        else { w with toLagging }
      | .error _ => { w with toLagging }
    | _ => { w with toLagging }
  | .work place =>
    match w.tasks[place]? with
    | some (t, n) =>
      { w with
        toLagging := w.toLagging.next (.work place)
        sent := w.sent ++ (w.hub.sends id t).map fun entry => ⟨n, entry.1, entry.2⟩ }
    | none => w

def run (id : String) (w : Watch) (ops : List LaggingOp) : Watch := ops.foldl (next id) w

theorem next_of_quiet (id : String) (w : Watch) {op : HubOp} (hquiet : op.IsQuiet) :
    w.next id (.call op) = { w with toLagging := w.toLagging.next (.call op) } := by
  cases op with
  | subscribe => exact hquiet.elim
  | _ => rfl

theorem work_cases (id : String) (w : Watch) (place : Nat) :
    (w.toLagging.next (.work place) = w.toLagging ∧ w.next id (.work place) = w) ∨
    ∃ t n, w.tasks[place]? = some (t, n) ∧
      w.toLagging.next (.work place) = { w.toLagging with
        hub := w.hub.runSpawned t, tasks := w.tasks.eraseIdx place } ∧
      w.next id (.work place) = { w with
        hub := w.hub.runSpawned t
        tasks := w.tasks.eraseIdx place
        sent := w.sent ++ (w.hub.sends id t).map fun entry => ⟨n, entry.1, entry.2⟩ } := by
  rcases w.toLagging.work_cases place with ⟨hwaits, hnext⟩ | ⟨t, n, hwaits, hnext⟩
  · exact Or.inl ⟨hnext, by simp only [next, hwaits]⟩
  · exact Or.inr ⟨t, n, hwaits, hnext, by simp only [next, hwaits, hnext]⟩

theorem toLagging_next (id : String) (w : Watch) (op : LaggingOp) :
    (w.next id op).toLagging = w.toLagging.next op := by
  cases op with
  | call op =>
    unfold next
    dsimp only
    split
    · split
      · split <;> rfl
      · rfl
    · rfl
  | work place =>
    rcases w.work_cases id place with ⟨hlagging, hnext⟩ | ⟨t, n, -, hlagging, hnext⟩
    · rw [hlagging, hnext]
    · rw [hlagging, hnext]

theorem toLagging_run (id : String) (w : Watch) (ops : List LaggingOp) :
    (w.run id ops).toLagging = w.toLagging.run ops := by
  induction ops generalizing w with
  | nil => rfl
  | cons op rest ih =>
    show ((w.next id op).run id rest).toLagging = (w.toLagging.next op).run rest
    rw [ih, toLagging_next]

/-- What was sent agrees with the posts, and of every record that a live subscription takes it tells
what is stored, or will once the tasks that wait have run. -/
structure Mirrors (id : String) (known : Known) (hash : String → Fingerprint) (w : Watch) :
    Prop where
  before_le : w.before ≤ w.hub.posts.length
  sent_lt : ∀ entry ∈ w.sent, entry.task < w.spawned
  tasks_lt : ∀ task ∈ w.tasks, task.2 < w.spawned
  sent_known : ∀ entry ∈ w.sent, known .situationExchange entry.value
  accepted : ∀ s, w.hub.registry.get? w.hub.now id = some s → w.accepted = some s
  posted : ∀ s, w.hub.registry.get? w.hub.now id = some s → s.kind = .situationExchange →
    itemsTo id (w.hub.posts.drop w.before) = w.sent.map fun entry => entry.value.toJson
  outlook : ∀ s, w.hub.registry.get? w.hub.now id = some s → s.kind = .situationExchange →
    ∀ k e, w.hub.feeds.situations.store.get? w.hub.now k = some e →
      s.takes .situationExchange Situation.profile k e = true →
      Outlook hash s k (hash e.projection) w.sent w.tasks

variable {id : String} {w : Watch} {h' : Hub} {tasks : List Spawned} {config : HubConfig}
  {producer : String} {hash : String → Fingerprint} {known : Known}

theorem mirrors_new (id : String) (known : Known) (config : HubConfig) (producer : String)
    (clock : Clock) (hash : String → Fingerprint) :
    Mirrors id known hash { hub := Hub.new config (.json producer) clock hash } := by
  have hnone (s : Subscription)
      (hs : (Hub.new config (.json producer) clock hash).registry.get? clock.now id = some s) :
      False := nomatch (Registry.get?_empty clock.now id).symm.trans hs
  exact ⟨Nat.zero_le _, fun _ hnil => absurd hnil List.not_mem_nil,
    fun _ hnil => absurd hnil List.not_mem_nil, fun _ hnil => absurd hnil List.not_mem_nil,
    fun s hs => (hnone s hs).elim, fun s hs => (hnone s hs).elim,
    fun s hs => (hnone s hs).elim⟩

/-- A call that does not bring the subscription posts nothing of records to it. So the outlook
stays, if every record that is live says what it said before, or is left to the new task. -/
theorem Mirrors.call (hm : w.Mirrors id known hash) (hapart : known.Apart hash .situationExchange)
    (hpath : Hub.Moves w.hub h') (hknown : w.hub.Conveys known producer hash)
    (hknown' : h'.Conveys known producer hash)
    (hlive : ∀ s, h'.registry.get? h'.now id = some s →
      w.hub.registry.get? w.hub.now id = some s ∧
        ∃ posts, h'.posts = w.hub.posts ++ posts ∧ itemsTo id posts = [])
    (hforetells : ∀ s, h'.registry.get? h'.now id = some s → s.kind = .situationExchange →
      ∀ k e', h'.feeds.situations.store.get? h'.now k = some e' →
        w.hub.Foretells hash s tasks k e') :
    Mirrors id known hash { w with
      hub := h'
      tasks := w.tasks ++ tasks.zipIdx w.spawned
      spawned := w.spawned + tasks.length } := by
  refine ⟨Nat.le_trans hm.before_le hpath.posts_le, fun entry hentry =>
    Nat.lt_add_right _ (hm.sent_lt entry hentry), fun task htask => ?_, hm.sent_known,
    fun s hs => hm.accepted s (hlive s hs).1, fun s hs hkind => ?_,
    fun s hs hkind k e' he' htakes => ?_⟩
  · rcases List.mem_append.1 htask with hold | hnew
    · exact Nat.lt_add_right _ (hm.tasks_lt task hold)
    · exact List.snd_lt_add_of_mem_zipIdx hnew
  · obtain ⟨hbefore, posts, hposts, hnone⟩ := hlive s hs
    show itemsTo id (h'.posts.drop w.before) = _
    rw [hposts, List.drop_append_of_le_length hm.before_le, itemsTo_append, hnone, List.append_nil]
    exact hm.posted s hbefore hkind
  · have hstored' : known .situationExchange e' := hknown'.stored .situationExchange k e' he'
    rcases hforetells s hs hkind k e' he' with ⟨e, he, hsame, hprint⟩ | ⟨t, rfl, htells, hprint⟩
    · obtain rfl : e = e' := hapart.eq (hknown.stored .situationExchange k e he) hstored' hsame
      obtain ⟨n, htold, hsent, htasks⟩ := hm.outlook s (hlive s hs).1 hkind k e he htakes
      refine ⟨n, ?_, hsent, fun task htask hlater => ?_⟩
      · rcases htold with hsome | ⟨t, ht, htells⟩
        · exact Or.inl hsome
        · exact Or.inr ⟨t, List.mem_append_left _ ht, htells⟩
      · rcases List.mem_append.1 htask with hold | hnew
        · exact htasks task hold hlater
        · exact hprint task.1 (List.fst_mem_of_mem_zipIdx hnew)
    · -- The new task is later than all others.
      refine ⟨w.spawned, Or.inr ⟨t, List.mem_append_right _ List.mem_cons_self, htells⟩,
        fun entry hentry _ hlater => absurd (hm.sent_lt entry hentry) (Nat.not_lt.2 hlater),
        fun task htask hlater => ?_⟩
      rcases List.mem_append.1 htask with hold | hnew
      · exact absurd (hm.tasks_lt task hold) (Nat.not_lt.2 hlater)
      · rw [List.mem_singleton.1 (List.fst_mem_of_mem_zipIdx hnew)]
        exact hprint

theorem Mirrors.quiet (hm : w.Mirrors id known hash) (hready : w.hub.Ready config producer hash)
    (hapart : known.Apart hash .situationExchange) (hpath : Hub.Quietly w.hub h')
    (hknown : w.hub.Conveys known producer hash) (hknown' : h'.Conveys known producer hash)
    (hnone : tasks = []) (hsmooth : h'.Smooth) :
    Mirrors id known hash { w with
      hub := h'
      tasks := w.tasks ++ tasks.zipIdx w.spawned
      spawned := w.spawned + tasks.length } := by
  subst hnone
  obtain ⟨-, posts, hposts, hnone⟩ := hpath.bare hready.bare hsmooth.immediate
  refine hm.call hapart hpath.moves hknown hknown'
    (fun s hs => ⟨?_, posts, hposts, itemsTo_eq_nil hnone⟩)
    fun s hs hkind k e' he' => Or.inl ?_
  · exact Registry.get?_of_slot?_of (fun _ hslot => hpath.slot?_of hslot) hs
  · obtain ⟨e, he, hsame⟩ := hpath.agrees (hready.exact .situationExchange) he'
    exact ⟨e, he, Except.ok.inj hsame, fun _ hnil => absurd hnil List.not_mem_nil⟩

/-- A batch leaves what it changes to a task that is later than all others. -/
theorem Mirrors.ingest (hm : w.Mirrors id known hash) (hready : w.hub.Ready config producer hash)
    (hapart : known.Apart hash .situationExchange) (kind : DataKind) (dataset : String)
    (batch : Batch kind) (hknown : w.hub.Conveys known producer hash)
    (hknown' : (w.hub.call (.ingest kind dataset batch)).2.Conveys known producer hash)
    (hsmooth : (w.hub.call (.ingest kind dataset batch)).2.Smooth) :
    Mirrors id known hash { w with
      toLagging := w.toLagging.next (.call (.ingest kind dataset batch)) } := by
  obtain ⟨hcarries, feed, hstore, hfeeds⟩ :=
    Hub.call_ingest_carries hready kind dataset batch hsmooth
  refine hm.call hapart (w.hub.moves_call _) hknown hknown'
    (fun s hs => ⟨Hub.get?_of_carries hcarries hs, hcarries.itemsTo id⟩)
    fun s hs hkind k e' he' => ?_
  rw [hfeeds, Hub.now, hcarries.clock] at he'
  by_cases hsituations : kind = .situationExchange
  · subst hsituations
    have hstored : (w.hub.upserted dataset batch).2.get? w.hub.now k = some e' := by
      rw [← hstore]
      exact he'
    exact Hub.foretells_situations hready dataset batch
      (Registry.size_ne_zero_of_live (Hub.get?_of_carries hcarries hs)) hstored
  · have hsame : (w.hub.feeds.set kind feed).situations = w.hub.feeds.situations :=
      Feeds.get_set_of_ne (k := kind) _ feed hsituations
    rw [hsame] at he'
    exact Hub.foretells_of_ne hsituations dataset batch he'

/-- A request that is accepted for the identifier leaves the snapshot to a task that is later than
all others; any other request is not seen. -/
theorem Mirrors.subscribe (hm : w.Mirrors id known hash) (hready : w.hub.Ready config producer hash)
    (hapart : known.Apart hash .situationExchange) (fresh : String)
    (request : SubscriptionRequest) (hknown : w.hub.Conveys known producer hash)
    (hknown' : (w.hub.call (.subscribe fresh request)).2.Conveys known producer hash)
    (hsmooth : (w.hub.call (.subscribe fresh request)).2.Smooth) :
    Mirrors id known hash (w.next id (.call (.subscribe fresh request))) := by
  have hpath := w.hub.moves_call (.subscribe fresh request)
  unfold Watch.next
  dsimp only
  rcases w.hub.call_subscribe fresh request with
    ⟨e, hrefused, hnone, hquiet⟩ | ⟨s, ttl, es, hpos, haccepted, hcall⟩
  · rw [hrefused]
    exact hm.quiet hready hapart hquiet hknown hknown' hnone hsmooth
  have hslot (s' : Subscription) (hs' : (w.hub.call (.subscribe fresh request)).2.registry.get?
      (w.hub.call (.subscribe fresh request)).2.now id = some s') :
      (if s.id = id then some s else w.hub.registry.get? w.hub.now id) = some s' := by
    rw [hcall] at hs'
    rw [← Registry.get?_refresh_put _ _ _ hpos]
    exact hs'
  rw [haccepted]
  dsimp only
  split
  · next hid =>
    have hsame (s' : Subscription) (hs' : (w.hub.call (.subscribe fresh request)).2.registry.get?
        (w.hub.call (.subscribe fresh request)).2.now id = some s') : s = s' := by
      have hs := hslot s' hs'
      rw [if_pos hid] at hs
      exact Option.some.inj hs
    have hposts : (w.hub.call (.subscribe fresh request)).2.posts = w.hub.posts := by
      rw [hcall]
      rfl
    refine ⟨hpath.posts_le, fun _ hnil => absurd hnil List.not_mem_nil, fun task htask => ?_,
      fun _ hnil => absurd hnil List.not_mem_nil, fun s' hs' => congrArg some (hsame s' hs'),
      fun s' hs' hkind => ?_, fun s' hs' hkind k e he htakes => ?_⟩
    · rcases List.mem_append.1 htask with hold | hnew
      · exact Nat.lt_add_right _ (hm.tasks_lt task hold)
      · exact List.snd_lt_add_of_mem_zipIdx hnew
    · show itemsTo id ((w.hub.call (.subscribe fresh request)).2.posts.drop w.hub.posts.length) = []
      rw [hposts, List.drop_length]
      rfl
    · obtain rfl := hsame s' hs'
      refine ⟨w.spawned, Or.inr ⟨.snapshot s, List.mem_append_right _ ?_, rfl⟩,
        fun _ hnil => absurd hnil List.not_mem_nil, fun task htask hlater => ?_⟩
      · rw [hcall, if_pos hkind]
        exact List.mem_cons_self
      · rcases List.mem_append.1 htask with hold | hnew
        · exact absurd (hm.tasks_lt task hold) (Nat.not_lt.2 hlater)
        · rw [hcall, if_pos hkind] at hnew
          rw [List.mem_singleton.1 (List.fst_mem_of_mem_zipIdx hnew)]
          trivial
  · next hid =>
    refine hm.call hapart hpath hknown hknown' (fun s' hs' => ⟨?_, [], ?_, rfl⟩)
      fun s' hs' hkind k e' he' => Or.inl ?_
    · have hs := hslot s' hs'
      rwa [if_neg hid] at hs
    · rw [hcall, List.append_nil]
      rfl
    · rw [hcall] at he'
      refine ⟨e', he', rfl, fun t ht => ?_⟩
      rw [hcall] at ht
      rw [List.mem_singleton.1 (List.mem_ite_nil_right.1 ht).2]
      trivial

/-- A task that runs sends what it has to tell. -/
theorem Mirrors.work (hm : w.Mirrors id known hash)
    (hready : w.toLagging.Ready config producer hash) (hapart : known.Apart hash .situationExchange)
    (hknown : w.toLagging.Conveys known producer hash) (place : Nat)
    (hsmooth : (w.toLagging.next (.work place)).hub.Smooth) :
    Mirrors id known hash (w.next id (.work place)) := by
  rcases w.work_cases id place with ⟨-, hnext⟩ | ⟨t, n, hwaits, hlagging, hnext⟩
  · rwa [hnext]
  rw [hlagging] at hsmooth
  rw [hnext]
  have hmem : (t, n) ∈ w.tasks := List.mem_of_getElem? hwaits
  have hlive (s : Subscription)
      (hs : (w.hub.runSpawned t).registry.get? (w.hub.runSpawned t).now id = some s) :=
    Hub.sends_posts hready.hub (hready.tasks _ hmem) hsmooth hs
  refine ⟨Nat.le_trans hm.before_le (w.hub.moves_runSpawned t).posts_le, fun entry hentry => ?_,
    fun task htask => hm.tasks_lt task (List.mem_of_mem_eraseIdx htask), fun entry hentry => ?_,
    fun s hs => hm.accepted s (hlive s hs).1, fun s hs hkind => ?_,
    fun s hs hkind k e he htakes => ?_⟩
  · rcases List.mem_append.1 hentry with hold | hnew
    · exact hm.sent_lt entry hold
    · obtain ⟨_, -, rfl⟩ := List.mem_map.1 hnew
      exact hm.tasks_lt _ hmem
  · rcases List.mem_append.1 hentry with hold | hnew
    · exact hm.sent_known entry hold
    · obtain ⟨entry', hentry', rfl⟩ := List.mem_map.1 hnew
      exact Hub.known_of_mem_sends hknown.hub (hknown.tasks _ hmem) hentry'
  · obtain ⟨hbefore, hposts⟩ := hlive s hs
    obtain ⟨posts, hposts, hitems⟩ := hposts hkind
    show itemsTo id ((w.hub.runSpawned t).posts.drop w.before) =
      (w.sent ++ (w.hub.sends id t).map _).map _
    rw [hposts, List.drop_append_of_le_length hm.before_le, itemsTo_append,
      hm.posted s hbefore hkind, List.map_append, hitems, List.map_map]
    rfl
  · obtain ⟨hbefore, -⟩ := hlive s hs
    have hstored : w.hub.feeds.situations.store.get? w.hub.now k = some e := by
      rw [← w.hub.feeds_runSpawned t, Hub.now, ← w.hub.clock_runSpawned t]
      exact he
    exact Hub.outlook_work hready.hub hapart hwaits (hknown.tasks _ hmem) hbefore hkind hstored
      (hknown.hub.stored .situationExchange k e hstored) htakes
      (hm.outlook s hbefore hkind k e hstored htakes)

/-- An operation on which nothing is lost keeps the outlook. -/
theorem Mirrors.next (hm : w.Mirrors id known hash)
    (hready : w.toLagging.Ready config producer hash) (hapart : known.Apart hash .situationExchange)
    (hknown : w.toLagging.Conveys known producer hash) (op : LaggingOp)
    (hknown' : (w.toLagging.next op).Conveys known producer hash)
    (hsmooth : (w.toLagging.next op).hub.Smooth) : Mirrors id known hash (w.next id op) := by
  cases op with
  | work place => exact hm.work hready hapart hknown place hsmooth
  | call op =>
    by_cases hquiet : op.IsQuiet
    · rw [next_of_quiet id w hquiet]
      exact hm.quiet hready.hub hapart (w.hub.quietly_call hquiet) hknown.hub hknown'.hub
        (congrArg Prod.fst (w.hub.call_of_quiet hquiet)) hsmooth
    · cases op with
      | ingest kind dataset batch =>
        exact hm.ingest hready.hub hapart kind dataset batch hknown.hub hknown'.hub hsmooth
      | subscribe fresh request =>
        exact hm.subscribe hready.hub hapart fresh request hknown.hub hknown'.hub hsmooth
      | _ => exact (hquiet trivial).elim

/-- Nothing was lost at any moment of a run if nothing was lost at its end, so the outlook stays
over each operation. -/
theorem Mirrors.run (hm : w.Mirrors id known hash) (hready : w.toLagging.Ready config producer hash)
    (hapart : known.Apart hash .situationExchange)
    (hknown : w.toLagging.Conveys known producer hash) (ops : List LaggingOp)
    (hbrought : ∀ op, .call op ∈ ops → op.IsKnown known)
    (hsmooth : (w.toLagging.run ops).hub.Smooth) : Mirrors id known hash (w.run id ops) := by
  induction ops generalizing w with
  | nil => exact hm
  | cons op rest ih =>
    have hstep : (w.toLagging.next op).hub.Smooth :=
      hsmooth.earlier ((w.toLagging.next op).moves_run rest)
    have hready' := hready.next op hstep
    have hknown' : (w.toLagging.next op).Conveys known producer hash :=
      hknown.next fun op' hcall => hbrought op' (hcall ▸ List.mem_cons_self)
    have hm' := hm.next hready hapart hknown op hknown' hstep
    rw [← toLagging_next id] at hready' hknown'
    refine ih hm' hready' hknown'
      (fun op' hop' => hbrought op' (List.mem_cons_of_mem op hop')) ?_
    rw [toLagging_next]
    exact hsmooth

/-- Where two situations come to a hub, a hash tells them apart if their hashes differ. -/
theorem apart_of_two {hash : String → Fingerprint} (e e' : Situation)
    (hdiffer : hash e.projection ≠ hash e'.projection) (request : SubscriptionRequest)
    (dataset : String) (places : List Nat) :
    (Lagging.Brought ([.call (.subscribe "sub" request),
      .call (.ingest .situationExchange dataset (.entities [e])),
      .call (.ingest .situationExchange dataset (.entities [e']))] ++
        places.map .work)).Apart hash .situationExchange := by
  have hbrought (e₀ : Situation) (he₀ : Lagging.Brought ([.call (.subscribe "sub" request),
      .call (.ingest .situationExchange dataset (.entities [e])),
      .call (.ingest .situationExchange dataset (.entities [e']))] ++
        places.map .work) .situationExchange e₀) : e₀ = e ∨ e₀ = e' := by
    obtain ⟨_, _, op, hop, ⟨batch, rfl, hitem⟩, -⟩ := he₀
    simp only [List.mem_append, List.mem_map, List.mem_cons, LaggingOp.call.injEq, reduceCtorEq,
      HubOp.ingest.injEq, heq_eq_eq, true_and, List.not_mem_nil, or_false, false_or,
      and_false, exists_false] at hop
    rcases hop with ⟨-, rfl⟩ | ⟨-, rfl⟩
    · exact Or.inl (List.mem_singleton.1 hitem)
    · exact Or.inr (List.mem_singleton.1 hitem)
  intro e₁ e₂ he₁ he₂ hsame
  rcases hbrought e₁ he₁ with rfl | rfl <;> rcases hbrought e₂ he₂ with rfl | rfl
  · rfl
  · exact absurd hsame hdiffer
  · exact absurd hsame.symm hdiffer
  · rfl

end Watch

end TransitHub
