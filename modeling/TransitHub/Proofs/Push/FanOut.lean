/-
# The fan-out of a batch

What a batch changes is posted to the subscriptions that it concerns. For one of them that is: the
changed entities that its filter selects, cut into payloads, in one job. The jobs of the other
subscriptions stand around it in the queue and are not seen from it.

A hub that was shut down accepts no jobs and so posts nothing. Otherwise a job is lost only to a
full queue, which is reported.
-/

import TransitHub.Proofs.Hub.Calls
import TransitHub.Proofs.Hub.Reached
import TransitHub.Proofs.Push.Turns
import TransitHub.Proofs.Registry.Lifetime

namespace TransitHub

namespace Registry

variable {r : Registry} {c : Clock} {now : Instant} {s : Subscription}

/-- The directory has a live subscription once, and no other one has its identifier. -/
theorem Coherent.filter_entries (h : r.Coherent now) (hlive : r.get? now s.id = some s) :
    r.directory.entries.filter (fun s' => s'.id = s.id) = [s] := by
  obtain ⟨slot, hslot, hvalue⟩ := Option.map_eq_some_iff.1 hlive
  obtain ⟨before, after, hsplit⟩ := List.append_of_mem (h.listed s.id slot hslot)
  have hdistinct := h.distinct
  rw [hvalue] at hsplit
  rw [hsplit] at hdistinct ⊢
  obtain ⟨-, hafter, hbefore⟩ := List.pairwise_append.1 hdistinct
  refine List.filter_eq_cons_iff.2 ⟨before, after, rfl, fun s' hs' hid => ?_, decide_eq_true rfl,
    List.filter_eq_nil_iff.2 fun s' hs' hid => ?_⟩
  · exact hbefore s' hs' s List.mem_cons_self (of_decide_eq_true hid)
  · exact (List.pairwise_cons.1 hafter).1 s' hs' (of_decide_eq_true hid).symm

/-- A change concerns at most one subscription with the identifier of a live one, which is that
one. -/
theorem Coherent.filter_matching (h : r.Coherent c.now) (hlive : r.get? c.now s.id = some s)
    (kind : DataKind) (dataset : String) :
    (r.lookup c kind dataset).1.matching.filter (fun s' => s'.id = s.id) =
      if !s.isExpired c.wall && s.concerns kind dataset then [s] else [] := by
  have hown : (r.lookup c kind dataset).1.matching.filter (fun s' => s'.id = s.id) =
      (r.directory.entries.filter fun s' => s'.id = s.id).filter
        fun s' => !s'.isExpired c.wall && s'.concerns kind dataset := by
    rw [matching_lookup, List.filter_filter, List.filter_filter, List.filter_filter]
    refine List.filter_congr fun s' _ => ?_
    unfold Subscription.concerns
    cases decide (s'.id = s.id) <;> cases decide (s'.kind = kind) <;> simp
  rw [hown, h.filter_entries hlive, List.filter_cons, List.filter_nil]

theorem size_ne_zero_of_live {id : String} (h : r.get? now id = some s) :
    r.size now ≠ 0 := by
  obtain ⟨slot, hslot, -⟩ := TtlStore.lookup_eq_some_iff.1 h
  obtain ⟨hslot, hlive⟩ := TtlStore.live?_eq_some_iff.1 hslot
  have hmem : id ∈ r.subscriptions.slotKeys fun _ slot => slot.isLive now :=
    TtlStore.mem_slotKeys.2 ⟨slot, hslot, hlive⟩
  exact fun hzero => List.ne_nil_of_mem hmem (List.length_eq_zero_iff.1 hzero)

end Registry

namespace Dispatcher

/-- A delivery to a subscription is for that one. -/
theorem filter_delivery (producer : String) (wall : Timestamp) (kind : DataKind)
    (limit : Option Nat) (s : Subscription) (documents : List Json) (id : String) :
    (delivery producer wall kind limit s documents).filter (PushJob.isFor id) =
      if s.id = id then delivery producer wall kind limit s documents else [] := by
  have hfor : ∀ job ∈ delivery producer wall kind limit s documents,
      job.subscription.id = s.id := by
    intro job hjob
    unfold delivery at hjob
    dsimp only at hjob
    split at hjob
    · exact nomatch hjob
    · rw [List.mem_singleton.1 hjob]
  split
  · next hid =>
    exact List.filter_eq_self.2 fun job hjob => decide_eq_true ((hfor job hjob).trans hid)
  · next hid =>
    exact List.filter_eq_nil_iff.2 fun job hjob heq =>
      hid ((hfor job hjob).symm.trans (of_decide_eq_true heq))

/-- The job that a batch leads to for a subscription is for that one. -/
theorem filter_batchJob {α : Type} (producer : String) (wall : Timestamp) (p : Profile α)
    (dataset : String) (changed : List α) (limit : Subscription → Option Nat) (id : String)
    (s : Subscription) :
    (batchJob producer wall p dataset changed limit s).filter (PushJob.isFor id) =
      if s.id = id then batchJob producer wall p dataset changed limit s else [] := by
  rw [batchJob]
  split
  · exact filter_delivery ..
  · rw [ite_self]
    rfl

/-- The jobs of a batch for an identifier are those for the subscriptions that have it. -/
theorem filter_flatMap_batchJob {α : Type} (producer : String) (wall : Timestamp) (p : Profile α)
    (dataset : String) (changed : List α) (limit : Subscription → Option Nat) (id : String)
    (subscriptions : List Subscription) :
    (subscriptions.flatMap (batchJob producer wall p dataset changed limit)).filter
        (PushJob.isFor id) =
      (subscriptions.filter fun s => s.id = id).flatMap
        (batchJob producer wall p dataset changed limit) := by
  induction subscriptions with
  | nil => rfl
  | cons s rest ih =>
    rw [List.flatMap_cons, List.filter_append, ih, filter_batchJob, List.filter_cons]
    by_cases hid : s.id = id
    · rw [if_pos hid, if_pos (decide_eq_true hid), List.flatMap_cons]
    · rw [if_neg hid, if_neg (by simpa using hid), List.nil_append]

end Dispatcher

namespace Hub

/-- Among the jobs of a change there is at most one for a live subscription: the one that delivers
what its filter selects. -/
theorem filter_changeJobs {h : Hub} (hcoherent : h.registry.Coherent h.now) (producer : String)
    {k : DataKind} (dataset : String) (changed : List k.Entity) {s : Subscription}
    (hlive : h.registry.get? h.now s.id = some s) :
    (h.changeJobs producer dataset changed).filter (PushJob.isFor s.id) =
      if !s.isExpired h.clock.wall && s.concerns k dataset && s.filter.acceptsDataset dataset then
        Dispatcher.delivery producer h.clock.wall k (h.dispatcher.limit s) s
          ((Dispatcher.selected k.profile s changed).map k.profile.toJson)
      else [] := by
  rw [changeJobs, Dispatcher.filter_flatMap_batchJob,
    hcoherent.filter_matching (c := h.clock) hlive]
  by_cases hmatched : (!s.isExpired h.clock.wall && s.concerns k dataset) = true
  · rw [if_pos hmatched, hmatched, Bool.true_and, List.flatMap_singleton, Dispatcher.batchJob,
      DataKind.kind_profile]
  · rw [if_neg hmatched, Bool.eq_false_iff.2 hmatched]
    rfl

/-- A batch is posted to a subscription that it concerns, and to this one only what the batch
brings. -/
theorem fan_out_exact {h : Hub} {config : HubConfig} {producer : String}
    (hreached : h.Reached config producer)
    (hopen : h.dispatcher.pool.closed = false) (k : DataKind) (dataset : String) (batch : Batch k)
    (hchanged : h.changedBy dataset batch ≠ []) (s : Subscription)
    (hlive : h.registry.get? h.now s.id = some s) (hends : s.isExpired h.clock.wall = false)
    (hconcerns : s.concerns k dataset = true) (haccepts : s.filter.acceptsDataset dataset = true)
    (hroom : ∀ id, LogEvent.queueFull id ∉
      (h.take k dataset batch).journal.drop h.journal.length) :
    let h' := h.take k dataset batch
    let selected := Dispatcher.selected k.profile s (h.changedBy dataset batch)
    ∃ posts, h'.posts = h.posts ++ posts ∧
      (selected = [] → posts.filter (Post.isFor s.id) = [] ∧
        h'.dispatcher.pool.pendingFor s.id = h.dispatcher.pool.pendingFor s.id) ∧
      (selected ≠ [] → ∃ full last payloads rest o,
        let job : PushJob := ⟨s, payloads, payloads.length⟩
        Paging.Cuts (if s.isScoped then none else some config.maxElements.toNat)
          (selected.map k.profile.toJson) full last ∧
        payloads = full.map (fun items =>
            Payload.ofContent producer h.clock.wall s (.entities k items true)) ++
          [Payload.ofContent producer h.clock.wall s (.entities k last false)] ∧
        (∀ payload ∈ payloads, payload.headers = [("X-Subscription-Id", s.id)]) ∧
        h'.dispatcher.pool.pendingFor s.id = h.dispatcher.pool.pendingFor s.id ++ rest ∧
        job.Turns (posts.filter (Post.isFor s.id)) rest o ∧
        job.Worked (h'.registry.streaks.start? s.id = none)
          (h'.dispatcher.pool.workers ≤ h'.dispatcher.pool.running.length)
          (posts.filter (Post.isFor s.id)) rest ∧
        ∀ made left o', job.Turns made left o' →
          job.Worked (o'.registry.streaks.start? s.id = none) True made left) := by
  intro h' selected
  have hsound := hreached.sound
  have hlimit : h.dispatcher.limit s =
      if s.isScoped then none else some config.maxElements.toNat := by
    rw [Dispatcher.limit, hsound.dispatcher.maxElements]
  obtain ⟨o, es, ho, -, hpool, houtbound⟩ := (h.submits_take hsound.dispatcher.builder hchanged
    (Registry.size_ne_zero_of_live hlive)).turns hopen hroom
  have hown := filter_changeJobs hsound.dispatcher.coherent producer dataset
    (h.changedBy dataset batch) hlive
  rw [hends, hconcerns, haccepts, if_pos (by rfl), hlimit] at hown
  have hposts {posts : List Post} {settled : WorkerPool PushJob × Outbound}
      (hextends : o.Extends settled.2 posts) (hout : h'.dispatcher.outbound = settled.2.report es) :
      h'.posts = h.posts ++ posts := by
    rw [Hub.posts, hout, ← ho]
    exact hextends.posts
  by_cases hselected : selected = []
  · have hnone : (h.changeJobs producer dataset (h.changedBy dataset batch)).filter
        (PushJob.isFor s.id) = [] := by
      rw [hown, show Dispatcher.selected k.profile s (h.changedBy dataset batch) = [] from hselected]
      rfl
    obtain ⟨posts, hextends, hunseen, hpending⟩ :=
      WorkerPool.settle_others h.now hsound.atRest hnone o
    refine ⟨posts, hposts hextends houtbound, fun _ => ⟨hunseen, ?_⟩, fun hne => absurd hselected hne⟩
    rw [hpool]
    exact hpending
  · have hne : selected.map k.profile.toJson ≠ [] :=
      fun hnil => hselected (List.map_eq_nil_iff.1 hnil)
    obtain ⟨full, last, payloads, hcuts, hpayloads, hjob⟩ := Dispatcher.delivery_eq producer
      h.clock.wall k (if s.isScoped then none else some config.maxElements.toNat) s hne
    obtain ⟨posts, rest, o', hextends, hpending, hturns, hworked⟩ := WorkerPool.settle_one
      h.now hsound.atRest ⟨s, payloads, payloads.length⟩ (hown.trans hjob) o
    refine ⟨posts, hposts hextends houtbound, fun hnil => absurd hnil hselected, fun _ =>
      ⟨full, last, payloads, rest, o', hcuts, hpayloads, ?_, ?_, hturns, ?_,
        fun made left o' hturns' => hturns'.worked⟩⟩
    · intro payload hmem
      rw [hpayloads] at hmem
      rcases List.mem_append.1 hmem with hfull | hlast
      · obtain ⟨items, -, rfl⟩ := List.mem_map.1 hfull
        rfl
      · rw [List.mem_singleton.1 hlast]
        rfl
    · rw [hpool]
      exact hpending
    · refine hworked.imp (fun hclean => ?_) fun hbusy => ?_
      · rw [registry, houtbound]
        exact hclean
      · rw [hpool]
        exact hbusy

/-- Where one payload holds one entity, two messages are posted in two payloads. -/
theorem fan_out_two_messages :
    let config : HubConfig := { maxElements := 1 }
    let request : SubscriptionRequest := {
      kind := .generalMessage, address := some "http://consumer/push" }
    let h := (Hub.new config (.json "hub") ⟨.epoch, 0⟩).run [.subscribe "sub" request]
    let batch : Batch .generalMessage :=
      .entities [{ identifier := some "m" }, { identifier := some "n" }]
    let h' := h.take .generalMessage "A" batch
    h'.posts.length = 2 ∧ ∃ s posts full last, h.registry.get? h.now s.id = some s ∧
      h'.posts = h.posts ++ posts ∧
      Paging.Cuts (some 1)
        ((Dispatcher.selected InfoMessage.profile s (h.changedBy "A" batch)).map InfoMessage.toJson)
        full last ∧
      (posts.filter (Post.isFor s.id)).map Post.payload =
        (full.map (fun items =>
            Payload.ofContent "hub" .epoch s (.entities .generalMessage items true)) ++
          [Payload.ofContent "hub" .epoch s (.entities .generalMessage last false)]).take
            (posts.filter (Post.isFor s.id)).length := by
  intro config request h batch h'
  have hrun : h.dispatcher.pool.closed = false ∧ (h.changedBy "A" batch).isEmpty = false ∧
      (∀ id, LogEvent.queueFull id ∉ h'.journal.drop h.journal.length) ∧ h'.posts.length = 2 ∧
      ∃ s ∈ h.registry.get? h.now "sub", s.id = "sub" ∧ s.isExpired h.clock.wall = false ∧
        s.concerns .generalMessage "A" = true ∧ s.filter.acceptsDataset "A" = true ∧
        s.isScoped = false ∧
        (Dispatcher.selected InfoMessage.profile s (h.changedBy "A" batch)).isEmpty = false := by
    decide +kernel
  obtain ⟨hopen, hchanged, hroom, hposts, s, hlive, hid, hends, hconcerns, haccepts, hscoped,
    hselected⟩ := hrun
  rw [← hid] at hlive
  have hreached : h.Reached config "hub" := ⟨_, _, _, rfl⟩
  obtain ⟨posts, hmade, -, hsome⟩ := fan_out_exact hreached hopen .generalMessage "A" batch
    (List.isEmpty_eq_false_iff.1 hchanged) s hlive hends hconcerns haccepts hroom
  obtain ⟨full, last, payloads, rest, o, hcuts, hpayloads, -, -, -, hworked, -⟩ :=
    hsome (List.isEmpty_eq_false_iff.1 hselected)
  have hlimit : config.maxElements.toNat = 1 := by decide
  have hwall : h.clock.wall = .epoch := by decide +kernel
  rw [hscoped, if_neg Bool.false_ne_true, hlimit] at hcuts
  rw [hwall] at hpayloads
  refine ⟨hposts, s, posts, full, last, hlive, hmade, hcuts, ?_⟩
  rw [hworked.payloads, hpayloads]

/-- A hub that was shut down posts nothing, though the batch changes something, a live subscription
selects it, and the queue is not full. -/
theorem fan_out_none_after_shutdown :
    let request : SubscriptionRequest := {
      kind := .generalMessage, address := some "http://consumer/push" }
    let h := (Hub.new .default (.json "hub") ⟨.epoch, 0⟩).run [.subscribe "sub" request, .shutDown]
    let batch : Batch .generalMessage := .entities [{ identifier := some "m" }]
    let h' := h.take .generalMessage "A" batch
    h.Reached .default "hub" ∧ ∃ s, h.registry.get? h.now s.id = some s ∧
      s.isExpired h.clock.wall = false ∧ s.concerns .generalMessage "A" = true ∧
      s.filter.acceptsDataset "A" = true ∧
      Dispatcher.selected InfoMessage.profile s (h.changedBy "A" batch) ≠ [] ∧
      (∀ id, LogEvent.queueFull id ∉ h'.journal) ∧ h'.posts = [] ∧
      h'.dispatcher.pool.pendingFor s.id = [] := by
  intro request h batch h'
  have hrun : (∀ id, LogEvent.queueFull id ∉ h'.journal) ∧ h'.posts.isEmpty = true ∧
      (h'.dispatcher.pool.pendingFor "sub").isEmpty = true ∧
      ∃ s ∈ h.registry.get? h.now "sub", s.id = "sub" ∧ s.isExpired h.clock.wall = false ∧
        s.concerns .generalMessage "A" = true ∧ s.filter.acceptsDataset "A" = true ∧
        (Dispatcher.selected InfoMessage.profile s (h.changedBy "A" batch)).isEmpty = false := by
    decide +kernel
  obtain ⟨hroom, hposts, hpending, s, hlive, hid, hends, hconcerns, haccepts, hselected⟩ := hrun
  rw [← hid] at hlive hpending
  exact ⟨⟨_, _, _, rfl⟩, s, hlive, hends, hconcerns, haccepts, List.isEmpty_eq_false_iff.1 hselected,
    hroom, List.isEmpty_iff.1 hposts, List.isEmpty_iff.1 hpending⟩

end Hub

end TransitHub
