/-
# What a delivery submits

A delivery cuts the documents for a subscription into pieces, writes each piece into a payload, and
submits the payloads as one job; without documents there is no job. The pieces put together are the
documents, none of them is empty, and all but the last are as long as the limit allows. A
subscription to one dataset has no limit, so it gets one piece.

A batch is delivered to the subscriptions that it concerns one after another, and so its jobs stand
at the end of the queue in the order of the subscriptions. All that can go wrong is a full queue,
which is reported.
-/

import TransitHub.Push.Dispatcher
import TransitHub.Proofs.Push.Pool

namespace TransitHub

namespace Paging

variable {α : Type}

/-- How a list is cut under a limit: some full pieces and the last one. -/
structure Cuts (limit : Option Nat) (xs : List α) (full : List (List α)) (last : List α) :
    Prop where
  whole : full.flatten ++ last = xs
  last_ne_nil : last ≠ []
  full_ne_nil : ∀ piece ∈ full, piece ≠ []
  unlimited : limit = none → full = []
  length_full : ∀ n, limit = some n → ∀ piece ∈ full, piece.length = max n 1
  length_last : ∀ n, limit = some n → last.length ≤ max n 1

theorem chunksOf_cuts (n fuel : Nat) (xs : List α) (hne : xs ≠ []) (hfuel : xs.length ≤ fuel) :
    ∃ full last, chunksOf (max n 1) fuel xs = full ++ [last] ∧ Cuts (some n) xs full last := by
  induction fuel generalizing xs with
  | zero => exact absurd (List.length_eq_zero_iff.1 (Nat.le_zero.1 hfuel)) hne
  | succ fuel ih =>
    obtain ⟨x, rest, rfl⟩ := List.exists_cons_of_ne_nil hne
    have hsome {m : Nat} (hm : some n = some m) : m = n := (Option.some.inj hm).symm
    rw [chunksOf]
    by_cases hshort : (x :: rest).length ≤ max n 1
    · refine ⟨[], x :: rest, ?_, rfl, hne, fun _ hnil => (nomatch hnil),
        fun hnone => (nomatch hnone), fun _ _ _ hnil => (nomatch hnil), fun m hm => hsome hm ▸ hshort⟩
      rw [List.take_of_length_le hshort, List.drop_of_length_le hshort]
      cases fuel <;> rfl
    · have hlong : max n 1 < (x :: rest).length := Nat.not_le.1 hshort
      have hdrop : (x :: rest).drop (max n 1) ≠ [] := fun hnil =>
        hshort (List.drop_eq_nil_iff.1 hnil)
      have hlength : ((x :: rest).drop (max n 1)).length ≤ fuel := by
        rw [List.length_drop]
        have hpos : 1 ≤ max n 1 := Nat.le_max_right n 1
        omega
      have hpiece : ((x :: rest).take (max n 1)).length = max n 1 := by
        rw [List.length_take]
        omega
      obtain ⟨full, last, hcut, hcuts⟩ := ih _ hdrop hlength
      refine ⟨(x :: rest).take (max n 1) :: full, last, by rw [hcut]; rfl, ?_, hcuts.last_ne_nil,
        fun piece hmem => ?_, fun hnone => (nomatch hnone), fun m hm piece hmem => ?_,
        hcuts.length_last⟩
      · rw [List.flatten_cons, List.append_assoc, hcuts.whole, List.take_append_drop]
      · rcases List.mem_cons.1 hmem with rfl | hrest
        · intro hnil
          rw [hnil, List.length_nil] at hpiece
          omega
        · exact hcuts.full_ne_nil piece hrest
      · rcases List.mem_cons.1 hmem with rfl | hrest
        · rw [hsome hm, hpiece]
        · exact hcuts.length_full m hm piece hrest

theorem chunks_nil (limit : Option Nat) : chunks limit ([] : List α) = [] := by
  cases limit <;> rfl

/-- A list that is not empty is cut into full pieces and a last one. -/
theorem chunks_cuts (limit : Option Nat) (xs : List α) (hne : xs ≠ []) :
    ∃ full last, chunks limit xs = full ++ [last] ∧ Cuts limit xs full last := by
  cases limit with
  | none =>
    have hfull : xs.isEmpty = false := List.isEmpty_eq_false_iff.2 hne
    refine ⟨[], xs, ?_, rfl, hne, fun _ hnil => (nomatch hnil), fun _ => rfl,
      fun _ hn => (nomatch hn), fun _ hn => (nomatch hn)⟩
    rw [chunks, hfull]
    rfl
  | some n => exact chunksOf_cuts n xs.length xs hne (Nat.le_refl _)

end Paging

namespace Dispatcher

variable {d d' d'' : Dispatcher} {jobs jobs' : List PushJob} {producer : String}

/-- Every piece but the last says that more follow. -/
theorem contents_append (kind : DataKind) (full : List (List Json)) (last : List Json) :
    contents kind (full ++ [last]) =
      full.map (fun items => .entities kind items true) ++ [.entities kind last false] := by
  induction full with
  | nil => rfl
  | cons piece rest ih =>
    have hmore : (rest ++ [last]).isEmpty = false := by simp
    rw [List.cons_append, contents, ih, hmore]
    rfl

theorem assemble_json (producer : String) (wall : Timestamp) (s : Subscription)
    (cs : List Content) :
    assemble (PayloadBuilder.json producer wall s) cs =
      .payloads (cs.map (Payload.ofContent producer wall s)) := by
  induction cs with
  | nil => rfl
  | cons c rest ih =>
    rw [assemble, ih]
    rfl

/-- Whether a job met a full queue can be seen from each report. -/
theorem forall_queueFull_notMem_iff {events : List LogEvent} :
    (∀ e ∈ events, (e matches .queueFull _) = false) ↔ ∀ id, LogEvent.queueFull id ∉ events := by
  constructor
  · intro h id hmem
    exact nomatch h _ hmem
  · intro h e he
    cases e with
    | queueFull id => exact absurd he (h id)
    | _ => rfl

instance (events : List LogEvent) : Decidable (∀ id, LogEvent.queueFull id ∉ events) :=
  decidable_of_iff _ forall_queueFull_notMem_iff

/-- Jobs were submitted. Unless the queue was full, which is reported, they are at its end. -/
structure Queued (d : Dispatcher) (jobs : List PushJob) (d' : Dispatcher) : Prop where
  registry : d'.outbound.registry = d.outbound.registry
  transport : d'.outbound.transport = d.outbound.transport
  posts : d'.outbound.posts = d.outbound.posts
  builder : d'.builder = d.builder
  maxElements : d'.maxElements = d.maxElements
  closed : d'.pool.closed = d.pool.closed
  running : d'.pool.running = d.pool.running
  waiting : ∀ job ∈ d'.pool.waiting, job ∈ d.pool.waiting ∨ job ∈ jobs
  journal : ∃ events, d'.outbound.journal = events ++ d.outbound.journal ∧
    (d.pool.closed = false → (∀ id, LogEvent.queueFull id ∉ events) →
      d'.pool = d.pool.withJobs (d.pool.waiting ++ jobs) d.pool.running)

theorem queued_report (d : Dispatcher) (es : List LogEvent) : Queued d [] (d.report es) where
  registry := rfl
  transport := rfl
  posts := rfl
  builder := rfl
  maxElements := rfl
  closed := rfl
  running := rfl
  waiting := fun _ hjob => Or.inl hjob
  journal := ⟨es.reverse, rfl, fun _ _ => by rw [List.append_nil]; rfl⟩

theorem Queued.refl (d : Dispatcher) : Queued d [] d := d.queued_report []

theorem Queued.trans (h : Queued d jobs d') (h' : Queued d' jobs' d'') :
    Queued d (jobs ++ jobs') d'' where
  registry := h'.registry.trans h.registry
  transport := h'.transport.trans h.transport
  posts := h'.posts.trans h.posts
  builder := h'.builder.trans h.builder
  maxElements := h'.maxElements.trans h.maxElements
  closed := h'.closed.trans h.closed
  running := h'.running.trans h.running
  waiting := fun job hjob => by
    rcases h'.waiting job hjob with hold | hnew
    · exact (h.waiting job hold).imp_right (List.mem_append_left _)
    · exact Or.inr (List.mem_append_right _ hnew)
  journal := by
    obtain ⟨events, hevents, hpool⟩ := h.journal
    obtain ⟨events', hevents', hpool'⟩ := h'.journal
    refine ⟨events' ++ events, by rw [hevents', hevents, List.append_assoc], fun hopen hroom => ?_⟩
    have hfirst := hpool hopen fun id hid => hroom id (List.mem_append_right _ hid)
    have hsecond := hpool' (h.closed.trans hopen) fun id hid =>
      hroom id (List.mem_append_left _ hid)
    rw [hsecond, hfirst]
    simp

theorem queued_enqueue (d : Dispatcher) (job : PushJob) : Queued d [job] (d.enqueue job).2 := by
  unfold enqueue
  rcases d.pool.submit_cases job with ⟨hclosed, hsubmit⟩ | ⟨-, -, hsubmit⟩ | ⟨-, -, hsubmit⟩
  · rw [hsubmit]
    refine ⟨rfl, rfl, rfl, rfl, rfl, rfl, rfl, fun _ hjob => Or.inl hjob, [_], rfl, fun hopen => ?_⟩
    rw [hclosed] at hopen
    exact nomatch hopen
  · rw [hsubmit]
    exact ⟨rfl, rfl, rfl, rfl, rfl, rfl, rfl, fun _ hjob => List.mem_append.1 hjob, [], rfl,
      fun _ _ => rfl⟩
  · rw [hsubmit]
    refine ⟨rfl, rfl, rfl, rfl, rfl, rfl, rfl, fun _ hjob => Or.inl hjob, [_], rfl, fun _ hfull => ?_⟩
    exact absurd List.mem_cons_self (hfull job.subscription.id)

/-- Submitting contents submits at most one job. -/
theorem queued_submit (d : Dispatcher) (wall : Timestamp) (s : Subscription)
    (cs : List Content) : ∃ jobs, Queued d jobs (d.submit wall s cs).2 := by
  unfold submit
  split
  · exact ⟨[], .refl d⟩
  · split
    · exact ⟨[], d.queued_report _⟩
    · exact ⟨[], .refl d⟩
    · exact ⟨_, d.queued_enqueue _⟩

theorem queued_deliver (d : Dispatcher) (wall : Timestamp) (kind : DataKind) (s : Subscription)
    (items : List (Except String Json)) : ∃ jobs, Queued d jobs (d.deliver wall kind s items).2 := by
  obtain ⟨jobs, hjobs⟩ := queued_submit (d.report ((unwritable items).map (.entityDropped s.id))) wall
    s (contents kind (Paging.chunks (d.limit s) (writable items)))
  exact ⟨_, (d.queued_report _).trans hjobs⟩

/-! ## With the builder of JSON documents -/

/-- The job that posts some documents to a subscription; without documents there is none. -/
def delivery (producer : String) (wall : Timestamp) (kind : DataKind) (limit : Option Nat)
    (s : Subscription) (documents : List Json) : List PushJob :=
  let payloads := (contents kind (Paging.chunks limit documents)).map
    (Payload.ofContent producer wall s)
  if documents.isEmpty then [] else [⟨s, payloads, payloads.length⟩]

/-- The payloads of a delivery are full pieces, after which more follow, and a last one. -/
theorem delivery_eq (producer : String) (wall : Timestamp) (kind : DataKind) (limit : Option Nat)
    (s : Subscription) {documents : List Json} (hne : documents ≠ []) :
    ∃ full last payloads, Paging.Cuts limit documents full last ∧
      payloads = full.map (fun items =>
          Payload.ofContent producer wall s (.entities kind items true)) ++
        [Payload.ofContent producer wall s (.entities kind last false)] ∧
      delivery producer wall kind limit s documents = [⟨s, payloads, payloads.length⟩] := by
  obtain ⟨full, last, hchunks, hcuts⟩ := Paging.chunks_cuts limit documents hne
  refine ⟨full, last, _, hcuts, rfl, ?_⟩
  rw [delivery, List.isEmpty_eq_false_iff.2 hne, hchunks, contents_append, List.map_append,
    List.map_map]
  rfl

theorem writable_map_ok {α : Type} (f : α → Json) (items : List α) :
    writable (items.map fun e => .ok (f e)) = items.map f := by
  rw [writable, List.filterMap_map]
  exact List.filterMap_eq_map ▸ rfl

theorem unwritable_map_ok {α : Type} (f : α → Json) (items : List α) :
    unwritable (items.map fun e => .ok (f e)) = [] := by
  rw [unwritable, List.filterMap_map]
  exact List.filterMap_eq_nil_iff.2 fun _ _ => rfl

theorem submit_json (hbuilder : d.builder = .json producer) (wall : Timestamp) (s : Subscription)
    {cs : List Content} (hne : cs ≠ []) :
    d.submit wall s cs = d.enqueue ⟨s, cs.map (Payload.ofContent producer wall s),
      (cs.map (Payload.ofContent producer wall s)).length⟩ := by
  rw [submit, List.isEmpty_eq_false_iff.2 hne, if_neg Bool.false_ne_true, hbuilder, assemble_json]

theorem fst_enqueue_ne_crashed (d : Dispatcher) (job : PushJob) : (d.enqueue job).1 ≠ .crashed := by
  unfold enqueue
  dsimp only
  split <;> exact fun hcrashed => nomatch hcrashed

/-- A delivery of entities submits its job, and the answer is never that the builder crashed. -/
theorem queued_deliver_json {α : Type} (hbuilder : d.builder = .json producer) (wall : Timestamp)
    (kind : DataKind) (s : Subscription) (f : α → Json) (items : List α) :
    Queued d (delivery producer wall kind (d.limit s) s (items.map f))
        (d.deliver wall kind s (items.map fun e => .ok (f e))).2 ∧
      (d.deliver wall kind s (items.map fun e => .ok (f e))).1 ≠ .crashed := by
  unfold deliver
  rw [writable_map_ok, unwritable_map_ok]
  by_cases hne : items.map f = []
  · rw [hne, Paging.chunks_nil]
    exact ⟨d.queued_report [], fun hcrashed => nomatch hcrashed⟩
  · obtain ⟨full, last, hchunks, -⟩ := Paging.chunks_cuts (d.limit s) _ hne
    have hsome : contents kind (Paging.chunks (d.limit s) (items.map f)) ≠ [] := by
      rw [hchunks, contents_append]
      simp
    have hsubmit := submit_json (d := d.report []) hbuilder wall s hsome
    rw [List.map_nil, hsubmit]
    refine ⟨?_, fst_enqueue_ne_crashed _ _⟩
    rw [delivery, List.isEmpty_eq_false_iff.2 hne]
    exact (d.queued_report []).trans (queued_enqueue _ _)

/-- The job that a batch leads to for a subscription, if anything is selected for it. -/
def batchJob {α : Type} (producer : String) (wall : Timestamp) (p : Profile α) (dataset : String)
    (changed : List α) (limit : Subscription → Option Nat) (s : Subscription) : List PushJob :=
  if s.filter.acceptsDataset dataset then
    delivery producer wall p.kind (limit s) s ((selected p s changed).map p.toJson)
  else []

/-- A batch submits its jobs in the order of the subscriptions. -/
theorem queued_deliverEach {α : Type} (p : Profile α) (wall : Timestamp) (dataset : String)
    (changed : List α) (limit : Subscription → Option Nat) (count : Nat)
    (subscriptions : List Subscription) (d : Dispatcher) (hbuilder : d.builder = .json producer)
    (hlimit : d.limit = limit) :
    Queued d (subscriptions.flatMap (batchJob producer wall p dataset changed limit))
        (deliverEach p wall dataset changed count subscriptions d).2 ∧
      (deliverEach p wall dataset changed count subscriptions d).1 ≠ none := by
  induction subscriptions generalizing d count with
  | nil => exact ⟨.refl d, fun hnone => nomatch hnone⟩
  | cons s rest ih =>
    rw [List.flatMap_cons, batchJob, deliverEach]
    by_cases haccepts : s.filter.acceptsDataset dataset = true
    · rw [if_pos haccepts, if_pos haccepts]
      dsimp only
      obtain ⟨hjob, hcrash⟩ := queued_deliver_json hbuilder wall p.kind s p.toJson
        (selected p s changed)
      rw [congrFun hlimit s] at hjob
      generalize d.deliver wall p.kind s _ = answer at hjob hcrash ⊢
      obtain ⟨submission, d'⟩ := answer
      dsimp only at hjob hcrash
      have hbuilder' : d'.builder = .json producer := hjob.builder.trans hbuilder
      have hlimit' : d'.limit = limit := by
        rw [← hlimit]
        funext s'
        rw [Dispatcher.limit, Dispatcher.limit, hjob.maxElements]
      cases submission with
      | queued =>
        obtain ⟨hrest, hsome⟩ := ih (count + 1) d' hbuilder' hlimit'
        exact ⟨hjob.trans hrest, hsome⟩
      | refused =>
        obtain ⟨hrest, hsome⟩ := ih count d' hbuilder' hlimit'
        exact ⟨hjob.trans hrest, hsome⟩
      | crashed => exact absurd rfl hcrash
    · rw [if_neg haccepts, if_neg haccepts]
      exact ih count d hbuilder hlimit

/-- A change is matched first; then the jobs are submitted. -/
theorem queued_onChange {α : Type} (hbuilder : d.builder = .json producer) (c : Clock)
    (p : Profile α) (dataset : String) {changed : List α} (hchanged : changed ≠ []) :
    Queued (d.matching c p.kind dataset).2 ((d.matching c p.kind dataset).1.flatMap
        (batchJob producer c.wall p dataset changed d.limit))
      (d.onChange c p dataset changed).2 ∧ (d.onChange c p dataset changed).1 ≠ none := by
  obtain ⟨hjobs, hsome⟩ := queued_deliverEach p c.wall dataset changed d.limit 0
    (d.matching c p.kind dataset).1 (d.matching c p.kind dataset).2 hbuilder rfl
  rw [onChange, List.isEmpty_eq_false_iff.2 hchanged, if_neg Bool.false_ne_true]
  dsimp only
  generalize deliverEach p c.wall dataset changed 0 _ _ = answer at hjobs hsome ⊢
  obtain ⟨count, d'⟩ := answer
  cases count with
  | none => exact absurd rfl hsome
  | some n =>
    refine ⟨?_, fun hnone => nomatch hnone⟩
    have hreported := hjobs.trans
      (queued_report d' [.batchDispatched p.kind dataset changed.length n])
    rw [List.append_nil] at hreported
    exact hreported

end Dispatcher

end TransitHub
