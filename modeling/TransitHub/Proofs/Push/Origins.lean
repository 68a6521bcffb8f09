/-
# What payloads are made of

The entities of a payload are written by the profile of their kind, and nothing but a batch or a
snapshot puts entities into a payload. So if every job that was submitted carries known entities
only, every post does: a turn posts payloads of its job, and what is left of a job that is held are
payloads of that job.

Which entities are known is left open. A move that brings no batch and no snapshot keeps it up by
itself, and jobs that are submitted keep it up if they carry what is known.
-/

import TransitHub.Entity.Kinds
import TransitHub.Proofs.Push.Immediate
import TransitHub.Proofs.Push.Interleaving

namespace TransitHub

/-- Which entities are known. -/
abbrev Known := (k : DataKind) → k.Entity → Prop

variable {known : Known} {producer : String}

/-- Whether all entities in a content are known, and written by the profile of their kind. -/
def Content.Conveys (known : Known) : Content → Prop
  | .entities k items _ => ∀ item ∈ items, ∃ e : k.Entity, item = k.profile.toJson e ∧ known k e
  | .heartbeat => True
  | .termination => True

theorem Content.IsNotice.conveys {content : Content} (hnotice : content.IsNotice) :
    content.Conveys known := by
  cases content with
  | entities => exact hnotice.elim
  | heartbeat => trivial
  | termination => trivial

/-- Whether a payload is a document for a content that conveys what is known. -/
def Payload.Conveys (known : Known) (producer : String) (p : Payload) : Prop :=
  ∃ wall s content, Content.Conveys known content ∧ p = ofContent producer wall s content

def PushJob.Conveys (known : Known) (producer : String) (job : PushJob) : Prop :=
  ∀ p ∈ job.payloads, p.Conveys known producer

/-- The kind of the entities in a payload. -/
def Payload.kind? (p : Payload) : Option DataKind :=
  ((p.body.member? "serviceDelivery").bind (·.member? "kind")).bind fun j =>
    (DataKind.decoder j).toOption

theorem Payload.kind?_entities (producer : String) (wall : Timestamp) (s : Subscription)
    (kind : DataKind) (items : List Json) (more : Bool) :
    (ofContent producer wall s (.entities kind items more)).kind? = some kind := by
  have hkind : DataKind.decoder kind.toJson = .ok kind := by
    cases kind <;> rfl
  simp [kind?, ofContent, document, Json.member?, Json.members, hkind, Except.toOption]

/-- What stands in a payload is a known entity of the kind that the payload tells. -/
theorem Payload.Conveys.known_of_mem {p : Payload} (h : p.Conveys known producer) {item : Json}
    (hitem : item ∈ p.items) :
    ∃ k, p.kind? = some k ∧ ∃ e : k.Entity, item = k.profile.toJson e ∧ known k e := by
  obtain ⟨wall, s, content, hcontent, rfl⟩ := h
  cases content with
  | entities kind items more =>
    rw [items_entities] at hitem
    exact ⟨kind, kind?_entities producer wall s kind items more, hcontent item hitem⟩
  | heartbeat =>
    have hnone : (ofContent producer wall s .heartbeat).items = [] :=
      items_notice producer wall s trivial
    exact absurd (hnone ▸ hitem) List.not_mem_nil
  | termination =>
    have hnone : (ofContent producer wall s .termination).items = [] :=
      items_notice producer wall s trivial
    exact absurd (hnone ▸ hitem) List.not_mem_nil

/-! ## Turns -/

namespace Posting

variable {now : Instant} {s : Subscription} {chunks : Nat} {ps : List Payload} {r r' : Registry}
  {posts : List Post} {progress : Progress PushJob}

theorem payload_mem (h : Posting now s chunks ps r posts r' progress) :
    ∀ post ∈ posts, post.payload ∈ ps := by
  intro post hpost
  have hmem : post.payload ∈ posts.map Post.payload := List.mem_map_of_mem hpost
  rw [h.payloads_eq] at hmem
  exact List.mem_of_mem_take hmem

theorem rest_payloads (h : Posting now s chunks ps r posts r' progress) :
    ∀ rest ∈ progress.remains, ∀ p ∈ rest.payloads, p ∈ ps := by
  induction h with
  | finished => exact fun _ hnil => nomatch hnil
  | on _ _ ih => exact fun rest hrest p hp => List.mem_cons_of_mem _ (ih rest hrest p hp)
  | failed => exact fun _ hnil => nomatch hnil
  | crashed => exact fun _ hnil => nomatch hnil
  | held =>
    intro rest hrest p hp
    rw [List.mem_singleton.1 hrest] at hp
    exact List.mem_cons_of_mem _ hp

end Posting

namespace Dispatcher

variable {c : Clock} {d d' : Dispatcher} {jobs : List PushJob}

/-- Whether all that was posted and all that is to be posted conveys what is known. -/
structure Conveys (known : Known) (producer : String) (d : Dispatcher) : Prop where
  builder : d.builder = .json producer
  posts : ∀ post ∈ d.outbound.posts, post.payload.Conveys known producer
  pool : d.pool.Every (PushJob.Conveys known producer)

theorem Queued.conveys (h : Queued d jobs d') (hd : d.Conveys known producer)
    (hjobs : ∀ job ∈ jobs, job.Conveys known producer) : d'.Conveys known producer where
  builder := h.builder.trans hd.builder
  posts := h.posts.symm ▸ hd.posts
  pool :=
    { waiting := fun job hjob => (h.waiting job hjob).elim (hd.pool.waiting job) (hjobs job)
      running := h.running.symm ▸ hd.pool.running }

theorem Conveys.settle (hd : d.Conveys known producer) (now : Instant) :
    (d.settle now).Conveys known producer := by
  have hsettles := WorkerPool.settle_settles (Outbound.work now) d.pool d.outbound
  obtain ⟨hpool, hposts⟩ := hsettles.keeps
    (I := fun o => ∀ post ∈ o.posts, post.payload.Conveys known producer)
    (fun job o hjob ho => by
      obtain ⟨posts, hextends, hposting⟩ := Outbound.work_posting now job o
      refine ⟨fun post hpost => ?_, fun rest hrest p hp =>
        hjob p (hposting.rest_payloads rest hrest p hp)⟩
      rw [hextends.posts] at hpost
      exact (List.mem_append.1 hpost).elim (ho post) fun hnew =>
        hjob _ (hposting.payload_mem post hnew))
    hd.pool hd.posts
  exact ⟨hd.builder, hposts, hpool⟩

theorem Quiet.conveys (hquiet : Quiet c d d') (hd : d.Conveys known producer) :
    d'.Conveys known producer := by
  cases hquiet with
  | report es => exact ⟨hd.builder, hd.posts, hd.pool⟩
  | registry op => exact ⟨hd.builder, hd.posts, hd.pool⟩
  | notice s content hnotice =>
    rw [submit_json hd.builder c.wall s (List.cons_ne_nil content [])]
    refine (d.queued_enqueue _).conveys hd fun job hjob p hp => ?_
    rw [List.mem_singleton.1 hjob] at hp
    rw [List.mem_singleton.1 hp]
    exact ⟨c.wall, s, content, hnotice.conveys, rfl⟩
  | settle => exact hd.settle c.now
  | close => exact ⟨hd.builder, hd.posts, hd.pool.waiting, hd.pool.running⟩
  | script address replies => exact ⟨hd.builder, hd.posts, hd.pool⟩
  | release address n =>
    refine ⟨hd.builder, hd.posts, hd.pool.waiting, fun seat hseat => ?_⟩
    have hjob : seat.job ∈ d.pool.running.map Seat.job := by
      rw [← WorkerPool.map_job_grantSeats _ n d.pool.running]
      exact List.mem_map_of_mem hseat
    obtain ⟨before, hbefore, hsame⟩ := List.mem_map.1 hjob
    rw [← hsame]
    exact hd.pool.running before hbefore

theorem Quietly.conveys (hpath : Quietly c d d') (hd : d.Conveys known producer) :
    d'.Conveys known producer := by
  induction hpath with
  | refl => exact hd
  | tail _ hquiet ih => exact hquiet.conveys ih

/-! ## Jobs with entities -/

theorem conveys_delivery {wall : Timestamp} {k : DataKind} {limit : Option Nat} {s : Subscription}
    {es : List k.Entity} (hknown : ∀ e ∈ es, known k e) :
    ∀ job ∈ delivery producer wall k limit s (es.map k.profile.toJson),
      job.Conveys known producer := by
  by_cases hne : es.map k.profile.toJson = []
  · rw [hne]
    exact fun job hjob => absurd hjob List.not_mem_nil
  obtain ⟨full, last, payloads, hcuts, hpayloads, hjob⟩ :=
    delivery_eq producer wall k limit s hne
  have hpiece {items : List Json} (more : Bool) (hitems : ∀ item ∈ items,
      item ∈ full.flatten ++ last) : (Content.entities k items more).Conveys known := by
    intro item hitem
    obtain ⟨e, he, hwritten⟩ := List.mem_map.1 (hcuts.whole ▸ hitems item hitem)
    exact ⟨e, hwritten.symm, hknown e he⟩
  rw [hjob]
  intro job hjob p hp
  rw [List.mem_singleton.1 hjob, hpayloads] at hp
  rcases List.mem_append.1 hp with hfull | hlast
  · obtain ⟨items, hitems, rfl⟩ := List.mem_map.1 hfull
    exact ⟨wall, s, _, hpiece true fun item hitem =>
      List.mem_append_left _ (List.mem_flatten_of_mem hitems hitem), rfl⟩
  · rw [List.mem_singleton.1 hlast]
    exact ⟨wall, s, _, hpiece false fun item hitem => List.mem_append_right _ hitem, rfl⟩

theorem conveys_batchJob {wall : Timestamp} {k : DataKind} {dataset : String}
    {limit : Subscription → Option Nat} {s : Subscription} {changed : List k.Entity}
    (hknown : ∀ e ∈ changed, known k e) :
    ∀ job ∈ batchJob producer wall k.profile dataset changed limit s,
      job.Conveys known producer := by
  unfold batchJob
  rw [DataKind.kind_profile]
  split
  · exact conveys_delivery fun e he => hknown e (List.mem_filter.1 he).1
  · exact fun job hjob => absurd hjob List.not_mem_nil

end Dispatcher

end TransitHub
