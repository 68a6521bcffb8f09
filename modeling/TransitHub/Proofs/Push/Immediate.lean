/-
# Pushes that succeed at once

If every post is accepted at once, no job is held. Whenever the workers go on they post all that
waits, in its order, and are idle afterwards; so what an operation posts is what it put into the
queue. Quiet work puts no entities there.

What was posted and reported stays so, and a closed queue stays closed. Therefore it is enough to
know of a run that at its end all posts were accepted, no job was lost to a full queue, and the queue
is open.
-/

import TransitHub.Proofs.Json.Exchange
import TransitHub.Proofs.Push.Delivery
import TransitHub.Proofs.Push.Moves

namespace TransitHub

/-- The documents of the entities in the document of a push. -/
def Json.items (j : Json) : List Json :=
  (((j.member? "serviceDelivery").bind (·.member? "items")).map Json.elements).getD []

/-- The documents of the entities in a payload. -/
def Payload.items (p : Payload) : List Json := p.body.items

theorem Payload.items_entities (producer : String) (wall : Timestamp) (s : Subscription)
    (kind : DataKind) (items : List Json) (more : Bool) :
    (ofContent producer wall s (.entities kind items more)).items = items := by
  simp [Payload.items, Json.items, ofContent, document, Json.member?, Json.members, Json.elements]

theorem Payload.items_notice (producer : String) (wall : Timestamp) (s : Subscription)
    {content : Content} (hnotice : content.IsNotice) :
    (ofContent producer wall s content).items = [] := by
  cases content with
  | entities => exact hnotice.elim
  | heartbeat => simp [Payload.items, Json.items, ofContent, document, Json.member?, Json.members]
  | termination => simp [Payload.items, Json.items, ofContent, document, Json.member?, Json.members]

/-- What a post carries, and for which subscription. -/
def Post.outgoing (post : Post) : String × Payload := (post.subscription, post.payload)

/-- What a job carries, and for which subscription. -/
def PushJob.outgoing (job : PushJob) : List (String × Payload) :=
  job.payloads.map fun p => (job.subscription.id, p)

instance : DecidablePred (· = Reply.accept)
  | .accept => isTrue rfl
  | .fail _ | .crash | .hold => isFalse nofun

/-- Every post was accepted at once. -/
def Outbound.Immediate (o : Outbound) : Prop := ∀ post ∈ o.posts, post.reply = .accept

instance (o : Outbound) : Decidable o.Immediate :=
  inferInstanceAs (Decidable (∀ post ∈ o.posts, post.reply = .accept))

namespace Outbound

variable {o o' : Outbound} {posts : List Post}

theorem Extends.immediate (h : o.Extends o' posts) (himmediate : o'.Immediate) :
    o.Immediate ∧ ∀ post ∈ posts, post.reply = .accept := by
  unfold Immediate at himmediate
  rw [h.posts] at himmediate
  exact ⟨fun post hpost => himmediate post (List.mem_append_left _ hpost),
    fun post hpost => himmediate post (List.mem_append_right _ hpost)⟩

end Outbound

/-- A turn whose posts are accepted posts everything and leaves nothing. -/
theorem Posting.outgoing_eq {now : Instant} {s : Subscription} {chunks : Nat} {ps : List Payload}
    {r r' : Registry} {posts : List Post} {progress : Progress PushJob}
    (h : Posting now s chunks ps r posts r' progress)
    (haccept : ∀ post ∈ posts, post.reply = .accept) :
    progress.remains = [] ∧ posts.map Post.outgoing = ps.map fun p => (s.id, p) := by
  induction h with
  | finished => exact ⟨rfl, rfl⟩
  | on _ _ ih =>
    obtain ⟨hnone, hall⟩ := ih fun post hpost => haccept post (List.mem_cons_of_mem _ hpost)
    exact ⟨hnone, by rw [List.map_cons, List.map_cons, hall]; rfl⟩
  | failed => exact nomatch haccept _ List.mem_cons_self
  | crashed => exact nomatch haccept _ List.mem_cons_self
  | held => exact nomatch haccept _ List.mem_cons_self

namespace WorkerPool

variable {p : WorkerPool PushJob}

theorem workThrough_immediate (now : Instant) (jobs : List PushJob) (o : Outbound)
    (himmediate : (workThrough (Outbound.work now) jobs o).2.Immediate) :
    (workThrough (Outbound.work now) jobs o).1 = [] ∧
      ∃ posts, o.Extends (workThrough (Outbound.work now) jobs o).2 posts ∧
        posts.map Post.outgoing = jobs.flatMap PushJob.outgoing := by
  induction jobs generalizing o with
  | nil => exact ⟨rfl, [], .refl o, rfl⟩
  | cons job rest ih =>
    have hcons : workThrough (Outbound.work now) (job :: rest) o =
        ((Outbound.work now job o).1.remains ++
            (workThrough (Outbound.work now) rest (Outbound.work now job o).2).1,
          (workThrough (Outbound.work now) rest (Outbound.work now job o).2).2) := rfl
    rw [hcons] at himmediate ⊢
    obtain ⟨hnone, posts', hextends', hposts'⟩ := ih (Outbound.work now job o).2 himmediate
    obtain ⟨posts, hextends, hposting⟩ := Outbound.work_posting now job o
    obtain ⟨hremains, hposts⟩ := hposting.outgoing_eq
      (hextends.immediate (hextends'.immediate himmediate).1).2
    refine ⟨by rw [hremains, hnone]; rfl, posts ++ posts', hextends.trans hextends', ?_⟩
    rw [List.map_append, hposts, hposts', List.flatMap_cons]
    rfl

/-- Where no worker holds a job and every post is accepted, all that waits is posted. -/
theorem settle_immediate (now : Instant) (hidle : p.running = []) (o : Outbound)
    (himmediate : (p.settle (Outbound.work now) o).2.Immediate) :
    let settled := p.settle (Outbound.work now) o
    settled.1.running = [] ∧ settled.1.waiting = [] ∧
      ∃ posts, o.Extends settled.2 posts ∧
        posts.map Post.outgoing = p.waiting.flatMap PushJob.outgoing := by
  have hheld : p.AllHeld := by
    unfold AllHeld
    rw [hidle]
    exact fun _ hnil => nomatch hnil
  have hsettles := settle_settles (Outbound.work now) p o
  generalize p.settle (Outbound.work now) o = settled at himmediate hsettles ⊢
  obtain ⟨done, hdone, hs, hp, hleft⟩ := hsettles.of_allHeld hheld
  dsimp only
  rw [hs] at himmediate ⊢
  obtain ⟨hnone, posts, hextends, hposts⟩ := workThrough_immediate now done o himmediate
  have hrunning : settled.1.running = [] := by
    rw [hp, running_withJobs, hidle, hnone]
    rfl
  have hwaiting : settled.1.waiting = [] := by
    refine hleft.resolve_right fun hbusy => ?_
    rw [hrunning] at hbusy
    exact absurd settled.1.workers_pos (Nat.not_lt.2 hbusy)
  rw [hwaiting, List.append_nil] at hdone
  rw [hdone]
  exact ⟨hrunning, hwaiting, posts, hextends, hposts⟩

end WorkerPool

namespace Dispatcher

variable {c : Clock} {d d' d'' : Dispatcher} {producer : String}

/-- What was posted and reported stays so, and a closed queue stays closed. -/
structure Grows (d d' : Dispatcher) : Prop where
  outbound : ∃ posts, d.outbound.Extends d'.outbound posts
  closed : d.pool.closed = true → d'.pool.closed = true

theorem Grows.refl (d : Dispatcher) : Grows d d := ⟨⟨[], .refl _⟩, id⟩

theorem Grows.trans (h : Grows d d') (h' : Grows d' d'') : Grows d d'' := by
  obtain ⟨posts, hposts⟩ := h.outbound
  obtain ⟨posts', hposts'⟩ := h'.outbound
  exact ⟨⟨_, hposts.trans hposts'⟩, fun hclosed => h'.closed (h.closed hclosed)⟩

theorem Queued.grows {jobs : List PushJob} (h : Queued d jobs d') : Grows d d' := by
  obtain ⟨events, hevents, -⟩ := h.journal
  have hposts : d'.outbound.posts = d.outbound.posts ++ [] := by
    rw [h.posts, List.append_nil]
  exact ⟨⟨[], hposts, events, hevents⟩, fun hclosed => h.closed.trans hclosed⟩

/-- Moves that leave posts and reports to themselves. -/
theorem grows_of_eq (hposts : d'.outbound.posts = d.outbound.posts)
    (hjournal : d'.outbound.journal = d.outbound.journal) (hclosed : d'.pool.closed = d.pool.closed) :
    Grows d d' :=
  ⟨⟨[], by rw [hposts, List.append_nil], [], hjournal⟩, fun h => hclosed.trans h⟩

theorem Quiet.grows (hquiet : Quiet c d d') : Grows d d' := by
  cases hquiet with
  | report es => exact (d.queued_report es).grows
  | registry op => exact grows_of_eq rfl rfl rfl
  | notice s content =>
    obtain ⟨jobs, hjobs⟩ := d.queued_submit c.wall s [content]
    exact hjobs.grows
  | settle =>
    obtain ⟨posts, hextends⟩ := Outbound.extends_settle c.now d.pool d.outbound
    exact ⟨⟨_, hextends.trans (Outbound.extends_report _ _)⟩, fun hclosed =>
      (WorkerPool.settle_settles _ d.pool d.outbound).closed_eq.trans hclosed⟩
  | close => exact ⟨⟨[], Outbound.extends_report _ _⟩, fun _ => rfl⟩
  | script => exact grows_of_eq rfl rfl rfl
  | release => exact grows_of_eq rfl rfl rfl

theorem Move.grows (hmove : Move c d d') : Grows d d' := by
  cases hmove with
  | quiet hquiet => exact hquiet.grows
  | requested => exact grows_of_eq rfl rfl rfl
  | delivered kind s documents =>
    obtain ⟨jobs, hjobs⟩ := d.queued_deliver c.wall kind s documents
    exact hjobs.grows

theorem Moves.grows (hpath : Moves c d d') : Grows d d' := by
  induction hpath with
  | refl => exact .refl d
  | tail _ hmove ih => exact ih.trans hmove.grows

/-! ## Paths on which every post is accepted -/

theorem running_settle (hidle : d.pool.running = [])
    (himmediate : (d.settle c.now).outbound.Immediate) : (d.settle c.now).pool.running = [] :=
  (WorkerPool.settle_immediate c.now hidle d.outbound himmediate).1

/-- No worker ever holds a job. -/
theorem Move.running (hmove : Move c d d') (hidle : d.pool.running = [])
    (himmediate : d'.outbound.Immediate) : d'.pool.running = [] := by
  cases hmove with
  | quiet hquiet =>
    cases hquiet with
    | report => exact hidle
    | registry => exact hidle
    | notice s content =>
      obtain ⟨jobs, hjobs⟩ := d.queued_submit c.wall s [content]
      exact hjobs.running.trans hidle
    | settle => exact running_settle hidle himmediate
    | close => exact hidle
    | script => exact hidle
    | release address n =>
      show (WorkerPool.grantSeats _ n d.pool.running).2 = []
      rw [hidle]
      rfl
  | requested => exact hidle
  | delivered kind s documents =>
    obtain ⟨jobs, hjobs⟩ := d.queued_deliver c.wall kind s documents
    exact hjobs.running.trans hidle

theorem Moves.running (hpath : Moves c d d') (hidle : d.pool.running = [])
    (himmediate : d'.outbound.Immediate) : d'.pool.running = [] := by
  induction hpath with
  | refl => exact hidle
  | tail _ hmove ih =>
    obtain ⟨_, hextends⟩ := hmove.grows.outbound
    exact hmove.running (ih (hextends.immediate himmediate).1) himmediate

/-- No worker holds a job, and no job that waits carries entities. -/
structure Bare (producer : String) (d : Dispatcher) : Prop where
  builder : d.builder = .json producer
  running : d.pool.running = []
  waiting : ∀ job ∈ d.pool.waiting, ∀ p ∈ job.payloads, p.items = []

/-- Quiet work posts no entities. -/
theorem Quiet.bare (hquiet : Quiet c d d') (hbare : d.Bare producer)
    (himmediate : d'.outbound.Immediate) :
    d'.Bare producer ∧ ∃ posts, d'.outbound.posts = d.outbound.posts ++ posts ∧
      ∀ post ∈ posts, post.payload.items = [] := by
  have hrunning := (Move.quiet hquiet).running hbare.running himmediate
  have hnone {posts : List Post} (hsame : posts = d.outbound.posts) :
      ∃ posts', posts = d.outbound.posts ++ posts' ∧ ∀ post ∈ posts', post.payload.items = [] :=
    ⟨[], by rw [hsame, List.append_nil], fun _ hnil => nomatch hnil⟩
  cases hquiet with
  | report => exact ⟨⟨hbare.builder, hrunning, hbare.waiting⟩, hnone rfl⟩
  | registry => exact ⟨⟨hbare.builder, hrunning, hbare.waiting⟩, hnone rfl⟩
  | notice s content hnotice =>
    have hsubmit := submit_json hbare.builder c.wall s (List.cons_ne_nil content [])
    rw [hsubmit] at hrunning ⊢
    have hqueued := d.queued_enqueue ⟨s, [Payload.ofContent producer c.wall s content], 1⟩
    refine ⟨⟨hqueued.builder.trans hbare.builder, hrunning, fun job hjob => ?_⟩, hnone hqueued.posts⟩
    rcases hqueued.waiting job hjob with hold | hnew
    · exact hbare.waiting job hold
    · intro p hp
      rw [List.mem_singleton.1 hnew] at hp
      rw [List.mem_singleton.1 hp]
      exact Payload.items_notice producer c.wall s hnotice
  | settle =>
    obtain ⟨-, hwaiting, posts, hextends, hposts⟩ :=
      WorkerPool.settle_immediate c.now hbare.running d.outbound himmediate
    refine ⟨⟨hbare.builder, hrunning, fun job hjob => ?_⟩, posts, hextends.posts,
      fun post hpost => ?_⟩
    · have hnil : (d.settle c.now).pool.waiting = [] := hwaiting
      rw [hnil] at hjob
      exact nomatch hjob
    · have hmem : post.outgoing ∈ d.pool.waiting.flatMap PushJob.outgoing := by
        rw [← hposts]
        exact List.mem_map.2 ⟨post, hpost, rfl⟩
      obtain ⟨job, hjob, hout⟩ := List.mem_flatMap.1 hmem
      obtain ⟨p, hp, heq⟩ := List.mem_map.1 hout
      have hpayload : post.payload = p := (congrArg Prod.snd heq).symm
      rw [hpayload]
      exact hbare.waiting job hjob p hp
  | close => exact ⟨⟨hbare.builder, hrunning, hbare.waiting⟩, hnone rfl⟩
  | script => exact ⟨⟨hbare.builder, hrunning, hbare.waiting⟩, hnone rfl⟩
  | release => exact ⟨⟨hbare.builder, hrunning, hbare.waiting⟩, hnone rfl⟩

theorem Quietly.bare (hpath : Quietly c d d') (hbare : d.Bare producer)
    (himmediate : d'.outbound.Immediate) :
    d'.Bare producer ∧ ∃ posts, d'.outbound.posts = d.outbound.posts ++ posts ∧
      ∀ post ∈ posts, post.payload.items = [] := by
  induction hpath with
  | refl => exact ⟨hbare, [], by rw [List.append_nil], fun _ hnil => nomatch hnil⟩
  | tail _ hquiet ih =>
    obtain ⟨_, hextends⟩ := hquiet.grows.outbound
    obtain ⟨hbare', posts, hposts, hitems⟩ := ih (hextends.immediate himmediate).1
    obtain ⟨hbare'', posts', hposts', hitems'⟩ := hquiet.bare hbare' himmediate
    refine ⟨hbare'', posts ++ posts', by rw [hposts', hposts, List.append_assoc],
      fun post hpost => ?_⟩
    exact (List.mem_append.1 hpost).elim (hitems post) (hitems' post)

end Dispatcher

end TransitHub
