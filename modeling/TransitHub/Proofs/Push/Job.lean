/-
# One turn of a job

A worker that has a job posts its payloads in their order. The turn ends when all of them are
posted, at the first post that fails, when the transport breaks down, or at a post that is held
without a permit. `Posting` lists these ways, each with the posts that were made and with what the
registry learns: a success at the end, the failure, or nothing.

A turn posts to its own subscription only, and what it tells the registry is about that
subscription only.
-/

import TransitHub.Proofs.Push.Pool
import TransitHub.Proofs.Registry.Directory
import TransitHub.Push.Outbound

namespace TransitHub

/-- Whether a post with this reply succeeds. A post that is held succeeds as soon as it may go on. -/
def Reply.passes : Reply → Bool
  | .accept => true
  | .hold => true
  | .fail _ => false
  | .crash => false

/-- Whether a post with this reply fails, whoever is to blame. -/
def Reply.fails (reply : Reply) : Bool := !reply.passes

/-- The ways a turn can go that posts some payloads to a subscription. -/
inductive Posting (now : Instant) (s : Subscription) (chunks : Nat) :
    List Payload → Registry → List Post → Registry → Progress PushJob → Prop
  | finished (r : Registry) : Posting now s chunks [] r [] (r.noteSuccess s.id).2 .finished
  | on {p : Payload} {ps : List Payload} {r r' : Registry} {posts : List Post} {reply : Reply}
      {progress : Progress PushJob} (hreply : reply.passes = true)
      (hrest : Posting now s chunks ps r posts r' progress) :
      Posting now s chunks (p :: ps) r (⟨s.id, s.address, p, reply, now⟩ :: posts) r' progress
  | failed (p : Payload) (ps : List Payload) (r : Registry) (e : PushError) :
      Posting now s chunks (p :: ps) r [⟨s.id, s.address, p, .fail e, now⟩]
        (r.noteFailure now now s).2 .finished
  | crashed (p : Payload) (ps : List Payload) (r : Registry) :
      Posting now s chunks (p :: ps) r [⟨s.id, s.address, p, .crash, now⟩] r .crashed
  | held (p : Payload) (ps : List Payload) (r : Registry) :
      Posting now s chunks (p :: ps) r [⟨s.id, s.address, p, .hold, now⟩] r
        (.held ⟨s, ps, chunks⟩)

/-- What was posted and reported stays posted and reported. -/
structure Outbound.Extends (o o' : Outbound) (posts : List Post) : Prop where
  posts : o'.posts = o.posts ++ posts
  journal : ∃ events, o'.journal = events ++ o.journal

namespace Outbound

variable {o o' o'' : Outbound} {posts posts' : List Post}

theorem Extends.refl (o : Outbound) : o.Extends o [] where
  posts := (List.append_nil _).symm
  journal := ⟨[], rfl⟩

theorem Extends.trans (h : o.Extends o' posts) (h' : o'.Extends o'' posts') :
    o.Extends o'' (posts ++ posts') where
  posts := by rw [h'.posts, h.posts, List.append_assoc]
  journal := by
    obtain ⟨events, hevents⟩ := h.journal
    obtain ⟨events', hevents'⟩ := h'.journal
    exact ⟨events' ++ events, by rw [hevents', hevents, List.append_assoc]⟩

theorem extends_report (o : Outbound) (es : List LogEvent) : o.Extends (o.report es) [] where
  posts := (List.append_nil _).symm
  journal := ⟨es.reverse, rfl⟩

theorem extends_noteSuccess (o : Outbound) (id : String) : o.Extends (o.noteSuccess id) [] := by
  unfold noteSuccess
  dsimp only
  split
  · exact ⟨(List.append_nil _).symm, [.recovered id], rfl⟩
  · exact ⟨(List.append_nil _).symm, [], rfl⟩

theorem registry_noteSuccess (o : Outbound) (id : String) :
    (o.noteSuccess id).registry = (o.registry.noteSuccess id).2 := by
  unfold noteSuccess
  dsimp only
  split <;> rfl

theorem extends_noteFailure (o : Outbound) (now failedAt : Instant) (s : Subscription)
    (e : PushError) : o.Extends (o.noteFailure now failedAt s e).2 [] := by
  unfold noteFailure
  dsimp only
  split
  · exact ⟨(List.append_nil _).symm, _, rfl⟩
  · exact ⟨(List.append_nil _).symm, [], rfl⟩
  · exact ⟨(List.append_nil _).symm, [], rfl⟩

theorem registry_noteFailure (o : Outbound) (now failedAt : Instant) (s : Subscription)
    (e : PushError) :
    (o.noteFailure now failedAt s e).2.registry = (o.registry.noteFailure now failedAt s).2 := by
  unfold noteFailure
  dsimp only
  split <;> rfl

/-- The report and the post of the next payload. -/
def attempt (o : Outbound) (now : Instant) (s : Subscription) (chunk chunks : Nat) (p : Payload) :
    Reply × Outbound :=
  (o.report [.sendAttempted s.id s.address chunk chunks]).post now s p

theorem extends_attempt (o : Outbound) (now : Instant) (s : Subscription) (chunk chunks : Nat)
    (p : Payload) :
    o.Extends (o.attempt now s chunk chunks p).2
      [⟨s.id, s.address, p, (o.attempt now s chunk chunks p).1, now⟩] :=
  ⟨rfl, [.sendAttempted s.id s.address chunk chunks], rfl⟩

theorem registry_attempt (o : Outbound) (now : Instant) (s : Subscription) (chunk chunks : Nat)
    (p : Payload) : (o.attempt now s chunk chunks p).2.registry = o.registry := rfl

theorem send_cons (now : Instant) (s : Subscription) (chunks : Nat) (p : Payload)
    (rest : List Payload) (o : Outbound) :
    send now s chunks (p :: rest) o =
      match o.attempt now s (chunks - rest.length) chunks p with
      | (.accept, o) => send now s chunks rest o
      | (.fail e, o) => (.finished, ((o.report [.sendFailed s.id s.address (chunks - rest.length)
          chunks e.message]).noteFailure now now s e).2)
      | (.crash, o) => (.crashed, o.report [.jobCrashed])
      | (.hold, o) =>
        match o.transport.takePermit? s.address with
        | some transport => send now s chunks rest { o with transport }
        | none => (.held ⟨s, rest, chunks⟩, o) := by
  rw [send]
  unfold attempt
  cases (o.report [.sendAttempted s.id s.address (chunks - rest.length) chunks]).post now s p with
  | mk reply o => cases reply <;> rfl

/-- Posting the payloads of a job goes one of the listed ways. -/
theorem send_posting (now : Instant) (s : Subscription) (chunks : Nat) (ps : List Payload)
    (o : Outbound) :
    ∃ posts, o.Extends (send now s chunks ps o).2 posts ∧
      Posting now s chunks ps o.registry posts (send now s chunks ps o).2.registry
        (send now s chunks ps o).1 := by
  induction ps generalizing o with
  | nil =>
    refine ⟨[], o.extends_noteSuccess s.id, ?_⟩
    rw [send, registry_noteSuccess]
    exact .finished o.registry
  | cons p rest ih =>
    have hmade := o.extends_attempt now s (chunks - rest.length) chunks p
    have hregistry := o.registry_attempt now s (chunks - rest.length) chunks p
    rw [send_cons]
    generalize o.attempt now s (chunks - rest.length) chunks p = attempt at hmade hregistry
    obtain ⟨reply, o'⟩ := attempt
    dsimp only at hmade hregistry
    rw [← hregistry]
    -- Going on with the other payloads adds their posts to the one that was made.
    have hon (hreply : reply.passes = true) (o'' : Outbound) (hposts : o''.posts = o'.posts)
        (hjournal : o''.journal = o'.journal) (hsame : o''.registry = o'.registry) :
        ∃ posts, o.Extends (send now s chunks rest o'').2 posts ∧
          Posting now s chunks (p :: rest) o'.registry posts
            (send now s chunks rest o'').2.registry (send now s chunks rest o'').1 := by
      obtain ⟨posts, hextends, hposting⟩ := ih o''
      have hmade' : o.Extends o'' [⟨s.id, s.address, p, reply, now⟩] :=
        ⟨hposts.trans hmade.posts, by rw [hjournal]; exact hmade.journal⟩
      rw [hsame] at hposting
      exact ⟨_, hmade'.trans hextends, .on hreply hposting⟩
    cases reply with
    | accept => exact hon rfl o' rfl rfl rfl
    | fail e =>
      refine ⟨_, hmade.trans ((extends_report _ _).trans (extends_noteFailure _ now now s e)), ?_⟩
      rw [registry_noteFailure]
      exact .failed p rest o'.registry e
    | crash => exact ⟨_, hmade.trans (extends_report _ _), .crashed p rest o'.registry⟩
    | hold =>
      dsimp only
      cases o'.transport.takePermit? s.address with
      | some transport => exact hon rfl { o' with transport } rfl rfl rfl
      | none => exact ⟨_, hmade, .held p rest o'.registry⟩

/-- A worker's turn with a job goes one of the listed ways. -/
theorem work_posting (now : Instant) (job : PushJob) (o : Outbound) :
    ∃ posts, o.Extends (work now job o).2 posts ∧
      Posting now job.subscription job.chunks job.payloads o.registry posts
        (work now job o).2.registry (work now job o).1 :=
  send_posting now job.subscription job.chunks job.payloads o

/-- Whatever the workers do adds to what was posted and reported. -/
theorem extends_settle (now : Instant) (p : WorkerPool PushJob) (o : Outbound) :
    ∃ posts, o.Extends (p.settle (work now) o).2 posts :=
  ((WorkerPool.settle_settles (work now) p o).keeps (P := fun _ => True)
    (I := fun o' => ∃ posts, o.Extends o' posts)
    (fun job o' _ hbefore => by
      obtain ⟨posts, hextends⟩ := hbefore
      obtain ⟨posts', hextends', -⟩ := work_posting now job o'
      exact ⟨⟨posts ++ posts', hextends.trans hextends'⟩, fun _ _ => trivial⟩)
    ⟨fun _ _ => trivial, fun _ _ => trivial⟩ ⟨[], .refl o⟩).2

end Outbound

namespace Posting

variable {now : Instant} {s : Subscription} {chunks : Nat} {ps : List Payload} {r r' : Registry}
  {posts : List Post} {progress : Progress PushJob}

/-- The payloads that are posted are the first ones. -/
theorem payloads_eq (h : Posting now s chunks ps r posts r' progress) :
    posts.map Post.payload = ps.take posts.length := by
  induction h with
  | finished => rfl
  | on _ _ ih => rw [List.map_cons, ih, List.length_cons, List.take_succ_cons]
  | failed => rfl
  | crashed => rfl
  | held => rfl

/-- A turn posts to its own subscription. -/
theorem addressed (h : Posting now s chunks ps r posts r' progress) :
    ∀ post ∈ posts, post.subscription = s.id ∧ post.address = s.address := by
  induction h with
  | finished => exact fun _ hnil => nomatch hnil
  | on _ _ ih =>
    intro post hpost
    rcases List.mem_cons.1 hpost with rfl | hrest
    · exact ⟨rfl, rfl⟩
    · exact ih post hrest
  | failed => intro post hpost; rw [List.mem_singleton.1 hpost]; exact ⟨rfl, rfl⟩
  | crashed => intro post hpost; rw [List.mem_singleton.1 hpost]; exact ⟨rfl, rfl⟩
  | held => intro post hpost; rw [List.mem_singleton.1 hpost]; exact ⟨rfl, rfl⟩

/-- How a turn ends. Everything is posted, and the registry learns of a success. The last post fails,
and the registry learns of it. Or the registry learns nothing: the transport breaks down, or the last
post is held, and the payloads that were not posted are left. All other posts succeed. -/
theorem ways (h : Posting now s chunks ps r posts r' progress) :
    ((∀ post ∈ posts, post.reply.passes = true) ∧ posts.length = ps.length ∧
        progress = .finished ∧ r' = (r.noteSuccess s.id).2) ∨
      ∃ earlier last, posts = earlier ++ [last] ∧
        (∀ post ∈ earlier, post.reply.passes = true) ∧ last.madeAt = now ∧
        ((∃ e, last.reply = .fail e ∧ progress = .finished ∧ r' = (r.noteFailure now now s).2) ∨
          (last.reply = .crash ∧ progress = .crashed ∧ r' = r) ∨
          (last.reply = .hold ∧ progress = .held ⟨s, ps.drop posts.length, chunks⟩ ∧ r' = r)) := by
  have hnil : ∀ post ∈ ([] : List Post), post.reply.passes = true := fun _ hpost => nomatch hpost
  induction h with
  | finished => exact Or.inl ⟨hnil, rfl, rfl, rfl⟩
  | @on p ps r r' posts reply progress hreply hrest ih =>
    have hcons {earlier : List Post} (hearlier : ∀ post ∈ earlier, post.reply.passes = true) :
        ∀ post ∈ (⟨s.id, s.address, p, reply, now⟩ : Post) :: earlier, post.reply.passes = true := by
      intro post hpost
      rcases List.mem_cons.1 hpost with rfl | hrest
      · exact hreply
      · exact hearlier post hrest
    rcases ih with ⟨hpass, hlength, hprogress, hregistry⟩ | ⟨earlier, last, rfl, hpass, hlast⟩
    · exact Or.inl ⟨hcons hpass, congrArg Nat.succ hlength, hprogress, hregistry⟩
    · exact Or.inr ⟨_, last, rfl, hcons hpass, hlast⟩
  | failed p ps r e => exact Or.inr ⟨[], _, rfl, hnil, rfl, Or.inl ⟨e, rfl, rfl, rfl⟩⟩
  | crashed p ps r => exact Or.inr ⟨[], _, rfl, hnil, rfl, Or.inr (Or.inl ⟨rfl, rfl, rfl⟩)⟩
  | held p ps r => exact Or.inr ⟨[], _, rfl, hnil, rfl, Or.inr (Or.inr ⟨rfl, rfl, rfl⟩)⟩

/-- The registry learns nothing, or of a success or a failure of the subscription. -/
theorem registry_eq (h : Posting now s chunks ps r posts r' progress) (wall : Timestamp) :
    r' = r ∨ r' = r.perform ⟨wall, now⟩ (.success s.id) ∨
      r' = r.perform ⟨wall, now⟩ (.failure s) := by
  rcases h.ways with ⟨-, -, -, hsuccess⟩ |
    ⟨_, _, -, -, -, ⟨_, -, -, hfailure⟩ | ⟨-, -, hsame⟩ | ⟨-, -, hsame⟩⟩
  · exact Or.inr (Or.inl hsuccess)
  · exact Or.inr (Or.inr hfailure)
  · exact Or.inl hsame
  · exact Or.inl hsame

/-- What the registry learns keeps its parts in step. -/
theorem coherent (h : Posting now s chunks ps r posts r' progress) (hr : r.Coherent now) :
    r'.Coherent now := by
  have hperformed (op : RegistryOp) : (r.perform ⟨.epoch, now⟩ op).Coherent now :=
    Registry.Coherent.performed hr (r.perform_performed ⟨.epoch, now⟩ op)
  rcases h.registry_eq .epoch with hsame | hsuccess | hfailure
  · rw [hsame]
    exact hr
  · rw [hsuccess]
    exact hperformed _
  · rw [hfailure]
    exact hperformed _

/-- How a turn ends for those who do not see the registry: everything is posted, or the last post
fails, or it is held. -/
theorem endings (h : Posting now s chunks ps r posts r' progress) :
    (posts.length = ps.length ∧ (∀ post ∈ posts, post.reply.passes = true) ∧
        progress = .finished ∧ r' = (r.noteSuccess s.id).2) ∨
      (∃ earlier last, posts = earlier ++ [last] ∧
        (∀ post ∈ earlier, post.reply.passes = true) ∧ last.reply.fails = true ∧
        progress.remains = []) ∨
      (∃ earlier last, posts = earlier ++ [last] ∧
        (∀ post ∈ earlier, post.reply.passes = true) ∧ last.reply = .hold ∧
        progress.remains = [⟨s, ps.drop posts.length, chunks⟩]) := by
  rcases h.ways with ⟨hpass, hlength, hprogress, hregistry⟩ |
    ⟨earlier, last, hposts, hpass, -, ⟨e, hfails, rfl, -⟩ | ⟨hfails, rfl, -⟩ | ⟨hheld, rfl, -⟩⟩
  · exact Or.inl ⟨hlength, hpass, hprogress, hregistry⟩
  · exact Or.inr (Or.inl ⟨earlier, last, hposts, hpass, by rw [hfails]; rfl, rfl⟩)
  · exact Or.inr (Or.inl ⟨earlier, last, hposts, hpass, by rw [hfails]; rfl, rfl⟩)
  · exact Or.inr (Or.inr ⟨earlier, last, hposts, hpass, hheld, rfl⟩)

end Posting

end TransitHub
