/-
# The turns of a batch

The jobs of a batch stand in the queue one behind the other, each for another subscription. When the
workers go on, the job of a subscription gets at most one turn, and nothing that the turns of the
other jobs do is seen from it: they post elsewhere, and they tell the registry of other
subscriptions. So the posts to the subscription are the posts of its own turn, and what is left of
its job is all that the batch leaves in the pool for it.
-/

import TransitHub.Proofs.Push.Job

namespace TransitHub

namespace Registry

variable {r r' : Registry} {c : Clock} {s : Subscription} {id : String}

/-- A failed push to one subscription starts no streak of another. -/
theorem Performed.start?_of_ne (h : Performed r c (.failure s) r') (hid : s.id ≠ id)
    (hnone : r.streaks.start? id = none) : r'.streaks.start? id = none := by
  refine Option.eq_none_iff_forall_ne_some.2 fun start hstart => ?_
  rcases h.start?_some hstart with hbefore | ⟨_, hop, hsame, -, -⟩
  · exact nomatch hnone.symm.trans hbefore
  · obtain rfl := RegistryOp.failure.inj hop
    exact hid hsame

theorem start?_noteSuccess (r : Registry) (id id' : String) :
    (r.noteSuccess id).2.streaks.start? id' = if id = id' then none else r.streaks.start? id' :=
  r.start?_recover id id'

end Registry

namespace Posting

variable {now : Instant} {s : Subscription} {chunks : Nat} {ps : List Payload} {r r' : Registry}
  {posts : List Post} {progress : Progress PushJob}

theorem rest_subscription (h : Posting now s chunks ps r posts r' progress) :
    ∀ rest ∈ progress.remains, rest.subscription = s := by
  induction h with
  | finished => exact fun _ hnil => nomatch hnil
  | on _ _ ih => exact ih
  | failed => exact fun _ hnil => nomatch hnil
  | crashed => exact fun _ hnil => nomatch hnil
  | held =>
    intro rest hrest
    rw [List.mem_singleton.1 hrest]

/-- A turn for one subscription starts no streak of another. -/
theorem start?_of_ne (h : Posting now s chunks ps r posts r' progress) {id : String}
    (hid : s.id ≠ id) (hnone : r.streaks.start? id = none) : r'.streaks.start? id = none := by
  rcases h.registry_eq .epoch with hsame | hsuccess | hfailure
  · rw [hsame, hnone]
  · rw [hsuccess]
    show (r.noteSuccess s.id).2.streaks.start? id = none
    rw [Registry.start?_noteSuccess, if_neg hid, hnone]
  · rw [hfailure]
    exact (r.perform_performed ⟨.epoch, now⟩ (.failure s)).start?_of_ne hid hnone

end Posting

/-- Whether a job is for the subscription with an identifier. -/
def PushJob.isFor (id : String) (job : PushJob) : Bool := job.subscription.id = id

/-- Whether a post went to the subscription with an identifier. -/
def Post.isFor (id : String) (post : Post) : Bool := post.subscription = id

/-- How far a job has come, by the posts that were made and by what is left of it. `clean` says that
the subscription has no failure streak, `busy` that every worker holds a job. -/
inductive PushJob.Outcome (clean busy : Prop) (job : PushJob) : List Post → List PushJob → Prop
  /-- Everything is posted. -/
  | posted (made : List Post) (hlength : made.length = job.payloads.length)
      (hpass : ∀ post ∈ made, post.reply.passes = true) (hclean : clean) :
      Outcome clean busy job made []
  /-- A post failed, and no other is made. -/
  | failed (earlier : List Post) (last : Post) (hpass : ∀ post ∈ earlier, post.reply.passes = true)
      (hfails : last.reply.fails = true) : Outcome clean busy job (earlier ++ [last]) []
  /-- A post is held; the payloads behind it are left. -/
  | held (earlier : List Post) (last : Post) (hpass : ∀ post ∈ earlier, post.reply.passes = true)
      (hheld : last.reply = .hold) :
      Outcome clean busy job (earlier ++ [last])
        [⟨job.subscription, job.payloads.drop (earlier ++ [last]).length, job.chunks⟩]
  /-- The job waits for a worker. -/
  | waits (hbusy : busy) : Outcome clean busy job [] [job]

theorem PushJob.Outcome.imp {clean clean' busy busy' : Prop} {job : PushJob} {made : List Post}
    {rest : List PushJob} (h : Outcome clean busy job made rest) (hclean : clean → clean')
    (hbusy : busy → busy') : Outcome clean' busy' job made rest := by
  cases h with
  | posted _ hlength hpass hc => exact .posted _ hlength hpass (hclean hc)
  | failed earlier last hpass hfails => exact .failed earlier last hpass hfails
  | held earlier last hpass hheld => exact .held earlier last hpass hheld
  | waits hb => exact .waits (hbusy hb)

/-- How a job was worked off so far: its first payloads were posted to its subscription, and it has
come as far as the replies let it come. -/
structure PushJob.Worked (clean busy : Prop) (job : PushJob) (made : List Post)
    (rest : List PushJob) : Prop where
  payloads : made.map Post.payload = job.payloads.take made.length
  addressed : ∀ post ∈ made, post.address = job.subscription.address
  outcome : job.Outcome clean busy made rest

theorem PushJob.Worked.imp {clean clean' busy busy' : Prop} {job : PushJob} {made : List Post}
    {rest : List PushJob} (h : job.Worked clean busy made rest) (hclean : clean → clean')
    (hbusy : busy → busy') : job.Worked clean' busy' made rest :=
  ⟨h.payloads, h.addressed, h.outcome.imp hclean hbusy⟩

/-- The turns of a job one after another, with all their posts, with what is left of the job, and
with the surroundings after the last turn. What happens between the turns is left open. -/
inductive PushJob.Turns (job : PushJob) : List Post → List PushJob → Outbound → Prop
  | start (o : Outbound) : Turns job [] [job] o
  | turn {made posts : List Post} {left : PushJob} {o : Outbound} (hbefore : Turns job made [left] o)
      (now : Instant) (o' : Outbound)
      (hposts : (Outbound.work now left o').2.posts = o'.posts ++ posts) :
      Turns job (made ++ posts) (Outbound.work now left o').1.remains (Outbound.work now left o').2

/-- The jobs of a subscription that are not over. -/
def WorkerPool.pendingFor (p : WorkerPool PushJob) (id : String) : List PushJob :=
  (p.running.map Seat.job ++ p.waiting).filter (PushJob.isFor id)

namespace Outbound

variable {now : Instant} {id : String}

open WorkerPool

theorem filter_isFor_eq_nil {jobs : List PushJob} (h : ∀ job ∈ jobs, job.subscription.id ≠ id) :
    jobs.filter (PushJob.isFor id) = [] := by
  rw [List.filter_eq_nil_iff]
  intro job hjob
  simpa [PushJob.isFor] using h job hjob

theorem filter_post_isFor_eq_nil {posts : List Post} (h : ∀ post ∈ posts, post.subscription ≠ id) :
    posts.filter (Post.isFor id) = [] := by
  rw [List.filter_eq_nil_iff]
  intro post hpost
  simpa [Post.isFor] using h post hpost

/-- One turn of a job that no worker had taken. -/
theorem work_worked (now : Instant) (job : PushJob) (o : Outbound) :
    ∃ posts, o.Extends (work now job o).2 posts ∧
      (∀ post ∈ posts, post.subscription = job.subscription.id) ∧
      (∀ rest ∈ (work now job o).1.remains, rest.subscription = job.subscription) ∧
      job.Worked ((work now job o).2.registry.streaks.start? job.subscription.id = none) False posts
        (work now job o).1.remains := by
  obtain ⟨posts, hextends, hposting⟩ := work_posting now job o
  refine ⟨posts, hextends, fun post hpost => (hposting.addressed post hpost).1,
    hposting.rest_subscription, hposting.payloads_eq,
    fun post hpost => (hposting.addressed post hpost).2, ?_⟩
  rcases hposting.endings with ⟨hlength, hpass, hfinished, hregistry⟩ |
    ⟨earlier, last, rfl, hpass, hfails, hrest⟩ | ⟨earlier, last, rfl, hpass, hheld, hrest⟩
  · rw [hfinished]
    exact .posted posts hlength hpass (by
      rw [hregistry, Registry.start?_noteSuccess, if_pos rfl])
  · rw [hrest]
    exact .failed earlier last hpass hfails
  · rw [hrest]
    exact .held earlier last hpass hheld

/-- The turns of jobs for other subscriptions are not seen from this one. -/
theorem workThrough_others (now : Instant) (jobs : List PushJob)
    (hjobs : ∀ job ∈ jobs, job.subscription.id ≠ id) (o : Outbound) :
    ∃ posts, o.Extends (workThrough (work now) jobs o).2 posts ∧
      posts.filter (Post.isFor id) = [] ∧
      (workThrough (work now) jobs o).1.filter (PushJob.isFor id) = [] ∧
      (o.registry.streaks.start? id = none →
        (workThrough (work now) jobs o).2.registry.streaks.start? id = none) := by
  induction jobs generalizing o with
  | nil => exact ⟨[], .refl o, rfl, rfl, fun hnone => hnone⟩
  | cons job rest ih =>
    have hid : job.subscription.id ≠ id := hjobs job List.mem_cons_self
    obtain ⟨posts, hextends, hposting⟩ := work_posting now job o
    obtain ⟨posts', hextends', hposts', hleft, hclean⟩ :=
      ih (fun job' hjob' => hjobs job' (List.mem_cons_of_mem _ hjob')) (work now job o).2
    refine ⟨posts ++ posts', hextends.trans hextends', ?_, ?_, fun hnone => ?_⟩
    · rw [List.filter_append, hposts', List.append_nil]
      exact filter_post_isFor_eq_nil fun post hpost => by
        rw [(hposting.addressed post hpost).1]
        exact hid
    · show ((work now job o).1.remains ++ (workThrough (work now) rest (work now job o).2).1).filter
        (PushJob.isFor id) = []
      rw [List.filter_append, hleft, List.append_nil]
      exact filter_isFor_eq_nil fun job' hjob' => by
        rw [hposting.rest_subscription job' hjob']
        exact hid
    · exact hclean (hposting.start?_of_ne hid hnone)

/-- The turn of the job of a subscription among jobs for others is all that is seen from it. -/
theorem workThrough_one (now : Instant) (before after : List PushJob) (job : PushJob)
    (hbefore : ∀ job' ∈ before, job'.subscription.id ≠ job.subscription.id)
    (hafter : ∀ job' ∈ after, job'.subscription.id ≠ job.subscription.id) (o : Outbound) :
    ∃ posts o', o.Extends (workThrough (work now) (before ++ job :: after) o).2 posts ∧
      job.Turns (posts.filter (Post.isFor job.subscription.id))
        ((workThrough (work now) (before ++ job :: after) o).1.filter
          (PushJob.isFor job.subscription.id)) o' ∧
      job.Worked ((workThrough (work now) (before ++ job :: after) o).2.registry.streaks.start?
          job.subscription.id = none) False (posts.filter (Post.isFor job.subscription.id))
        ((workThrough (work now) (before ++ job :: after) o).1.filter
          (PushJob.isFor job.subscription.id)) := by
  rw [workThrough_append]
  obtain ⟨posts₁, hextends₁, hposts₁, hleft₁, -⟩ := workThrough_others now before hbefore o
  generalize workThrough (work now) before o = first at *
  obtain ⟨held₁, o₁⟩ := first
  dsimp only at hextends₁ hleft₁ ⊢
  have hcons : workThrough (work now) (job :: after) o₁ =
      ((work now job o₁).1.remains ++ (workThrough (work now) after (work now job o₁).2).1,
        (workThrough (work now) after (work now job o₁).2).2) := rfl
  rw [hcons]
  obtain ⟨made, hextends, hmade, hrest, hworked⟩ := work_worked now job o₁
  obtain ⟨posts₂, hextends₂, hposts₂, hleft₂, hclean⟩ :=
    workThrough_others now after hafter (work now job o₁).2
  have hfilter : (posts₁ ++ (made ++ posts₂)).filter (Post.isFor job.subscription.id) = made := by
    rw [List.filter_append, List.filter_append, hposts₁, hposts₂, List.append_nil, List.nil_append,
      List.filter_eq_self]
    exact fun post hpost => decide_eq_true (hmade post hpost)
  have hleft : (held₁ ++ ((work now job o₁).1.remains ++
      (workThrough (work now) after (work now job o₁).2).1)).filter
        (PushJob.isFor job.subscription.id) = (work now job o₁).1.remains := by
    rw [List.filter_append, List.filter_append, hleft₁, hleft₂, List.append_nil, List.nil_append,
      List.filter_eq_self]
    exact fun rest hmem => decide_eq_true (by rw [hrest rest hmem])
  refine ⟨posts₁ ++ (made ++ posts₂), (work now job o₁).2,
    hextends₁.trans (hextends.trans hextends₂), ?_, ?_⟩
  · rw [hfilter, hleft]
    exact .turn (.start o₁) now o₁ hextends.posts
  · rw [hfilter, hleft]
    exact hworked.imp hclean id

end Outbound

namespace PushJob

variable {job left : PushJob} {made : List Post} {rest : List PushJob} {o : Outbound}
  {clean busy : Prop}

/-- What a job may leave: itself, untouched, or its payloads behind a held post. -/
theorem Outcome.left_eq (h : job.Outcome clean busy made [left]) :
    (∀ post ∈ made, post.reply.passes = true) ∧
      left = ⟨job.subscription, job.payloads.drop made.length, job.chunks⟩ := by
  generalize hrest : [left] = rest at h
  cases h with
  | posted => exact nomatch hrest
  | failed => exact nomatch hrest
  | held earlier last hpass hheld =>
    refine ⟨fun post hpost => ?_, (List.cons.inj hrest).1⟩
    rcases List.mem_append.1 hpost with hearlier | hlast
    · exact hpass post hearlier
    · rw [List.mem_singleton.1 hlast, hheld]
      rfl
  | waits => exact ⟨fun _ hnil => (nomatch hnil), (List.cons.inj hrest).1⟩

/-- A further turn carries the posts of a job on. -/
theorem Worked.turn (h : job.Worked clean busy made [left]) (now : Instant) (o : Outbound) :
    ∃ posts, (Outbound.work now left o).2.posts = o.posts ++ posts ∧
      job.Worked ((Outbound.work now left o).2.registry.streaks.start? job.subscription.id = none)
        False (made ++ posts) (Outbound.work now left o).1.remains := by
  obtain ⟨hpass, rfl⟩ := h.outcome.left_eq
  obtain ⟨posts, hextends, -, -, hworked⟩ := Outbound.work_worked now
    ⟨job.subscription, job.payloads.drop made.length, job.chunks⟩ o
  have hall {posts : List Post} (hposts : ∀ post ∈ posts, post.reply.passes = true) :
      ∀ post ∈ made ++ posts, post.reply.passes = true := fun post hpost =>
    (List.mem_append.1 hpost).elim (hpass post) (hposts post)
  have hmade : made.length ≤ job.payloads.length := by
    have hlength := congrArg List.length h.payloads
    rw [List.length_map, List.length_take] at hlength
    omega
  refine ⟨posts, hextends.posts, ?_, fun post hpost => ?_, ?_⟩
  · rw [List.map_append, h.payloads, hworked.payloads, List.length_append, List.take_add]
  · exact (List.mem_append.1 hpost).elim (h.addressed post) (hworked.addressed post)
  · generalize (Outbound.work now _ o).1.remains = rest at hworked ⊢
    cases hworked.outcome with
    | posted _ hlength hposts hclean =>
      refine .posted _ ?_ (hall hposts) hclean
      rw [List.length_append, hlength, List.length_drop]
      omega
    | failed earlier last hposts hfails =>
      rw [← List.append_assoc]
      exact .failed _ last (hall hposts) hfails
    | held earlier last hposts hheld =>
      rw [← List.append_assoc, List.drop_drop, ← List.length_append, ← List.append_assoc]
      exact .held _ last (hall hposts) hheld
    | waits hbusy => exact hbusy.elim

/-- However the turns of a job go, they post what it has, in order, up to the first post that
fails. -/
theorem Turns.worked (h : job.Turns made rest o) :
    job.Worked (o.registry.streaks.start? job.subscription.id = none) True made rest := by
  induction h with
  | start o => exact ⟨rfl, fun _ hnil => (nomatch hnil), .waits trivial⟩
  | turn _ now o' hposts ih =>
    obtain ⟨posts', hposts', hworked⟩ := ih.turn now o'
    rw [List.append_cancel_left (hposts.symm.trans hposts')]
    exact hworked.imp id False.elim

end PushJob

namespace WorkerPool

variable {p : WorkerPool PushJob} {id : String}

theorem pendingFor_withJobs (waiting : List PushJob) (running : List (Seat PushJob)) :
    (p.withJobs waiting running).pendingFor id =
      (running.map Seat.job).filter (PushJob.isFor id) ++ waiting.filter (PushJob.isFor id) :=
  List.filter_append ..

theorem map_job_heldSeats {J : Type} (rests : List J) : (heldSeats rests).map Seat.job = rests := by
  rw [heldSeats, List.map_map]
  exact List.map_id _

/-- Where only jobs for other subscriptions were put into the queue, nothing is seen of them. -/
theorem settle_others (now : Instant) (hrest : p.AtRest) {jobs : List PushJob}
    (hnone : jobs.filter (PushJob.isFor id) = []) (o : Outbound) :
    let settled := (p.withJobs (p.waiting ++ jobs) p.running).settle (Outbound.work now) o
    ∃ posts, o.Extends settled.2 posts ∧ posts.filter (Post.isFor id) = [] ∧
      settled.1.pendingFor id = p.pendingFor id := by
  obtain ⟨done, left, rfl, hsettle, -, -⟩ := settle_of_atRest (Outbound.work now) hrest jobs o
  rw [List.filter_append] at hnone
  obtain ⟨hdone, hleft⟩ := List.append_eq_nil_iff.1 hnone
  obtain ⟨posts, hextends, hposts, hheld, -⟩ := Outbound.workThrough_others now done
    (fun job hjob hid => List.filter_eq_nil_iff.1 hdone job hjob (decide_eq_true hid)) o
  intro settled
  refine ⟨posts, ?_, hposts, ?_⟩
  · show o.Extends ((p.withJobs _ p.running).settle (Outbound.work now) o).2 posts
    rw [hsettle]
    exact hextends
  · show ((p.withJobs _ p.running).settle (Outbound.work now) o).1.pendingFor id = _
    rw [hsettle, pendingFor_withJobs, List.map_append, map_job_heldSeats, List.filter_append, hheld,
      List.append_nil, List.filter_append, hleft, List.append_nil]
    exact (List.filter_append ..).symm

/-- Either the workers came past a job, or it stands in what they left. -/
theorem done_or_left {job : PushJob} {before after done left : List PushJob}
    (hsplit : before ++ job :: after = done ++ left) :
    (∃ after', done = before ++ job :: after' ∧ after = after' ++ left) ∨
      ∃ before', before = done ++ before' ∧ left = before' ++ job :: after := by
  rcases List.append_eq_append_iff.1 hsplit with ⟨passed, hdone, hcons⟩ | ⟨before', hbefore, hleft⟩
  · cases passed with
    | nil => exact Or.inr ⟨[], by rw [hdone, List.append_nil, List.append_nil], hcons.symm⟩
    | cons first after' =>
      obtain ⟨rfl, hafter⟩ := List.cons.inj hcons
      exact Or.inl ⟨after', hdone, hafter⟩
  · exact Or.inr ⟨before', hbefore, hleft⟩

/-- Where a job was put into the queue among jobs for other subscriptions, it gets its turn if it
can, and nothing else is seen. -/
theorem settle_one (now : Instant) (hrest : p.AtRest) {jobs : List PushJob} (job : PushJob)
    (honly : jobs.filter (PushJob.isFor job.subscription.id) = [job]) (o : Outbound) :
    let settled := (p.withJobs (p.waiting ++ jobs) p.running).settle (Outbound.work now) o
    ∃ posts rest o', o.Extends settled.2 posts ∧
      settled.1.pendingFor job.subscription.id = p.pendingFor job.subscription.id ++ rest ∧
      job.Turns (posts.filter (Post.isFor job.subscription.id)) rest o' ∧
      job.Worked (settled.2.registry.streaks.start? job.subscription.id = none)
        (settled.1.workers ≤ settled.1.running.length)
        (posts.filter (Post.isFor job.subscription.id)) rest := by
  obtain ⟨before, after, rfl, hbefore, -, hafter⟩ := List.filter_eq_cons_iff.1 honly
  replace hbefore : ∀ job' ∈ before, job'.subscription.id ≠ job.subscription.id :=
    fun job' hjob' hid => hbefore job' hjob' (decide_eq_true hid)
  replace hafter : ∀ job' ∈ after, job'.subscription.id ≠ job.subscription.id :=
    fun job' hjob' hid => List.filter_eq_nil_iff.1 hafter job' hjob' (decide_eq_true hid)
  obtain ⟨done, left, hsplit, hsettle, hleft, hwaiting⟩ :=
    settle_of_atRest (Outbound.work now) hrest (before ++ job :: after) o
  intro settled
  have hsettled : settled = _ := hsettle
  rw [hsettled]
  have hrunning : p.pendingFor job.subscription.id =
      (p.running.map Seat.job).filter (PushJob.isFor job.subscription.id) ++
        p.waiting.filter (PushJob.isFor job.subscription.id) := List.filter_append ..
  rcases done_or_left hsplit with ⟨after', rfl, rfl⟩ | ⟨before', rfl, rfl⟩
  · have hnone := hwaiting.resolve_right (by simp)
    have hunseen := Outbound.filter_isFor_eq_nil fun job' hjob' =>
      hafter job' (List.mem_append_right after' hjob')
    obtain ⟨posts, o', hextends, hturns, hworked⟩ := Outbound.workThrough_one now before
      after' job hbefore (fun job' hjob' => hafter job' (List.mem_append_left _ hjob')) o
    refine ⟨posts, _, o', hextends, ?_, hturns, hworked.imp id False.elim⟩
    rw [pendingFor_withJobs, List.map_append, map_job_heldSeats, List.filter_append, hrunning, hnone,
      List.nil_append, hunseen]
    simp
  · have hthis : [job].filter (PushJob.isFor job.subscription.id) = [job] :=
      List.filter_eq_self.2 fun job' hjob' => decide_eq_true (by rw [List.mem_singleton.1 hjob'])
    obtain ⟨posts, hextends, hposts, hheld, -⟩ := Outbound.workThrough_others now done
      (fun job' hjob' => hbefore job' (List.mem_append_left _ hjob')) o
    have hbefore' := Outbound.filter_isFor_eq_nil fun job' hjob' =>
      hbefore job' (List.mem_append_right done hjob')
    refine ⟨posts, [job], o, hextends, ?_, ?_, ?_⟩
    · rw [pendingFor_withJobs, List.map_append, map_job_heldSeats, List.filter_append, hheld,
        List.append_nil, hrunning, List.filter_append, List.filter_append, hbefore',
        List.nil_append, ← List.singleton_append, List.filter_append, hthis,
        Outbound.filter_isFor_eq_nil hafter, List.append_nil, List.append_assoc]
    · rw [hposts]
      exact .start o
    · rw [hposts]
      exact ⟨rfl, fun _ hnil => (nomatch hnil), .waits (hleft.resolve_left (by simp))⟩

end WorkerPool

end TransitHub
