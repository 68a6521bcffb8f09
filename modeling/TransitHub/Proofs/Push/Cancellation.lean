/-
# What a cancellation goes back to

A push that fails cancels its subscription if the failures go back too far. They go back to a failed
post since which no job of the subscription was completed. This is less than that every post since
has failed: a job may post a part of its payloads before one fails, and then the registry learns of
the failure only. Where every turn since made a single post, which was not held, it is the same.
-/

import TransitHub.Proofs.Push.Run
import TransitHub.Proofs.Push.Turns
import TransitHub.Proofs.Registry.Failing

namespace TransitHub

namespace Turn

variable {id : String}

/-- Whether a turn is for the subscription with an identifier. -/
def IsFor (id : String) (turn : Turn) : Prop := turn.job.subscription.id = id

/-- Whether everything of the job is posted in the end. -/
def Completes (turn : Turn) : Prop :=
  turn.progress = .finished ∧ ∀ post ∈ turn.posts, post.reply.passes = true

/-- Whether a turn makes one post, which is not held. -/
def IsSingle (turn : Turn) : Prop := turn.posts.length = 1 ∧ turn.progress.remains = []

/-- Whether a turn ends with a post that fails, so that the registry learns of it. -/
def FailsWith (turn : Turn) (failure : Post) : Prop :=
  ∃ made e, turn.posts = made ++ [failure] ∧ failure.reply = .fail e

theorem FailsWith.not_completes {turn : Turn} {failure : Post} (h : turn.FailsWith failure) :
    ¬ turn.Completes := by
  intro hcompletes
  obtain ⟨made, e, hposts, hfails⟩ := h
  have hpasses := hcompletes.2 failure (by rw [hposts]; simp)
  rw [hfails] at hpasses
  exact nomatch hpasses

/-- All posts of a turn that does not complete its job fail exactly if there is one post, which is
not held. -/
theorem all_fail_iff {turn : Turn} (h : ¬ turn.Completes) :
    (∀ post ∈ turn.posts, post.reply.fails = true) ↔ turn.IsSingle := by
  rcases turn.goes.ways with ⟨hpass, -, hprogress, -⟩ | ⟨made, last, hposts, hpass, -, hlast⟩
  · exact absurd ⟨hprogress, hpass⟩ h
  have hmade : (∀ post ∈ turn.posts, post.reply.fails = true) ↔
      made = [] ∧ last.reply.fails = true := by
    rw [hposts, List.forall_mem_append, List.forall_mem_singleton]
    refine and_congr_left fun _ => ⟨fun hfail => ?_, fun hnil => by simp [hnil]⟩
    refine List.eq_nil_iff_forall_not_mem.2 fun post hpost => ?_
    have hboth := hfail post hpost
    rw [Reply.fails, hpass post hpost] at hboth
    exact nomatch hboth
  have hlength : turn.posts.length = 1 ↔ made = [] := by
    rw [hposts, List.length_append, List.length_singleton, Nat.add_eq_right, List.length_eq_zero_iff]
  rw [hmade, IsSingle, hlength]
  refine and_congr_right fun _ => ?_
  rcases hlast with ⟨e, hreply, hprogress, -⟩ | ⟨hreply, hprogress, -⟩ | ⟨hreply, hprogress, -⟩
  · simp [hreply, hprogress, Reply.fails, Reply.passes, Progress.remains]
  · simp [hreply, hprogress, Reply.fails, Reply.passes, Progress.remains]
  · simp [hreply, hprogress, Reply.fails, Reply.passes, Progress.remains]

/-- Where no turn for a subscription completes its job, all posts to it fail exactly if each of the
turns makes a single one. -/
theorem all_fail_flatMap_iff {turns : List Turn}
    (h : ∀ turn ∈ turns, turn.IsFor id → ¬ turn.Completes) :
    (∀ post ∈ turns.flatMap posts, post.subscription = id → post.reply.fails = true) ↔
      ∀ turn ∈ turns, turn.IsFor id → turn.IsSingle := by
  constructor
  · intro hfail turn hturn hid
    refine (all_fail_iff (h turn hturn hid)).1 fun post hpost => ?_
    exact hfail post (List.mem_flatMap.2 ⟨turn, hturn, hpost⟩) ((subscription_eq hpost).trans hid)
  · intro hsingle post hpost hid
    obtain ⟨turn, hturn, hpost⟩ := List.mem_flatMap.1 hpost
    have hfor : turn.IsFor id := (subscription_eq hpost).symm.trans hid
    exact (all_fail_iff (h turn hturn hfor)).2 (hsingle turn hturn hfor) post hpost

/-! ## Streaks -/

/-- Whether the failures of a subscription go back to an instant: a push to it failed then, and no
job of it was completed since. -/
def FailingFrom (past : List Turn) (id : String) (start : Instant) : Prop :=
  ∃ earlier first between failure, past = earlier ++ first :: between ∧ first.IsFor id ∧
    first.FailsWith failure ∧ failure.madeAt = start ∧
    ∀ turn ∈ between, turn.IsFor id → ¬ turn.Completes

variable {past : List Turn} {start : Instant}

theorem FailingFrom.snoc {turn : Turn} (h : FailingFrom past id start)
    (hturn : turn.IsFor id → ¬ turn.Completes) : FailingFrom (past ++ [turn]) id start := by
  obtain ⟨earlier, first, between, failure, rfl, hid, hfails, hstart, hbetween⟩ := h
  refine ⟨earlier, first, between ++ [turn], failure, by simp, hid, hfails, hstart, ?_⟩
  rw [List.forall_mem_append, List.forall_mem_singleton]
  exact ⟨hbetween, hturn⟩

/-- Whether every streak of a registry goes back to a failed push. -/
def Explain (past : List Turn) (r : Registry) : Prop :=
  ∀ id start, r.streaks.start? id = some start → FailingFrom past id start

theorem explain_empty : Explain [] .empty :=
  fun _ _ hstart => nomatch hstart.symm.trans Std.ExtTreeMap.getElem?_empty

/-- A turn starts a streak only by a post that fails, and goes on with it unless it completes its
job. -/
theorem Explain.snoc {turn : Turn} (h : Explain past turn.before) :
    Explain (past ++ [turn]) turn.after := by
  intro id start hstart
  rcases turn.goes.ways with ⟨-, -, -, hafter⟩ |
    ⟨made, last, hposts, -, hnow, ⟨e, hreply, hprogress, hafter⟩ | ⟨-, hprogress, hafter⟩ |
      ⟨-, hprogress, hafter⟩⟩
  · rw [hafter, Registry.start?_noteSuccess, Option.ite_none_left_eq_some] at hstart
    exact (h id start hstart.2).snoc fun hid => absurd hid hstart.1
  · have hfails : turn.FailsWith last := ⟨made, e, hposts, hreply⟩
    have hperformed : Registry.Performed turn.before ⟨.epoch, turn.madeAt⟩
        (.failure turn.job.subscription) turn.after := by
      rw [hafter]
      exact turn.before.perform_performed ⟨.epoch, turn.madeAt⟩ (.failure turn.job.subscription)
    rcases hperformed.start?_some hstart with hbefore | ⟨s, hop, hid, -, rfl⟩
    · exact (h id start hbefore).snoc fun _ => hfails.not_completes
    · obtain rfl := RegistryOp.failure.inj hop
      exact ⟨past, turn, [], last, rfl, hid, hfails, hnow, fun _ hnil => nomatch hnil⟩
  · rw [hafter] at hstart
    exact (h id start hstart).snoc fun _ hcompletes => nomatch hprogress.symm.trans hcompletes.1
  · rw [hafter] at hstart
    exact (h id start hstart).snoc fun _ hcompletes => nomatch hprogress.symm.trans hcompletes.1

/-- A turn that removes a subscription is for it, and its last post fails after a streak that is
longer than the grace period of the setup that it is for. -/
theorem cancels {turn : Turn} (hlive : turn.before.contains turn.madeAt id = true)
    (hgone : turn.after.contains turn.madeAt id = false) :
    turn.IsFor id ∧ (∃ last, turn.FailsWith last ∧ last.madeAt = turn.madeAt) ∧
      ∃ start, turn.before.streaks.start? id = some start ∧
        max (3 * turn.job.subscription.heartbeatInterval) (5 * Duration.minute) <
          turn.madeAt.since start := by
  -- Whatever leaves the subscription there is not what happened.
  have hstill {r : Registry} (hafter : turn.after = r)
      (hthere : r.contains turn.madeAt id = true) : False := by
    rw [← hafter, hgone] at hthere
    exact nomatch hthere
  rcases turn.goes.ways with ⟨-, -, -, hafter⟩ |
    ⟨made, last, hposts, -, hnow, ⟨e, hreply, -, hafter⟩ | ⟨-, -, hafter⟩ | ⟨-, -, hafter⟩⟩
  · exact (hstill hafter hlive).elim
  · cases hthere : turn.before.contains turn.madeAt turn.job.subscription.id with
    | false =>
      rw [Registry.noteFailure_of_absent hthere] at hafter
      exact (hstill hafter hlive).elim
    | true =>
      cases hgrace : turn.before.cancels turn.madeAt turn.job.subscription with
      | false =>
        rw [Registry.noteFailure_of_grace hthere hgrace] at hafter
        exact (hstill hafter hlive).elim
      | true =>
        rw [Registry.noteFailure_of_cancels hthere hgrace] at hafter
        have hid : turn.job.subscription.id = id := by
          refine Decidable.byContradiction fun hother => hstill hafter ?_
          rw [Registry.contains_eq, Registry.slot?_refresh, Registry.slot?_drop, if_neg hother]
          exact hlive
        have hlate := of_decide_eq_true hgrace
        rw [turn.job.subscription.gracePeriod_eq, hid] at hlate
        refine ⟨hid, ⟨last, ⟨made, e, hposts, hreply⟩, hnow⟩, ?_⟩
        cases hstart : turn.before.streaks.start? id with
        | none =>
          -- A streak that begins now is no longer than any grace period.
          rw [hstart, Option.getD_none, Instant.since, Int.sub_self] at hlate
          exact absurd hlate (Nat.not_lt_zero _)
        | some start =>
          rw [hstart] at hlate
          exact ⟨start, rfl, hlate⟩
  · exact (hstill hafter hlive).elim
  · exact (hstill hafter hlive).elim

end Turn

namespace TimedDispatcher

variable {t : TimedDispatcher}

/-- The streaks of a run go back to failed pushes. -/
theorem explain_run {past : List Turn} (h : Turn.Explain past t.dispatcher.registry)
    (ops : List DispatcherOp) :
    Turn.Explain (past ++ t.turns ops) (t.run ops).dispatcher.registry := by
  induction ops generalizing t past with
  | nil => rwa [turns, List.append_nil]
  | cons op rest ih =>
    rw [turns, ← List.append_assoc]
    refine ih ?_
    show Turn.Explain _ (t.dispatcher.perform t.clock op).registry
    rcases t.dispatcher.perform_cases t.clock op with ⟨turn, hturn, -, hbefore, hafter, -⟩ |
      ⟨hturn, -, hsame | ⟨op', hcalm, hregistry⟩⟩
    · rw [hturn, ← hafter]
      rw [← hbefore] at h
      exact h.snoc
    · rwa [hturn, Option.toList_none, List.append_nil, hsame]
    · rw [hturn, Option.toList_none, List.append_nil, hregistry]
      intro id start hstart
      rcases (t.dispatcher.registry.perform_performed t.clock op').start?_some hstart with
        hbefore | ⟨s, rfl, -⟩
      · exact h id start hbefore
      · exact hcalm.elim

/-- Whether a push to a subscription failed longer ago than a grace period, and every post to it that
came after failed. -/
def FailedThroughout (id : String) (grace : Duration) (now : Instant) : List Post → Prop
  | [] => False
  | post :: later =>
    (post.subscription = id ∧ post.reply.fails = true ∧ grace < now.since post.madeAt ∧
      ∀ other ∈ later, other.subscription = id → other.reply.fails = true) ∨
    FailedThroughout id grace now later

instance instDecidableFailedThroughout (id : String) (grace : Duration) (now : Instant) :
    (posts : List Post) → Decidable (FailedThroughout id grace now posts)
  | [] => inferInstanceAs (Decidable False)
  | _ :: later =>
    have := instDecidableFailedThroughout id grace now later
    inferInstanceAs (Decidable (_ ∨ _))

theorem FailedThroughout.of_mem {id : String} {grace : Duration} {now : Instant} {failure : Post}
    {before later : List Post} (hid : failure.subscription = id) (hfails : failure.reply.fails = true)
    (hgrace : grace < now.since failure.madeAt)
    (hlater : ∀ other ∈ later, other.subscription = id → other.reply.fails = true) :
    FailedThroughout id grace now (before ++ failure :: later) := by
  induction before with
  | nil => exact Or.inl ⟨hid, hfails, hgrace, hlater⟩
  | cons _ _ ih => exact Or.inr ih

/-- The posts of a run after the last one of some turn are those of the later turns. -/
theorem posts_of_turns (t : TimedDispatcher) (ops : List DispatcherOp) {earlier later : List Turn}
    {first : Turn} {made : List Post} {last : Post}
    (hturns : t.turns ops = earlier ++ first :: later) (hposts : first.posts = made ++ [last]) :
    (t.run ops).posts =
      (t.posts ++ earlier.flatMap Turn.posts ++ made) ++ last :: later.flatMap Turn.posts := by
  rw [posts_run, hturns, List.flatMap_append, List.flatMap_cons, hposts]
  simp

/-- A turn that cancels a subscription ends with a failed post. The failures go back to an earlier
one, before the grace period of the setup that was posted to, and no job of the subscription was
completed since. Every post to the subscription since then failed exactly if each of its turns since
then made a single post. -/
theorem cancelled_since_failure (c : Clock) (workers capacity : Nat) (builder : PayloadBuilder)
    (maxElements : Nat) (ops : List DispatcherOp) (seat : Nat) (id : String)
    (hlive : ((start c workers capacity builder maxElements).run ops).contains id = true)
    (hgone : (((start c workers capacity builder maxElements).run ops).next
      (.turn seat)).contains id = false) :
    let begun := start c workers capacity builder maxElements
    let now := (begun.run ops).clock.now
    let after := (begun.run ops).next (.turn seat)
    ∃ earlier first between last failure,
      begun.turns (ops ++ [.turn seat]) = earlier ++ first :: (between ++ [last]) ∧
      first.IsFor id ∧ first.FailsWith failure ∧
      last.IsFor id ∧ (∃ final, last.FailsWith final ∧ final.madeAt = now) ∧
      max (3 * last.job.subscription.heartbeatInterval) (5 * Duration.minute) <
        now.since failure.madeAt ∧
      (∀ turn ∈ between, turn.IsFor id → ¬ turn.Completes) ∧
      ∃ before, after.posts = before ++ failure :: (between ++ [last]).flatMap Turn.posts ∧
        ((∀ post ∈ (between ++ [last]).flatMap Turn.posts, post.subscription = id →
            post.reply.fails = true) ↔ ∀ turn ∈ between ++ [last], turn.IsFor id → turn.IsSingle) ∧
        ((∀ turn ∈ between ++ [last], turn.IsFor id → turn.IsSingle) →
          FailedThroughout id
            (max (3 * last.job.subscription.heartbeatInterval) (5 * Duration.minute)) now
            after.posts) := by
  intro begun now after
  have hexplain : Turn.Explain (begun.turns ops) (begun.run ops).dispatcher.registry :=
    explain_run (t := begun) Turn.explain_empty ops
  rcases (begun.run ops).dispatcher.goOn_cases (begun.run ops).clock seat with
    ⟨last, hturn, hnow, hbefore, hafter, -⟩ | ⟨-, hsame⟩
  · rw [contains, ← hbefore, ← hnow] at hlive
    have hgone' : last.after.contains last.madeAt id = false := by
      rw [hafter, hnow]
      exact hgone
    obtain ⟨hid, ⟨final, hfinal, hmade⟩, start, hstart, hlate⟩ := Turn.cancels hlive hgone'
    rw [hbefore] at hstart
    rw [hnow] at hlate
    obtain ⟨earlier, first, between, failure, hsplit, hfirst, hfails, rfl, hbetween⟩ :=
      hexplain id start hstart
    have hturns : begun.turns (ops ++ [.turn seat]) =
        earlier ++ first :: (between ++ [last]) := by
      rw [turns_append, hsplit, turns, hturn, turns, Option.toList_some, List.append_nil,
        List.append_assoc, List.cons_append]
    have hopen : ∀ turn ∈ between ++ [last], turn.IsFor id → ¬ turn.Completes := by
      rw [List.forall_mem_append, List.forall_mem_singleton]
      exact ⟨hbetween, fun _ => hfinal.not_completes⟩
    have hiff := Turn.all_fail_flatMap_iff hopen
    obtain ⟨made, e, hposts, hreply⟩ := hfails
    have hrun : begun.run (ops ++ [.turn seat]) = after := by
      rw [run, List.foldl_append]
      rfl
    have hall := begun.posts_of_turns (ops ++ [.turn seat]) hturns hposts
    rw [hrun] at hall
    refine ⟨earlier, first, between, last, failure, hturns, hfirst, ⟨made, e, hposts, hreply⟩, hid,
      ⟨final, hfinal, hmade.trans hnow⟩, hlate, hbetween, _, hall, hiff, fun hsingle => ?_⟩
    rw [hall]
    refine .of_mem ?_ ?_ hlate (hiff.2 hsingle)
    · exact (Turn.subscription_eq (by rw [hposts]; simp)).trans hfirst
    · rw [hreply]
      rfl
  · have hkept : after.contains id = (begun.run ops).contains id :=
      congrArg (fun d : Dispatcher => d.registry.contains now id) hsame
    exact absurd (hgone.symm.trans (hkept.trans hlive)) Bool.false_ne_true

/-- A dispatcher with one worker that posts entities one by one, and a subscription. Twice, six minutes
apart, two messages are delivered to it, and the posts are answered in turn. -/
def deliveredTwice (replies : List Reply) (documents : List (Except String Json)) :
    TimedDispatcher :=
  let request : SubscriptionRequest := {
    kind := .generalMessage, address := some "http://consumer/push" }
  let s := request.subscription "sub" "http://consumer/push" .epoch
  (start ⟨.epoch, 0⟩ 1 10 (.json "producer") 1).run [.subscribe "sub" request,
    .script "http://consumer/push" replies, .deliver .generalMessage s documents, .start, .turn 0,
    .pass (.advance (6 * Duration.minute)), .deliver .generalMessage s documents, .start]

/-- Each time the only message fails. -/
theorem cancelled_after_failures :
    let t := deliveredTwice [.fail .timeout] [.ok (.string "first")]
    let after := t.next (.turn 0)
    t.contains "sub" = true ∧ after.contains "sub" = false ∧
      ∃ failure ∈ after.posts, failure.reply.fails = true ∧
        5 * Duration.minute < t.clock.now.since failure.madeAt := by
  intro t after
  have hlive : t.contains "sub" = true := by decide +kernel
  have hgone : after.contains "sub" = false := by decide +kernel
  obtain ⟨_, _, _, last, failure, -, -, ⟨made, e, -, hreply⟩, -, -, hlate, -, before, hposts, -⟩ :=
    cancelled_since_failure ⟨.epoch, 0⟩ 1 10 (.json "producer") 1 _ 0 "sub" hlive hgone
  have hall : after.posts = before ++ failure :: _ := hposts
  refine ⟨hlive, hgone, failure, ?_, ?_, ?_⟩
  · rw [hall]
    exact List.mem_append_right _ List.mem_cons_self
  · rw [hreply]
    rfl
  · exact Nat.lt_of_le_of_lt (Nat.le_max_right _ _) hlate

/-- Each time the second of two messages fails. The subscription is cancelled, although the post
before went through. -/
theorem cancelled_after_success :
    let t := deliveredTwice [.accept, .fail .timeout, .accept, .fail .timeout]
      [.ok (.string "first"), .ok (.string "second")]
    let after := t.next (.turn 0)
    t.contains "sub" = true ∧ after.contains "sub" = false ∧
      after.posts.map (fun post => (post.subscription, post.reply.fails, post.madeAt)) =
        [("sub", false, 0), ("sub", true, 0), ("sub", false, t.clock.now),
          ("sub", true, t.clock.now)] ∧
      ¬ FailedThroughout "sub" (5 * Duration.minute) t.clock.now after.posts := by
  refine ⟨?_, ?_, ?_, ?_⟩
  · decide +kernel
  · decide +kernel
  · decide +kernel
  · decide +kernel

end TimedDispatcher

end TransitHub
