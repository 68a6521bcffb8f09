/-
# The pace of a periodic loop

No tick of a loop runs before its time: the first one a period after the start, and every other one
a period after the time of the one before it. Where the period is longer than the tolerance, a tick
that has run is followed by none until the clock moves again. When ticks run does not depend on
which of them crash.

A loop that has seen `true` on its channel or the end of the channel does nothing any more. Until
then it runs the ticks that it would run without a channel.
-/

import TransitHub.Proofs.Periodic.Run

namespace TransitHub

namespace PeriodicLoop

variable {l : PeriodicLoop} {startedAt now : Instant}

/-- Whether the next tick is not due before its time. -/
def Paced (l : PeriodicLoop) (startedAt : Instant) : Prop :=
  startedAt + ((l.ticks + 1) * l.period : Nat) ≤ l.due

theorem paced_start (period : Duration) (startedAt : Instant) :
    (start period startedAt).Paced startedAt := by
  show startedAt + ((0 + 1) * max period Duration.millisecond : Nat) ≤
    startedAt + (max period Duration.millisecond : Nat)
  exact Int.le_of_eq (by rw [Nat.zero_add, Nat.one_mul])

theorem Paced.tick (h : l.Paced startedAt) (hdue : l.due ≤ now) :
    (l.tick now).Paced startedAt := by
  have hnext := due_le_due_tick hdue
  unfold Paced at h
  show startedAt + ((l.ticks + 1 + 1) * l.period : Nat) ≤ _
  rw [Nat.succ_mul]
  grind

/-- With a period longer than the tolerance, a tick leaves no other one due. -/
theorem lt_due_tick (hperiod : tolerance < l.period) : now < (l.tick now).due := by
  show now < (if now ≤ l.due + (tolerance : Nat) then l.due else now) + (l.period : Nat)
  split <;> grind

/-- Whether a loop has the schedule of another one. -/
structure OnSchedule (l l' : PeriodicLoop) : Prop where
  period : l'.period = l.period
  due : l'.due = l.due
  ticks : l'.ticks = l.ticks

theorem OnSchedule.paced {l' : PeriodicLoop} (h : l.OnSchedule l') (hpaced : l.Paced startedAt) :
    l'.Paced startedAt := by
  unfold Paced
  rw [h.period, h.due, h.ticks]
  exact hpaced

end PeriodicLoop

namespace TimedLoop

variable {t : TimedLoop} {crashes : Nat → Bool} {ops : List LoopOp} {startedAt : Instant}

/-! ## The schedule -/

/-- A step runs a tick that is due, or it leaves the schedule alone. -/
theorem ran_or_kept (crashes : Nat → Bool) (t : TimedLoop) (op : LoopOp) :
    (t.loop.due ≤ t.now ∧ t.perform crashes op =
      ([.ran ⟨t.loop.ticks, t.now, crashes t.loop.ticks⟩], { t with loop := t.loop.tick t.now })) ∨
    (LoopEvent.ticks (t.perform crashes op).1 = [] ∧
      t.loop.OnSchedule (t.perform crashes op).2.loop) := by
  cases op with
  | pass d => exact Or.inr ⟨rfl, rfl, rfl, rfl⟩
  | publish value => exact Or.inr ⟨rfl, rfl, rfl, rfl⟩
  | hangUp => exact Or.inr ⟨rfl, rfl, rfl, rfl⟩
  | tick =>
    rw [perform]
    rcases t.takeTick_cases crashes with htake | ⟨htake, hdue⟩
    · rw [htake]
      exact Or.inr ⟨rfl, rfl, rfl, rfl⟩
    · exact Or.inl ⟨hdue, htake⟩
  | look =>
    refine Or.inr ?_
    rw [perform]
    rcases t.look_cases with hlook | ⟨hlook, -⟩ | ⟨hlook, -⟩ <;> rw [hlook] <;>
      exact ⟨rfl, rfl, rfl, rfl⟩

theorem period_after (crashes : Nat → Bool) (t : TimedLoop) (ops : List LoopOp) :
    (t.after crashes ops).loop.period = t.loop.period := by
  induction ops generalizing t with
  | nil => rfl
  | cons op rest ih =>
    rw [after_cons, ih]
    rcases t.ran_or_kept crashes op with ⟨-, hran⟩ | ⟨-, hkept⟩
    · rw [hran]
      rfl
    · exact hkept.period

/-- Every tick of a loop runs at its time or later. -/
theorem paced_ticks (hpaced : t.loop.Paced startedAt) {n : Nat} {tick : Tick}
    (htick : (t.ticks crashes ops)[n]? = some tick) :
    startedAt + ((t.loop.ticks + n + 1) * t.loop.period : Nat) ≤ tick.ranAt := by
  induction ops generalizing t n with
  | nil => exact nomatch htick
  | cons op rest ih =>
    rw [ticks_cons] at htick
    rcases t.ran_or_kept crashes op with ⟨hdue, hran⟩ | ⟨hnone, hkept⟩
    · rw [hran] at htick
      -- the tick that runs here is the next one to run, or one that runs after it
      cases n with
      | zero =>
        obtain rfl := Option.some.inj htick
        exact Int.le_trans hpaced hdue
      | succ n =>
        have hlater := ih (hpaced.tick hdue) htick
        have hcount : (t.loop.tick t.now).ticks + n = t.loop.ticks + (n + 1) :=
          Nat.succ_add_eq_add_succ t.loop.ticks n
        rwa [hcount] at hlater
    · rw [hnone, List.nil_append] at htick
      have hlater := ih (hkept.paced hpaced) htick
      rwa [hkept.ticks, hkept.period] at hlater

/-! ## A jump of the clock -/

theorem now_perform {op : LoopOp} (hop : op.KeepsTime) : (t.perform crashes op).2.now = t.now := by
  cases op with
  | pass d => exact hop.elim
  | publish value => rfl
  | hangUp => rfl
  | tick =>
    rw [perform]
    rcases t.takeTick_cases crashes with htake | ⟨htake, -⟩ <;> rw [htake]
  | look =>
    rw [perform]
    rcases t.look_cases with hlook | ⟨hlook, -⟩ | ⟨hlook, -⟩ <;> rw [hlook]

/-- While the clock stands still before the next tick is due, none runs. -/
theorem ticks_eq_nil_of_early (hearly : t.now < t.loop.due) (hops : ∀ op ∈ ops, op.KeepsTime) :
    t.ticks crashes ops = [] := by
  induction ops generalizing t with
  | nil => rfl
  | cons op rest ih =>
    obtain ⟨hop, hrest⟩ := List.forall_mem_cons.1 hops
    rw [ticks_cons]
    rcases t.ran_or_kept crashes op with ⟨hdue, -⟩ | ⟨hnone, hkept⟩
    · exact absurd hdue (Int.not_le.2 hearly)
    · rw [hnone, ih _ hrest, List.nil_append]
      rwa [now_perform hop, hkept.due]

/-- With a period longer than the tolerance, one tick runs at most while the clock stands still. -/
theorem length_ticks_le_one (hperiod : PeriodicLoop.tolerance < t.loop.period)
    (hops : ∀ op ∈ ops, op.KeepsTime) : (t.ticks crashes ops).length ≤ 1 := by
  induction ops generalizing t with
  | nil => exact Nat.zero_le 1
  | cons op rest ih =>
    obtain ⟨hop, hrest⟩ := List.forall_mem_cons.1 hops
    rw [ticks_cons]
    rcases t.ran_or_kept crashes op with ⟨hdue, hran⟩ | ⟨hnone, hkept⟩
    · rw [hran, ticks_eq_nil_of_early (PeriodicLoop.lt_due_tick hperiod) hrest]
      exact Nat.le_refl 1
    · rw [hnone, List.nil_append]
      exact ih (by rwa [hkept.period]) hrest

/-- With a period longer than the tolerance, one tick runs at most when the loop catches up. -/
theorem length_catchUp_le_one {l : PeriodicLoop} (hperiod : PeriodicLoop.tolerance < l.period)
    (now : Instant) : (l.catchUp crashes now).1.length ≤ 1 := by
  let t : TimedLoop := ⟨now, l, { value := false }⟩
  have hticks : t.ticks crashes (List.replicate (l.budget now) .tick) =
      (l.catchUp crashes now).1 := by
    rw [ticks, events, run_replicate_tick, LoopEvent.ticks_map_ran]
    rfl
  rw [← hticks]
  exact length_ticks_le_one hperiod fun _ hop => List.eq_of_mem_replicate hop ▸ trivial

/-! ## Crashes -/

theorem perform_crashes (crashes crashes' : Nat → Bool) (t : TimedLoop) (op : LoopOp) :
    (t.perform crashes' op).2 = (t.perform crashes op).2 ∧
      (LoopEvent.ticks (t.perform crashes' op).1).map Tick.ranAt =
        (LoopEvent.ticks (t.perform crashes op).1).map Tick.ranAt := by
  cases op with
  | tick =>
    simp only [perform, takeTick]
    by_cases hdue : t.loop.isDue t.now = true
    · rw [if_pos hdue, if_pos hdue]
      exact ⟨rfl, rfl⟩
    · rw [if_neg hdue, if_neg hdue]
      exact ⟨rfl, rfl⟩
  | _ => exact ⟨rfl, rfl⟩

/-- When ticks run does not depend on which of them crash. -/
theorem ranAt_ticks (crashes crashes' : Nat → Bool) (t : TimedLoop) (ops : List LoopOp) :
    (t.ticks crashes' ops).map Tick.ranAt = (t.ticks crashes ops).map Tick.ranAt := by
  induction ops generalizing t with
  | nil => rfl
  | cons op rest ih =>
    obtain ⟨hsame, hticks⟩ := perform_crashes crashes crashes' t op
    rw [ticks_cons, ticks_cons, List.map_append, List.map_append, hticks, hsame, ih]

/-! ## The end of a loop -/

/-- A loop has stopped if it has seen that it has to. -/
theorem stopped_perform_iff (op : LoopOp) :
    (t.perform crashes op).2.loop.stopped = true ↔
      t.loop.stopped = true ∨ ∃ e ∈ (t.perform crashes op).1, e.Stops := by
  cases op with
  | pass d => simp [perform]
  | publish value => simp [perform]
  | hangUp => simp [perform]
  | tick =>
    rw [perform]
    rcases t.takeTick_cases crashes with htake | ⟨htake, -⟩ <;> rw [htake] <;>
      simp [PeriodicLoop.tick, LoopEvent.Stops]
  | look =>
    rw [perform]
    rcases t.look_cases with hlook | ⟨hlook, -⟩ | ⟨hlook, -⟩ <;> rw [hlook] <;>
      simp [PeriodicLoop.observe, PeriodicLoop.disconnect, LoopEvent.Stops]

theorem stopped_after_iff (crashes : Nat → Bool) (t : TimedLoop) (ops : List LoopOp) :
    (t.after crashes ops).loop.stopped = true ↔
      t.loop.stopped = true ∨ ∃ e ∈ t.events crashes ops, e.Stops := by
  induction ops generalizing t with
  | nil => simp
  | cons op rest ih =>
    rw [after_cons, ih, stopped_perform_iff, events_cons]
    simp only [List.mem_append, or_and_right, exists_or, or_assoc]

/-- A loop that has not seen that it has to stop goes on. -/
theorem running_after (hrunning : t.loop.stopped = false)
    (hon : ∀ e ∈ t.events crashes ops, ¬ e.Stops) : (t.after crashes ops).loop.stopped = false := by
  rw [← Bool.not_eq_true, stopped_after_iff, not_or, hrunning]
  refine ⟨Bool.false_ne_true, ?_⟩
  rintro ⟨e, he, hstops⟩
  exact hon e he hstops

/-- A loop that has stopped does nothing. -/
theorem events_of_stopped (hstopped : t.loop.stopped = true) (ops : List LoopOp) :
    t.events crashes ops = [] := by
  induction ops generalizing t with
  | nil => rfl
  | cons op rest ih =>
    have hidle : (t.perform crashes op).1 = [] := by
      cases op with
      | tick => rw [perform, takeTick_of_not_due (by simp [PeriodicLoop.isDue, hstopped])]
      | look => rw [perform, look, if_pos hstopped]
      | _ => rfl
    rw [events_cons, hidle, List.nil_append]
    exact ih ((stopped_perform_iff op).2 (Or.inl hstopped))

/-- A loop that has not seen that it has to stop runs the ticks that it runs without a channel. -/
theorem ticks_filter_isTimely (hon : ∀ e ∈ t.events crashes ops, ¬ e.Stops)
    (channel : ShutdownChannel) :
    { t with channel }.ticks crashes (ops.filter LoopOp.isTimely) = t.ticks crashes ops := by
  -- no step that is left reads `channel`, so it is the same in all of the run
  induction ops generalizing t with
  | nil => rfl
  | cons op rest ih =>
    rw [events_cons, List.forall_mem_append] at hon
    obtain ⟨hop, hrest⟩ := hon
    rw [ticks_cons, ← ih hrest]
    cases op with
    | pass d => rfl
    | publish value => rfl
    | hangUp => rfl
    | tick =>
      rw [List.filter_cons_of_pos rfl, ticks_cons, perform, perform]
      by_cases hdue : t.loop.isDue t.now = true
      · rw [takeTick_of_due hdue, takeTick_of_due (t := { t with channel }) hdue]
      · rw [takeTick_of_not_due hdue, takeTick_of_not_due (t := { t with channel }) hdue]
    | look =>
      rw [perform] at hop ⊢
      rcases t.look_cases with hlook | ⟨hlook, hstopped, -⟩ | ⟨hlook, -⟩
      · rw [hlook]
        rfl
      · rw [hlook] at hop ⊢
        have hfalse : t.channel.value = false := by simpa [LoopEvent.Stops] using hop
        rw [hfalse, PeriodicLoop.observe_false]
        rfl
      · rw [hlook] at hop
        exact absurd trivial (hop _ (List.mem_singleton_self _))

/-- Whether nothing that can be seen on the channel stops the loop. -/
structure Calm (t : TimedLoop) : Prop where
  connected : t.channel.ended = false
  unseen : t.channel.unseen = true → t.channel.value = false

theorem calm_start (period : Duration) (now : Instant) (initially : Bool) :
    (start period now initially).Calm :=
  ⟨rfl, fun hunseen => absurd hunseen Bool.false_ne_true⟩

theorem Calm.perform (crashes : Nat → Bool) (hcalm : t.Calm) {op : LoopOp}
    (htrue : op ≠ .publish true) (hend : op ≠ .hangUp) :
    (∀ e ∈ (t.perform crashes op).1, ¬ e.Stops) ∧ (t.perform crashes op).2.Calm := by
  have hnothing : ∀ e ∈ ([] : List LoopEvent), ¬ e.Stops := by simp
  cases op with
  | pass d => exact ⟨hnothing, hcalm.connected, hcalm.unseen⟩
  | hangUp => exact absurd rfl hend
  | publish value =>
    refine ⟨hnothing, ?_⟩
    have hvalue : value = false := by simpa using htrue
    have hpublish : t.channel.publish value = { t.channel with value, unseen := true } :=
      if_neg (by simp [hcalm.connected])
    show Calm { t with channel := t.channel.publish value }
    rw [hpublish]
    exact ⟨hcalm.connected, fun _ => hvalue⟩
  | tick =>
    rw [TimedLoop.perform]
    rcases t.takeTick_cases crashes with htake | ⟨htake, -⟩ <;> rw [htake]
    · exact ⟨hnothing, hcalm⟩
    · exact ⟨by simp [LoopEvent.Stops], hcalm.connected, hcalm.unseen⟩
  | look =>
    rw [TimedLoop.perform]
    rcases t.look_cases with hlook | ⟨hlook, -, hunseen⟩ | ⟨-, -, hended⟩
    · rw [hlook]
      exact ⟨hnothing, hcalm⟩
    · rw [hlook]
      exact ⟨by simp [LoopEvent.Stops, hcalm.unseen hunseen], hcalm.connected,
        fun hseen => absurd hseen Bool.false_ne_true⟩
    · exact absurd hended (by simp [hcalm.connected])

/-- While neither `true` is published nor the sender dropped, the loop does not see that it has to
stop. -/
theorem Calm.not_stops (hcalm : t.Calm) (htrue : .publish true ∉ ops) (hend : .hangUp ∉ ops) :
    ∀ e ∈ t.events crashes ops, ¬ e.Stops := by
  induction ops generalizing t with
  | nil => exact nofun
  | cons op rest ih =>
    rw [List.mem_cons, not_or] at htrue hend
    obtain ⟨hstep, hcalm⟩ := hcalm.perform crashes (Ne.symm htrue.1) (Ne.symm hend.1)
    rw [events_cons, List.forall_mem_append]
    exact ⟨hstep, ih hcalm htrue.2 hend.2⟩

end TimedLoop

end TransitHub
