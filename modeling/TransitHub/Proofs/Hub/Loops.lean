/-
# The background loops of a hub

Every background loop of a hub is a periodic loop of its own: whatever is done to the hub, the loop
came from its start by moves of the clock and ticks alone, with the period that the configuration
gives its task. No operation but the start, the passing of time and the shutdown changes a loop, and
the tasks themselves change none. A hub that was started has a loop for every task until it is shut
down, and no loop after that.

With the pace of a single loop, this is what is known of all loops at the end of this module.
-/

import TransitHub.Proofs.Hub.Run
import TransitHub.Proofs.Periodic.Pace

namespace TransitHub

open scoped List

namespace Hub

variable {h h' h'' : Hub} {config : HubConfig} {crashes : Nat → Bool}

/-! ## What leaves the loops alone -/

/-- What happened to a hub at one instant has left it these loops. -/
structure LeavesLoops (h : Hub) (loops : List (Task × PeriodicLoop)) (h' : Hub) : Prop where
  config : h'.config = h.config
  started : h'.started = h.started
  now : h'.now = h.now
  loops : h'.loops = loops

/-- What happened to a hub at one instant has left the loops as they were. -/
abbrev KeepsLoops (h h' : Hub) : Prop := h.LeavesLoops h.loops h'

theorem KeepsLoops.refl (h : Hub) : h.KeepsLoops h := ⟨rfl, rfl, rfl, rfl⟩

theorem LeavesLoops.keep {loops : List (Task × PeriodicLoop)} (hleft : h.LeavesLoops loops h')
    (hkept : h'.KeepsLoops h'') : h.LeavesLoops loops h'' where
  config := hkept.config.trans hleft.config
  started := hkept.started.trans hleft.started
  now := hkept.now.trans hleft.now
  loops := hkept.loops.trans hleft.loops

theorem keepsLoops_settle (h : Hub) : h.KeepsLoops h.settle := by
  unfold settle
  dsimp only
  split
  · split <;> exact ⟨rfl, rfl, rfl, rfl⟩
  · exact ⟨rfl, rfl, rfl, rfl⟩
  · exact ⟨rfl, rfl, rfl, rfl⟩

theorem LeavesLoops.settle {loops : List (Task × PeriodicLoop)} (hleft : h.LeavesLoops loops h') :
    h.LeavesLoops loops h'.settle :=
  hleft.keep h'.keepsLoops_settle

theorem keepsLoops_dispatch (h : Hub) (k : DataKind) (dataset : String) (changed : List k.Entity) :
    h.KeepsLoops (h.dispatch k dataset changed) := by
  unfold dispatch
  split <;> exact ⟨rfl, rfl, rfl, rfl⟩

theorem keepsLoops_concludeIngest (h : Hub) (k : DataKind) (dataset : String)
    (i : Ingested k.Entity) : h.KeepsLoops (h.concludeIngest k dataset i).2 := by
  unfold concludeIngest
  dsimp only
  apply LeavesLoops.settle
  split
  · exact ⟨rfl, rfl, rfl, rfl⟩
  · refine LeavesLoops.keep ?_ (keepsLoops_dispatch _ k dataset _)
    exact ⟨rfl, rfl, rfl, rfl⟩

theorem keepsLoops_take (h : Hub) (k : DataKind) (dataset : String) (batch : Batch k) :
    h.KeepsLoops (h.take k dataset batch) := by
  cases batch with
  | entities items =>
    show h.KeepsLoops (h.ingest k dataset items).2
    refine LeavesLoops.keep ?_ (keepsLoops_concludeIngest _ k dataset _)
    exact ⟨rfl, rfl, rfl, rfl⟩
  | documents items =>
    show h.KeepsLoops (h.ingestJson k dataset items).2
    refine LeavesLoops.keep ?_ (keepsLoops_concludeIngest _ k dataset _)
    exact ⟨rfl, rfl, rfl, rfl⟩

theorem keepsLoops_commit (h : Hub) (k : DataKind) : h.KeepsLoops (h.commit k).2 := by
  unfold commit
  dsimp only
  split <;> exact ⟨rfl, rfl, rfl, rfl⟩

theorem keepsLoops_flush (h : Hub) (k : DataKind) : h.KeepsLoops (h.flush k).2 :=
  (h.keepsLoops_commit k).keep ⟨rfl, rfl, rfl, rfl⟩

theorem keepsLoops_flushEach (h : Hub) (ks : List DataKind) :
    h.KeepsLoops (h.flushEach ks).2 :=
  List.foldlRecOn (motive := fun acc : Nat × Hub => h.KeepsLoops acc.2) ks _ (.refl h)
    fun acc hkept k _ => hkept.keep (acc.2.keepsLoops_flush k)

theorem keepsLoops_sweep (h : Hub) : h.KeepsLoops h.sweep := by
  unfold sweep
  split
  · exact List.foldlRecOn (motive := h.KeepsLoops) DataKind.all sweepFeed ⟨rfl, rfl, rfl, rfl⟩
      fun _ hkept _ _ => hkept.keep ⟨rfl, rfl, rfl, rfl⟩
  · exact .refl h

theorem keepsLoops_deliverSnapshot (h : Hub) (k : DataKind) (s : Subscription) :
    h.KeepsLoops (h.deliverSnapshot k s) := by
  unfold deliverSnapshot
  dsimp only
  apply LeavesLoops.settle
  split <;> exact ⟨rfl, rfl, rfl, rfl⟩

theorem keepsLoops_subscribe (h : Hub) (fresh : String) (request : SubscriptionRequest) :
    h.KeepsLoops (h.subscribe fresh request).2 := by
  unfold subscribe
  split
  · exact ⟨rfl, rfl, rfl, rfl⟩
  · dsimp only
    split
    · refine LeavesLoops.keep ?_ (keepsLoops_deliverSnapshot _ _ _)
      exact ⟨rfl, rfl, rfl, rfl⟩
    · exact ⟨rfl, rfl, rfl, rfl⟩

theorem keepsLoops_terminate (h : Hub) (id : String) (acknowledge : Bool) :
    h.KeepsLoops (h.terminate id acknowledge).2 := by
  unfold terminate
  split
  · exact ⟨rfl, rfl, rfl, rfl⟩
  · dsimp only
    split
    · apply LeavesLoops.settle
      split <;> exact ⟨rfl, rfl, rfl, rfl⟩
    · exact ⟨rfl, rfl, rfl, rfl⟩

theorem keepsLoops_runTask (h : Hub) (task : Task) : h.KeepsLoops (h.runTask task) := by
  cases task with
  | commit k => exact h.keepsLoops_commit k
  | heartbeatScan =>
    unfold runTask
    dsimp only
    split <;> exact ⟨rfl, rfl, rfl, rfl⟩
  | subscriptionRefresh => exact ⟨rfl, rfl, rfl, rfl⟩
  | storePurge => exact h.keepsLoops_sweep

/-! ## Late ticks -/

/-- A loop of a hub that has caught up at an instant. -/
def caughtUp (crashes : Nat → Bool) (now : Instant) (l : Task × PeriodicLoop) :
    Task × PeriodicLoop :=
  (l.1, (l.2.catchUp crashes now).2)

/-- A task is run as often as its loop ticks, and leaves the loops alone. -/
theorem runTicks_eq (crashes : Nat → Bool) (task : Task) (fuel : Nat) (l : PeriodicLoop) (h : Hub) :
    (runTicks task fuel l h).1 = (PeriodicLoop.catchUpWithin crashes fuel l h.now).2 ∧
      h.KeepsLoops (runTicks task fuel l h).2 := by
  induction fuel generalizing l h with
  | zero => exact ⟨rfl, .refl h⟩
  | succ fuel ih =>
    unfold runTicks PeriodicLoop.catchUpWithin
    by_cases hdue : l.isDue h.now = true
    · rw [if_pos hdue, if_pos hdue]
      have htask := h.keepsLoops_runTask task
      obtain ⟨hloop, hkept⟩ := ih (l.tick h.now) (h.runTask task)
      rw [htask.now] at hloop
      exact ⟨hloop, htask.keep hkept⟩
    · rw [if_neg hdue, if_neg hdue]
      exact ⟨rfl, .refl h⟩

theorem leavesLoops_runLoop (crashes : Nat → Bool) (h : Hub) (l : Task × PeriodicLoop) :
    h.LeavesLoops (h.loops ++ [caughtUp crashes h.now l]) (h.runLoop l) := by
  obtain ⟨hloop, hkept⟩ := runTicks_eq crashes l.1 (l.2.budget h.now) l.2 h
  refine ⟨hkept.config, hkept.started, hkept.now, ?_⟩
  rw [caughtUp, PeriodicLoop.catchUp, ← hloop, ← hkept.loops]
  rfl

theorem leavesLoops_foldl_runLoop (crashes : Nat → Bool) (due : List (Task × PeriodicLoop))
    (h : Hub) :
    h.LeavesLoops (h.loops ++ due.map (caughtUp crashes h.now)) (due.foldl runLoop h) := by
  induction due generalizing h with
  | nil =>
    rw [List.map_nil, List.append_nil]
    exact KeepsLoops.refl h
  | cons l due ih =>
    have hfirst := leavesLoops_runLoop crashes h l
    have hrest := ih (h.runLoop l)
    rw [hfirst.loops, hfirst.now, List.append_assoc, List.singleton_append,
      ← List.map_cons] at hrest
    exact ⟨hrest.config.trans hfirst.config, hrest.started.trans hfirst.started,
      hrest.now.trans hfirst.now, hrest.loops⟩

theorem insertByDue_perm (l : Task × PeriodicLoop) (ls : List (Task × PeriodicLoop)) :
    insertByDue l ls ~ l :: ls := by
  induction ls with
  | nil => exact .refl _
  | cons head rest ih =>
    unfold insertByDue
    split
    · exact .refl _
    · exact (ih.cons head).trans (.swap l head rest)

theorem dueLoops_perm (h : Hub) : h.dueLoops ~ h.loops.filter fun l => l.2.isDue h.now := by
  have hall (due ls : List (Task × PeriodicLoop)) :
      due.foldl (fun ls l => insertByDue l ls) ls ~ due ++ ls := by
    induction due generalizing ls with
    | nil => exact .refl ls
    | cons l due ih =>
      exact (ih _).trans ((insertByDue_perm l ls).append_left due |>.trans List.perm_middle)
  simpa [dueLoops] using hall (h.loops.filter fun l => l.2.isDue h.now) []

/-- A loop with nothing due has caught up. -/
theorem caughtUp_of_not_due {now : Instant} {l : Task × PeriodicLoop}
    (hdue : ¬ l.2.isDue now = true) : caughtUp crashes now l = l := by
  rw [caughtUp, PeriodicLoop.catchUp, PeriodicLoop.catchUpWithin_of_not_due _ hdue]

/-- Running what is due loses no loop, and lets every one catch up. -/
theorem exists_leavesLoops_runDue (crashes : Nat → Bool) (h : Hub) :
    ∃ loops, loops ~ h.loops.map (caughtUp crashes h.now) ∧ h.LeavesLoops loops h.runDue := by
  -- the loops with nothing due stay in front, and the others come after them in another order
  let early := h.loops.filter fun l => !l.2.isDue h.now
  have hrun := leavesLoops_foldl_runLoop crashes h.dueLoops { h with loops := early }
  refine ⟨early ++ h.dueLoops.map (caughtUp crashes h.now), ?_, ?_⟩
  · have hearly : early.map (caughtUp crashes h.now) = early := by
      refine (List.map_congr_left fun l hl => ?_).trans (List.map_id early)
      exact caughtUp_of_not_due (by simpa using (List.mem_filter.1 hl).2)
    have hall : early ++ h.dueLoops ~ h.loops :=
      (h.dueLoops_perm.append_left early).trans
        (List.perm_append_comm.trans (List.filter_append_perm _ h.loops))
    have hjoined : early ++ h.dueLoops.map (caughtUp crashes h.now) =
        (early ++ h.dueLoops).map (caughtUp crashes h.now) := by
      rw [List.map_append, hearly]
    rw [hjoined]
    exact hall.map _
  · exact LeavesLoops.settle ⟨hrun.config, hrun.started, hrun.now, hrun.loops⟩

/-! ## Operations -/

/-- The loops of a hub go on: none is lost, and each comes to where it is by moves of the clock and
ticks. -/
structure LoopsGoOn (crashes : Nat → Bool) (h h' : Hub) : Prop where
  config : h'.config = h.config
  started : h'.started = h.started
  loops : ∃ later : Task × PeriodicLoop → Task × PeriodicLoop, h'.loops ~ h.loops.map later ∧
    ∀ l channel, (later l).1 = l.1 ∧
      ∃ ticks, TimedLoop.Reaches crashes ⟨h.now, l.2, channel⟩ ticks ⟨h'.now, (later l).2, channel⟩

theorem LoopsGoOn.trans (h₁ : LoopsGoOn crashes h h') (h₂ : LoopsGoOn crashes h' h'') :
    LoopsGoOn crashes h h'' where
  config := h₂.config.trans h₁.config
  started := h₂.started.trans h₁.started
  loops := by
    obtain ⟨later, hloops, hreaches⟩ := h₁.loops
    obtain ⟨later', hloops', hreaches'⟩ := h₂.loops
    refine ⟨later' ∘ later, ?_, fun l channel => ?_⟩
    · rw [← List.map_map]
      exact hloops'.trans (hloops.map later')
    · obtain ⟨htask, ticks, hticks⟩ := hreaches l channel
      obtain ⟨htask', ticks', hticks'⟩ := hreaches' (later l) channel
      exact ⟨htask'.trans htask, ticks ++ ticks', hticks.trans hticks'⟩

theorem KeepsLoops.goOn (hkept : h.KeepsLoops h') : LoopsGoOn crashes h h' where
  config := hkept.config
  started := hkept.started
  loops := by
    refine ⟨id, ?_, fun l channel => ⟨rfl, [], ?_⟩⟩
    · rw [hkept.loops, List.map_id]
    · rw [hkept.now]
      exact .refl crashes _

theorem loopsGoOn_of_later (hconfig : h'.config = h.config) (hstarted : h'.started = h.started)
    (hloops : h'.loops = h.loops) (hnow : h.now ≤ h'.now) : LoopsGoOn crashes h h' where
  config := hconfig
  started := hstarted
  loops := by
    refine ⟨id, ?_, fun l channel => ⟨rfl, [], TimedLoop.reaches_pass hnow⟩⟩
    rw [hloops, List.map_id]

theorem loopsGoOn_runDue (h : Hub) : LoopsGoOn crashes h h.runDue := by
  obtain ⟨loops, hperm, hleft⟩ := exists_leavesLoops_runDue crashes h
  refine ⟨hleft.config, hleft.started, caughtUp crashes h.now, ?_, fun l channel => ⟨rfl, ?_⟩⟩
  · rwa [hleft.loops]
  · rw [hleft.now]
    exact ⟨_, TimedLoop.reaches_catchUpWithin (l.2.budget h.now) ⟨h.now, l.2, channel⟩⟩

theorem now_le_advance (c : Clock) (d : Duration) : c.now ≤ (c.advance d).now :=
  (TimeStep.advance d).now_le_apply c

theorem loopsGoOn_moveTo (h : Hub) (t : Instant) : LoopsGoOn crashes h (h.moveTo t) :=
  loopsGoOn_of_later rfl rfl rfl (now_le_advance h.clock _)

theorem loopsGoOn_passUntil (stop : Instant) (fuel : Nat) (h : Hub) :
    LoopsGoOn crashes h (passUntil stop fuel h) := by
  induction fuel generalizing h with
  | zero => exact h.loopsGoOn_moveTo stop
  | succ fuel ih =>
    unfold passUntil
    split
    · next t _ => exact ((h.loopsGoOn_moveTo t).trans (h.moveTo t).loopsGoOn_runDue).trans (ih _)
    · exact h.loopsGoOn_moveTo stop

theorem loopsGoOn_jump (h : Hub) (d : Duration) : LoopsGoOn crashes h (h.jump d) := by
  have hmoved : LoopsGoOn crashes h { h with clock := h.clock.advance d } :=
    loopsGoOn_of_later rfl rfl rfl (now_le_advance h.clock d)
  exact hmoved.trans (loopsGoOn_runDue _)

/-- The loops go on in every operation but the start and the shutdown. -/
theorem loopsGoOn_perform (crashes : Nat → Bool) (h : Hub) {op : HubOp} (hstart : op ≠ .start)
    (hstop : op ≠ .shutDown) : LoopsGoOn crashes h (h.perform op) := by
  cases op with
  | ingest k dataset batch => exact (h.keepsLoops_take k dataset batch).goOn
  | poll => exact KeepsLoops.goOn ⟨rfl, rfl, rfl, rfl⟩
  | commit k => exact (h.keepsLoops_commit k).goOn
  | flush k => exact (h.keepsLoops_flush k).goOn
  | clear => exact KeepsLoops.goOn ⟨rfl, rfl, rfl, rfl⟩
  | subscribe fresh request => exact (h.keepsLoops_subscribe fresh request).goOn
  | terminate id acknowledge => exact (h.keepsLoops_terminate id acknowledge).goOn
  | refresh => exact KeepsLoops.goOn ⟨rfl, rfl, rfl, rfl⟩
  | matching => exact KeepsLoops.goOn ⟨rfl, rfl, rfl, rfl⟩
  | scan => exact KeepsLoops.goOn (LeavesLoops.settle ⟨rfl, rfl, rfl, rfl⟩)
  | sweep => exact h.keepsLoops_sweep.goOn
  | start => exact absurd rfl hstart
  | advance d => exact loopsGoOn_passUntil _ _ h
  | jump d => exact h.loopsGoOn_jump d
  | moveWall => exact KeepsLoops.goOn ⟨rfl, rfl, rfl, rfl⟩
  | shutDown => exact absurd rfl hstop
  | script => exact KeepsLoops.goOn ⟨rfl, rfl, rfl, rfl⟩
  | release address n => exact KeepsLoops.goOn (LeavesLoops.settle ⟨rfl, rfl, rfl, rfl⟩)

/-- A shutdown leaves no loop. -/
theorem leavesLoops_shutDown (h : Hub) : h.LeavesLoops [] (h.perform .shutDown) := by
  show h.LeavesLoops [] h.shutDown.2
  unfold shutDown
  dsimp only
  generalize hanswer : flushEach _ DataKind.all = answer
  have hflushed : h.LeavesLoops [] answer.2 := by
    rw [← hanswer]
    refine LeavesLoops.keep ?_ (keepsLoops_flushEach _ DataKind.all)
    exact ⟨rfl, rfl, rfl, rfl⟩
  obtain ⟨flushed, h'⟩ := answer
  apply LeavesLoops.settle
  split
  · exact hflushed.keep ⟨rfl, rfl, rfl, rfl⟩
  · exact hflushed.keep ⟨rfl, rfl, rfl, rfl⟩

/-- The first start sets up a loop for every task. -/
theorem sets_up_loops (hnew : h.started = false) :
    h.start.config = h.config ∧ h.start.started = true ∧ h.start.now = h.now ∧
      h.start.loops = (tasks h.config).map fun (task, period) =>
        (task, PeriodicLoop.start period h.now) := by
  rw [start, if_neg (by simp [hnew])]
  exact ⟨rfl, rfl, rfl, rfl⟩

theorem start_of_started (hold : h.started = true) : h.start = h := if_pos hold

/-! ## Runs -/

/-- Whether a loop came from the start of its task by moves of the clock and ticks. -/
def Scheduled (config : HubConfig) (crashes : Nat → Bool) (now : Instant)
    (l : Task × PeriodicLoop) : Prop :=
  ∃ period startedAt ticks, (l.1, period) ∈ tasks config ∧
    (TimedLoop.start period startedAt false).Reaches crashes ticks ⟨now, l.2, { value := false }⟩

/-- What a hub keeps up about its loops. -/
structure OnTime (config : HubConfig) (crashes : Nat → Bool) (h : Hub) : Prop where
  configured : h.config = config
  scheduled : ∀ l ∈ h.loops, Scheduled config crashes h.now l

theorem OnTime.goOn (hontime : h.OnTime config crashes) (hon : LoopsGoOn crashes h h') :
    h'.OnTime config crashes := by
  obtain ⟨later, hloops, hreaches⟩ := hon.loops
  refine ⟨hon.config.trans hontime.configured, fun l hl => ?_⟩
  obtain ⟨l, hbefore, rfl⟩ := List.mem_map.1 (hloops.subset hl)
  obtain ⟨period, startedAt, ticks, htask, hticks⟩ := hontime.scheduled l hbefore
  obtain ⟨hname, ticks', hticks'⟩ := hreaches l { value := false }
  exact ⟨period, startedAt, ticks ++ ticks', hname.symm ▸ htask, hticks.trans hticks'⟩

theorem OnTime.start (hontime : h.OnTime config crashes) : h.start.OnTime config crashes := by
  by_cases hold : h.started = true
  · rwa [start_of_started hold]
  · obtain ⟨hconfig, -, hnow, hloops⟩ := sets_up_loops (by simpa using hold)
    refine ⟨hconfig.trans hontime.configured, fun l hl => ?_⟩
    rw [hloops, hontime.configured] at hl
    obtain ⟨⟨task, period⟩, htask, rfl⟩ := List.mem_map.1 hl
    rw [hnow]
    exact ⟨period, h.now, [], htask, .refl crashes (TimedLoop.start period h.now false)⟩

theorem OnTime.perform (hontime : h.OnTime config crashes) (op : HubOp) :
    (h.perform op).OnTime config crashes := by
  by_cases hstart : op = .start
  · exact hstart ▸ hontime.start
  by_cases hstop : op = .shutDown
  · subst hstop
    have hleft := h.leavesLoops_shutDown
    refine ⟨hleft.config.trans hontime.configured, fun l hl => ?_⟩
    rw [hleft.loops] at hl
    exact absurd hl List.not_mem_nil
  · exact hontime.goOn (h.loopsGoOn_perform crashes hstart hstop)

/-- Every loop that a hub has came from its start by moves of the clock and ticks. -/
theorem onTime_run (config : HubConfig) (builder : PayloadBuilder) (clock : Clock)
    (hash : String → Fingerprint) (crashes : Nat → Bool) (ops : List HubOp) :
    ((Hub.new config builder clock hash).run ops).OnTime config crashes :=
  run_induction ops ⟨rfl, nofun⟩ fun _ op hontime => hontime.perform op

theorem started_perform_iff (h : Hub) (op : HubOp) :
    (h.perform op).started = true ↔ h.started = true ∨ op = .start := by
  by_cases hstart : op = .start
  · subst hstart
    refine iff_of_true ?_ (Or.inr rfl)
    show h.start.started = true
    by_cases hold : h.started = true
    · rwa [start_of_started hold]
    · exact (sets_up_loops (by simpa using hold)).2.1
  · have hsame : (h.perform op).started = h.started := by
      by_cases hstop : op = .shutDown
      · exact hstop ▸ h.leavesLoops_shutDown.started
      · exact (h.loopsGoOn_perform (fun _ => false) hstart hstop).started
    rw [hsame]
    exact (or_iff_left hstart).symm

theorem started_run_iff (h : Hub) (ops : List HubOp) :
    (h.run ops).started = true ↔ h.started = true ∨ .start ∈ ops := by
  induction ops generalizing h with
  | nil => simp [run]
  | cons op rest ih =>
    show ((h.perform op).run rest).started = true ↔ _
    rw [ih, started_perform_iff, List.mem_cons, or_assoc, eq_comm (a := op)]

/-- Whether a hub that was started has a loop for every task. -/
def Complete (h : Hub) : Prop :=
  h.started = true → h.loops.map Prod.fst ~ (tasks h.config).map Prod.fst

theorem complete_new (config : HubConfig) (builder : PayloadBuilder) (clock : Clock)
    (hash : String → Fingerprint) : (Hub.new config builder clock hash).Complete :=
  fun hstarted => absurd hstarted Bool.false_ne_true

theorem Complete.perform (hcomplete : h.Complete) {op : HubOp} (hstop : op ≠ .shutDown) :
    (h.perform op).Complete := by
  by_cases hstart : op = .start
  · subst hstart
    show h.start.Complete
    by_cases hold : h.started = true
    · rwa [start_of_started hold]
    · obtain ⟨hconfig, -, -, hloops⟩ := sets_up_loops (by simpa using hold)
      intro _
      rw [hloops, hconfig, List.map_map]
      exact .refl _
  · have hon := h.loopsGoOn_perform (fun _ => false) hstart hstop
    obtain ⟨later, hloops, hlater⟩ := hon.loops
    have hnames : (h.loops.map later).map Prod.fst = h.loops.map Prod.fst := by
      rw [List.map_map]
      exact List.map_congr_left fun l _ => (hlater l { value := false }).1
    intro hstarted
    rw [hon.config]
    exact (hloops.map Prod.fst).trans (hnames ▸ hcomplete (hon.started ▸ hstarted))

/-- Without a shutdown no loop is lost. -/
theorem Complete.run (hcomplete : h.Complete) {ops : List HubOp} (hstop : .shutDown ∉ ops) :
    (h.run ops).Complete := by
  induction ops generalizing h with
  | nil => exact hcomplete
  | cons op rest ih =>
    rw [List.mem_cons, not_or] at hstop
    exact ih (hcomplete.perform (Ne.symm hstop.1)) hstop.2

theorem loops_eq_nil_perform (hold : h.started = true) (hnone : h.loops = []) (op : HubOp) :
    (h.perform op).loops = [] := by
  by_cases hstart : op = .start
  · subst hstart
    show h.start.loops = []
    rwa [start_of_started hold]
  by_cases hstop : op = .shutDown
  · exact hstop ▸ h.leavesLoops_shutDown.loops
  · obtain ⟨later, hloops, -⟩ := (h.loopsGoOn_perform (fun _ => false) hstart hstop).loops
    rw [hnone] at hloops
    exact hloops.eq_nil

/-- A hub that was started does not get its loops back. -/
theorem loops_eq_nil_run (hold : h.started = true) (hnone : h.loops = []) (ops : List HubOp) :
    (h.run ops).loops = [] := by
  induction ops generalizing h with
  | nil => exact hnone
  | cons op rest ih =>
    exact ih ((h.started_perform_iff op).2 (Or.inl hold)) (loops_eq_nil_perform hold hnone op)

/-- A hub that was started and is shut down has no loop any more. -/
theorem loops_run_shutDown (hold : h.started = true) (later : List HubOp) :
    (h.run (.shutDown :: later)).loops = [] := by
  have hleft := h.leavesLoops_shutDown
  rw [run, List.foldl_cons]
  exact loops_eq_nil_run (hleft.started.trans hold) hleft.loops later

/-- A periodic loop, whose period is a millisecond at least, runs its `n`-th tick `n` periods after
the start at the earliest. With a period longer than the tolerance, one tick runs at most after the
clock has jumped and before it moves again. When ticks run does not depend on which of them crash.
Once the loop has seen `true` or the end of its channel it runs no tick any more; until then it runs
the ticks that it runs without a channel, and a tick that is due does run. It sees neither while
neither `true` is published nor the sender dropped.

Time that passes tick by tick and a jump of the clock are such runs. So is what happens to every
background loop of a hub. Once a hub was started, none of these is lost before the shutdown, and
none is left after it. -/
theorem loops_paced_until_stopped (period : Duration) (startedAt : Instant) (initially : Bool)
    (crashes : Nat → Bool) (ops : List LoopOp) :
    let p := max period Duration.millisecond
    let t := TimedLoop.start period startedAt initially
    let t' := t.after crashes ops
    (∀ n tick, (t.ticks crashes ops)[n]? = some tick →
      startedAt + ((n + 1) * p : Nat) ≤ tick.ranAt) ∧
    (PeriodicLoop.tolerance < p →
      (∀ d rest, (∀ op ∈ rest, op.KeepsTime) →
        (t'.ticks crashes (.pass d :: rest)).length ≤ 1) ∧
      ∀ now, (t'.loop.catchUp crashes now).1.length ≤ 1) ∧
    (∀ crashes', (t.ticks crashes' ops).map Tick.ranAt = (t.ticks crashes ops).map Tick.ranAt) ∧
    ((∃ e ∈ t.events crashes ops, e.Stops) → ∀ later, t'.ticks crashes later = []) ∧
    ((∀ e ∈ t.events crashes ops, ¬ e.Stops) →
      t.ticks crashes ops = t.ticks crashes (ops.filter LoopOp.isTimely) ∧
      ∀ now, t'.loop.due ≤ now → (t'.loop.catchUp crashes now).1 ≠ []) ∧
    (.publish true ∉ ops → .hangUp ∉ ops → ∀ e ∈ t.events crashes ops, ¬ e.Stops) ∧
    (∀ now, t'.now ≤ now →
      (t'.loop.isDue t'.now = false → t'.Reaches crashes (t'.loop.run crashes now).1
        { t' with now, loop := (t'.loop.run crashes now).2 }) ∧
      t'.Reaches crashes (t'.loop.catchUp crashes now).1
        { t' with now, loop := (t'.loop.catchUp crashes now).2 } ∧
      (t'.loop.run crashes now).2.isDue now = false ∧
      (t'.loop.catchUp crashes now).2.isDue now = false) ∧
    ∀ (config : HubConfig) (builder : PayloadBuilder) (clock : Clock)
      (hash : String → Fingerprint) (hubOps : List HubOp),
      let h := (Hub.new config builder clock hash).run hubOps
      (∀ l ∈ h.loops, Scheduled config crashes h.now l) ∧
      (.start ∈ hubOps →
        (.shutDown ∉ hubOps → h.loops.map Prod.fst ~ (tasks config).map Prod.fst) ∧
        ∀ later, (h.run (.shutDown :: later)).loops = []) := by
  intro p t t'
  have hperiod : t'.loop.period = p := TimedLoop.period_after crashes t ops
  have hcalm : t.Calm := TimedLoop.calm_start period startedAt initially
  refine ⟨fun n tick htick => ?_, fun hlong => ⟨fun d rest hrest => ?_, fun now => ?_⟩,
    fun crashes' => TimedLoop.ranAt_ticks crashes crashes' t ops, fun hstop later => ?_,
    fun hon => ⟨?_, fun now hdue => ?_⟩, fun htrue hend => hcalm.not_stops htrue hend,
    fun now hle => ⟨?_, ?_, ?_, ?_⟩,
    fun config builder clock hash hubOps => ?_⟩
  · have hpaced := TimedLoop.paced_ticks (PeriodicLoop.paced_start period startedAt) htick
    rwa [show t.loop.ticks + n + 1 = n + 1 from congrArg (· + 1) (Nat.zero_add n)] at hpaced
  · rw [TimedLoop.ticks_cons]
    exact TimedLoop.length_ticks_le_one (hperiod.symm ▸ hlong) hrest
  · exact TimedLoop.length_catchUp_le_one (hperiod.symm ▸ hlong) now
  · have hstopped := (TimedLoop.stopped_after_iff crashes t ops).2 (Or.inr hstop)
    rw [TimedLoop.ticks, TimedLoop.events_of_stopped hstopped]
    rfl
  · exact (TimedLoop.ticks_filter_isTimely hon t.channel).symm
  · have hrunning : t'.loop.stopped = false := TimedLoop.running_after rfl hon
    exact PeriodicLoop.catchUp_of_due (PeriodicLoop.isDue_iff.2 ⟨hrunning, hdue⟩)
  · exact TimedLoop.reaches_run hle
  · exact TimedLoop.reaches_catchUp hle
  · exact PeriodicLoop.isDue_run crashes t'.loop now
  · exact PeriodicLoop.isDue_catchUp crashes t'.loop now
  · have hontime := onTime_run config builder clock hash crashes hubOps
    have hstarted (hstart : .start ∈ hubOps) :=
      (started_run_iff (Hub.new config builder clock hash) hubOps).2 (Or.inr hstart)
    refine ⟨hontime.scheduled, fun hstart => ⟨fun hstop => ?_, fun later => ?_⟩⟩
    · have hall := (complete_new config builder clock hash).run hstop (hstarted hstart)
      rwa [hontime.configured] at hall
    · exact loops_run_shutDown (hstarted hstart) later

/-- A loop with a period of ten milliseconds whose first tick runs late and crashes, and which sees
`false` before `true`. It has run two ticks, the same two as without the crash and without a channel
until it sees `true`, at most one at once, and none after that. A hub that was started has nine
loops a minute later, and none after a shutdown. -/
theorem crashed_loop_goes_on_until_stopped :
    let crashes : Nat → Bool := fun n => n = 0
    let t := TimedLoop.start (10 * Duration.millisecond) 0 false
    let alive : List LoopOp := [.pass (35 * Duration.millisecond), .tick, .publish false, .look,
      .pass (10 * Duration.millisecond), .tick]
    let ops := alive ++ [.publish true, .look]
    let h := (Hub.new {} (.json "hub") ⟨.epoch, 0⟩).run [.start, .jump Duration.minute]
    t.ticks crashes ops =
      [⟨0, (35 * Duration.millisecond : Nat), true⟩,
        ⟨1, (45 * Duration.millisecond : Nat), false⟩] ∧
    (0 : Instant) + ((1 + 1) * (10 * Duration.millisecond) : Nat) ≤
      (45 * Duration.millisecond : Nat) ∧
    ((t.after crashes alive).ticks crashes [.pass Duration.minute, .tick, .tick]).length ≤ 1 ∧
    (t.ticks (fun _ => false) ops).map Tick.ranAt = (t.ticks crashes ops).map Tick.ranAt ∧
    t.ticks crashes alive = t.ticks crashes (alive.filter LoopOp.isTimely) ∧
    ((t.after crashes alive).loop.catchUp crashes Duration.minute).1 ≠ [] ∧
    (∃ e ∈ t.events crashes ops, e.Stops) ∧
    (∀ later, (t.after crashes ops).ticks crashes later = []) ∧
    h.loops.length = 9 ∧ (h.run [.shutDown, .jump Duration.minute]).loops = [] := by
  intro crashes t alive ops h
  obtain ⟨-, hjump, -, -, hon, hcalm, -⟩ :=
    loops_paced_until_stopped (10 * Duration.millisecond) 0 false crashes alive
  obtain ⟨hpaced, -, hcrashes, hstop, -, -, -, hhub⟩ :=
    loops_paced_until_stopped (10 * Duration.millisecond) 0 false crashes ops
  have hticks : t.ticks crashes ops = [⟨0, (35 * Duration.millisecond : Nat), true⟩,
      ⟨1, (45 * Duration.millisecond : Nat), false⟩] := by decide +kernel
  have hstops : ∃ e ∈ t.events crashes ops, e.Stops := by decide +kernel
  have halive := hon (hcalm (by decide) (by decide))
  obtain ⟨htasks, hnone⟩ := (hhub {} (.json "hub") ⟨.epoch, 0⟩ Fingerprint.ofText
    [.start, .jump Duration.minute]).2 (by simp)
  refine ⟨hticks, hpaced 1 ⟨1, (45 * Duration.millisecond : Nat), false⟩ (by rw [hticks]; rfl),
    (hjump (by decide)).1 Duration.minute [.tick, .tick] ?_, hcrashes _, halive.1,
    halive.2 Duration.minute (by decide +kernel), hstops, hstop hstops, ?_, hnone _⟩
  · simp [LoopOp.KeepsTime]
  · have hlength := (htasks (by simp)).length_eq
    rw [List.length_map, List.length_map] at hlength
    exact hlength

end Hub

end TransitHub
