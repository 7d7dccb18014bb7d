import TaskKernel.Proofs.Consistency
import TaskKernel.Proofs.EmptyQueue

/-!
# The active level

The dispatcher does not search for the highest occupied level at every step: it remembers an active
level, and notes in `reselect` when that may be out of date. `Dispatcher.Vigilant` says that the
note is never forgotten, which holds in every state (`vigilant_run`). `Dispatcher.Settled` says
besides that the active level is occupied.

* Bookkeeping keeps it (`Settled.quiet`, `Settled.requeue`).
* A turn keeps it as long as somebody is left to run (`Settled.rotate`), and there is nothing to
  reselect afterwards.
* An operation stops for want of a task only in a state in which nobody executes
  (`executing_of_emptyQueue`), so never in a settled one.

An idle task sees to it that somebody is left to run. Histories in which that is so are `Attended`,
and along them every operation is `WellDirected` (`wellDirected_of_attended`).
-/

namespace TaskKernel

namespace Dispatcher

/-- Unless a choice of level is due, no level above the active one is occupied. -/
def Vigilant (d : Dispatcher) : Prop :=
  d.reselect = false → d.active ∈ upperBounds {level | d.queues.get level ≠ []}

/-- The active level is occupied; unless a choice of level is due, no level above it is. -/
structure Settled (d : Dispatcher) : Prop where
  occupied : d.queues.get d.active ≠ []
  highest : d.reselect = false → d.active ∈ upperBounds {level | d.queues.get level ≠ []}

variable {d d' : Dispatcher} {id x : TaskId} {task : Task} {level other : Level}

/-- The active level is occupied exactly if a task executes. -/
theorem executing_iff_occupied : (∃ x, d.executing? = some x) ↔ d.queues.get d.active ≠ [] := by
  rw [← Option.ne_none_iff_exists']
  exact not_congr RunQueues.head?_eq_none_iff

theorem Settled.executing (h : d.Settled) : ∃ x, d.executing? = some x :=
  executing_iff_occupied.mpr h.occupied

theorem Settled.vigilant (h : d.Settled) : d.Vigilant := h.highest

theorem Settled.of_vigilant (hvigilant : d.Vigilant) (hx : d.executing? = some x) : d.Settled :=
  ⟨executing_iff_occupied.mp ⟨x, hx⟩, hvigilant⟩

/-- Where nothing has to be chosen, the active level is the highest occupied one. -/
theorem Settled.isGreatest (h : d.Settled) (hreselect : d.reselect = false) :
    IsGreatest {level | d.queues.get level ≠ []} d.active :=
  ⟨h.occupied, h.highest hreselect⟩

/-! ## Bookkeeping -/

/-- A state that the run queues and the choice of level do not tell from another. -/
theorem Vigilant.congr (h : d.Vigilant) (hqueues : d'.queues = d.queues)
    (hactive : d'.active = d.active) (hreselect : d'.reselect = d.reselect) : d'.Vigilant := by
  unfold Vigilant
  rw [hqueues, hactive, hreselect]
  exact h

theorem Vigilant.quiet (h : d.Vigilant) (hstep : d.Quiet d') : d'.Vigilant :=
  h.congr hstep.frame.1 hstep.frame.2.1 hstep.frame.2.2

theorem Settled.quiet (h : d.Settled) (hstep : d.Quiet d') : d'.Settled := by
  obtain ⟨x, hx⟩ := h.executing
  exact .of_vigilant (h.vigilant.quiet hstep) (hstep.executing.trans hx)

theorem ne_nil_of_enqueue {queues : RunQueues} (h : (d.enqueue queues level id).get other ≠ []) :
    level = other ∨ queues.get other ≠ [] := by
  unfold enqueue at h
  cases hpolicy : d.config.requeuePolicy with
  | back =>
      simp only [hpolicy] at h
      exact RunQueues.ne_nil_of_set h
  | front =>
      simp only [hpolicy] at h
      split at h
      · exact RunQueues.ne_nil_of_set h
      · exact RunQueues.ne_nil_of_set h

/-- The note that is made when a task joins a level above the active one. -/
theorem le_active_of_note {reselect : Bool} {active : Level}
    (h : (reselect || decide (active < level)) = false) : reselect = false ∧ level ≤ active := by
  rw [Bool.or_eq_false_iff, decide_eq_false_iff_not, not_lt] at h
  exact h

theorem Vigilant.makeRunnable (h : d.Vigilant) (id : TaskId) (task : Task) (level : Level) :
    (d.makeRunnable id task level).Vigilant := by
  intro hreselect l hl
  obtain ⟨hnone, hle⟩ := le_active_of_note hreselect
  rcases RunQueues.ne_nil_of_set hl with rfl | hold
  · exact hle
  · exact h hnone hold

theorem Vigilant.changeLevel (h : d.Vigilant) (id : TaskId) (task : Task) (level : Level) :
    (d.changeLevel id task level).Vigilant := by
  unfold Dispatcher.changeLevel
  by_cases hsame : level = task.level
  · rw [if_pos hsame]
    exact h
  rw [if_neg hsame]
  by_cases hexecuting : d.executing? = some id
  · -- The active level moves along: upwards nothing is above it, downwards a choice is noted.
    rw [if_pos hexecuting]
    intro hreselect l hl
    obtain ⟨hnone, hle⟩ := le_active_of_note hreselect
    rcases RunQueues.ne_nil_of_set hl with rfl | hold
    · exact le_refl _
    · rw [RunQueues.dropHead_eq_erase hexecuting] at hold
      exact le_trans (h hnone (RunQueues.ne_nil_of_erase hold)) hle
  · rw [if_neg hexecuting]
    intro hreselect l hl
    obtain ⟨hnone, hle⟩ := le_active_of_note hreselect
    rcases ne_nil_of_enqueue hl with rfl | hold
    · exact hle
    · exact h hnone (RunQueues.ne_nil_of_erase hold)

theorem Vigilant.requeue (h : d.Vigilant) (hstep : d.Requeue d') : d'.Vigilant := by
  cases hstep with
  | wake level _ _ => exact h.makeRunnable _ _ level
  | move level _ _ => exact h.changeLevel _ _ level
  | drop _ _ _ => exact fun hreselect l hl => h hreselect (RunQueues.ne_nil_of_erase hl)

theorem Settled.requeue (h : d.Settled) (hstep : d.Requeue d') : d'.Settled := by
  obtain ⟨x, hx⟩ := h.executing
  exact .of_vigilant (h.vigilant.requeue hstep) (hstep.executing hx)

theorem Settled.books (h : d.Settled) (hsteps : d.Books d') : d'.Settled :=
  hsteps.invariant Settled.quiet Settled.requeue h

/-! ## Turns -/

/-- A choice was due or the active level ran empty: then the highest occupied level is taken. Else
the active level is still the one it was. -/
theorem active_rotate (hx : d.executing? = some x) (stay : Bool)
    (hleft : ∃ level, (d.rotate stay).queues.get level ≠ []) :
    IsGreatest {level | (d.rotate stay).queues.get level ≠ []} (d.rotate stay).active ∨
      (d.rotate stay).active = d.active ∧ d.reselect = false ∧
        (d.rotate stay).queues.get d.active ≠ [] := by
  have hactive : (d.rotate stay).active =
      if d.reselect || ((d.rotate stay).queues.get d.active).isEmpty then
        (d.rotate stay).queues.highest?.getD d.active else d.active := by
    rw [rotate_of_executing hx]
  by_cases hchoose : (d.reselect || ((d.rotate stay).queues.get d.active).isEmpty) = true
  · rw [if_pos hchoose] at hactive
    obtain ⟨level, hlevel⟩ := hleft
    cases hhighest : (d.rotate stay).queues.highest? with
    | none => exact absurd (RunQueues.highest?_eq_none_iff.mp hhighest level) hlevel
    | some top =>
        rw [hhighest, Option.getD_some] at hactive
        exact .inl (hactive ▸ RunQueues.isGreatest_of_highest? hhighest)
  · rw [if_neg hchoose] at hactive
    obtain ⟨hnone, hoccupied⟩ := Bool.or_eq_false_iff.mp (Bool.not_eq_true _ ▸ hchoose)
    exact .inr ⟨hactive, hnone, fun hnil => by simp [hnil] at hoccupied⟩

/-- Whoever is left can be selected. -/
theorem occupied_rotate (hx : d.executing? = some x) (stay : Bool)
    (hleft : ∃ level, (d.rotate stay).queues.get level ≠ []) :
    (d.rotate stay).queues.get (d.rotate stay).active ≠ [] := by
  rcases active_rotate hx stay hleft with hgreatest | ⟨hactive, _, hoccupied⟩
  · exact hgreatest.1
  · rw [hactive]
    exact hoccupied

/-- A task that gives way occupies no level. -/
theorem ne_nil_of_rotate (hx : d.executing? = some x) {stay : Bool}
    (h : (d.rotate stay).queues.get level ≠ []) : d.queues.get level ≠ [] := by
  rw [queues_rotate hx] at h
  cases stay with
  | false =>
      rw [if_neg (by decide), RunQueues.dropHead_eq_erase hx] at h
      exact RunQueues.ne_nil_of_erase h
  | true =>
      rw [if_pos rfl] at h
      rcases RunQueues.ne_nil_of_set h with rfl | hold
      · exact List.ne_nil_of_mem (RunQueues.mem_of_head? hx)
      · exact hold

theorem reselect_rotate (hx : d.executing? = some x) (stay : Bool) :
    (d.rotate stay).reselect = false := by
  rw [rotate_of_executing hx]

theorem Vigilant.rotate (h : d.Vigilant) (hx : d.executing? = some x) (stay : Bool) :
    (d.rotate stay).Vigilant := by
  intro _ l hl
  -- Where a level is occupied somebody is left, so the choice was made if it was due.
  rcases active_rotate hx stay ⟨l, hl⟩ with hgreatest | ⟨hactive, hnone, _⟩
  · exact hgreatest.2 hl
  · rw [hactive]
    exact h hnone (ne_nil_of_rotate hx hl)

theorem Settled.rotate (h : d.Settled) (hx : d.executing? = some x) (stay : Bool)
    (hleft : ∃ level, (d.rotate stay).queues.get level ≠ []) :
    (d.rotate stay).Settled ∧ (d.rotate stay).reselect = false :=
  ⟨⟨occupied_rotate hx stay hleft, h.vigilant.rotate hx stay⟩, reselect_rotate hx stay⟩

/-- Somebody besides the executing task is runnable. -/
def OthersWait (d : Dispatcher) : Prop := ∃ id ∈ d.queues.toList, d.executing? ≠ some id

instance (d : Dispatcher) : Decidable d.OthersWait :=
  inferInstanceAs (Decidable (∃ id ∈ d.queues.toList, d.executing? ≠ some id))

/-- Whoever stays in a queue when the executing task leaves it keeps a level occupied. -/
theorem OthersWait.left (h : d.OthersWait) (hx : d.executing? = some x) :
    ∃ level, (d.rotate false).queues.get level ≠ [] := by
  obtain ⟨id, hmem, hother⟩ := h
  obtain ⟨level, hlevel⟩ := RunQueues.mem_toList.mp hmem
  have hne : x ≠ id := fun h => hother (h ▸ hx)
  refine ⟨level, List.ne_nil_of_mem (a := id) ?_⟩
  -- Erasing the one does not take an occurrence of the other.
  rw [queues_rotate hx, if_neg (by decide), RunQueues.dropHead_eq_erase hx,
    ← List.count_pos_iff, RunQueues.count_erase, if_neg (fun h => hne h.2)]
  exact List.count_pos_iff.mpr hlevel

/-- A task whose turn is over keeps its level occupied. -/
theorem occupied_rotate_true (hx : d.executing? = some x) :
    (d.rotate true).queues.get d.active ≠ [] := by
  refine List.ne_nil_of_mem (a := x) ?_
  rw [queues_rotate hx, if_pos rfl, ← List.count_pos_iff, RunQueues.count_rotate]
  exact List.count_pos_iff.mpr (RunQueues.mem_of_head? hx)

theorem Settled.congr (h : d.Settled) (hqueues : d'.queues = d.queues)
    (hactive : d'.active = d.active) (hreselect : d'.reselect = d.reselect) : d'.Settled where
  occupied := by
    rw [hqueues, hactive]
    exact h.occupied
  highest := h.vigilant.congr hqueues hactive hreselect

theorem frame_modifyTask (d : Dispatcher) (id : TaskId) (f : Task → Task) :
    (d.modifyTask id f).queues = d.queues ∧ (d.modifyTask id f).active = d.active ∧
      (d.modifyTask id f).reselect = d.reselect := by
  unfold modifyTask
  cases d.tasks[id]? with
  | none => exact ⟨rfl, rfl, rfl⟩
  | some task => exact ⟨rfl, rfl, rfl⟩

theorem executing_modifyTask (d : Dispatcher) (id : TaskId) (f : Task → Task) :
    (d.modifyTask id f).executing? = d.executing? := by
  obtain ⟨hqueues, hactive, _⟩ := frame_modifyTask d id f
  rw [executing?, hqueues, hactive, executing?]

/-- The end of a turn needs nobody else: the task can be selected again. -/
theorem Settled.elapse (h : d.Settled) (hx : d.executing? = some x) (f : Task → Task) :
    ((d.modifyTask x f).rotate true).Settled ∧
      ((d.modifyTask x f).rotate true).reselect = false := by
  obtain ⟨hqueues, hactive, hreselect⟩ := frame_modifyTask d x f
  have hx' := (executing_modifyTask d x f).trans hx
  exact (h.congr hqueues hactive hreselect).rotate hx' true ⟨_, occupied_rotate_true hx'⟩

theorem Settled.doze (h : d.Settled) (hothers : d.OthersWait) (hx : d.executing? = some id)
    (task : Task) : (d.doze id task).Settled ∧ (d.doze id task).reselect = false := by
  have hasleep : (d.store id { task with running := false }).Settled := h.congr rfl rfl rfl
  have hothers' : (d.store id { task with running := false }).OthersWait := hothers
  exact hasleep.rotate hx false (hothers'.left hx)

theorem Vigilant.turn (h : d.Vigilant) (hstep : d.Turn d') : d'.Vigilant := by
  cases hstep with
  | elapse saved hx =>
      obtain ⟨hqueues, hactive, hreselect⟩ := frame_modifyTask d _ ({ · with context := saved })
      exact (h.congr hqueues hactive hreselect).rotate ((executing_modifyTask d _ _).trans hx) true
  | @sleep id task hx _ _ =>
      have hasleep : (d.store id { task with running := false }).Vigilant := h.congr rfl rfl rfl
      exact hasleep.rotate hx false
  | finish code hx => exact Vigilant.congr (h.rotate hx false) rfl rfl rfl

theorem Settled.turn (h : d.Settled) (hothers : d.OthersWait) (hstep : d.Turn d') : d'.Settled := by
  cases hstep with
  | elapse saved hx => exact (h.elapse hx _).1
  | sleep hx hlive _ => exact (h.doze hothers hx _).1
  | finish code hx =>
      exact Settled.congr (h.rotate hx false (hothers.left hx)).1 rfl rfl rfl

/-- What the queues show is the same after any number of quiet changes. -/
theorem frame_of_quiet (h : Relation.ReflTransGen Quiet d d') :
    d'.queues = d.queues ∧ d'.active = d.active ∧ d'.reselect = d.reselect := by
  induction h with
  | refl => exact ⟨rfl, rfl, rfl⟩
  | tail _ hstep ih =>
      obtain ⟨hqueues, hactive, hreselect⟩ := hstep.frame
      exact ⟨hqueues.trans ih.1, hactive.trans ih.2.1, hreselect.trans ih.2.2⟩

theorem OthersWait.of_frame (h : d.OthersWait) (hqueues : d'.queues = d.queues)
    (hactive : d'.active = d.active) : d'.OthersWait := by
  unfold OthersWait executing? at h ⊢
  rw [hqueues, hactive]
  exact h

theorem Settled.givesWay (h : d.Settled) (hothers : d.OthersWait) (hway : d.GivesWay d') :
    d'.Settled := by
  obtain ⟨before, turned, hbefore, hturn, hafter⟩ := hway
  obtain ⟨hqueues, hactive, hreselect⟩ := frame_of_quiet hbefore
  have hbeforeSettled : before.Settled := h.congr hqueues hactive hreselect
  exact (hbeforeSettled.turn (hothers.of_frame hqueues hactive) hturn).books hafter

theorem settled_start (config : Config) (platform : Platform) (arena : Arena) :
    (start config platform arena).Settled where
  occupied := by
    refine executing_iff_occupied.mp ⟨1, ?_⟩
    rfl
  highest := fun _ level _ => Level.le_highest level

theorem vigilant_start (config : Config) (platform : Platform) (arena : Arena) :
    (start config platform arena).Vigilant := (settled_start config platform arena).vigilant

/-! ## The sleep of the executing task -/

/-- The executing task's own sleep ends with the choice of another task, and with no choice of level
left to be made. -/
theorem Suspended.turns {outcome : Result (Option Switch)} (h : d.Suspended id outcome)
    (hsettled : d.Settled) (haccounted : d.Accounted) (hothers : d.OthersWait)
    (hx : d.executing? = some id) :
    ∃ next, outcome.answer = .ok (some { next, current := id }) ∧
      outcome.state.executing? = some next ∧ outcome.state.reselect = false := by
  have hreleased : d.release.Settled := hsettled.congr rfl rfl rfl
  have hothers' : d.release.OthersWait := hothers
  obtain ⟨task, _, ⟨next, hnext, rfl⟩ | ⟨hnone, rfl⟩⟩ := h.of_executing haccounted hx
  · exact ⟨next, rfl, hnext, (hreleased.doze hothers' hx task).2⟩
  · obtain ⟨next, hnext⟩ := (hreleased.doze hothers' hx task).1.executing
    exact absurd (hnone.symm.trans hnext) (by simp)

end Dispatcher

namespace Scheduler

open Dispatcher

variable {s : Scheduler} {operation : Operation}

/-- No change of level is ever forgotten. -/
theorem vigilant_run (config : Config) (platform : Platform) (arena : Arena)
    (history : List Operation) :
    ((start config platform arena).run history).tasks.Vigilant :=
  invariant_run Vigilant.quiet Vigilant.requeue Vigilant.turn _ history
    (vigilant_start config platform arena)

theorem Reachable.vigilant (h : s.Reachable) : s.tasks.Vigilant := by
  obtain ⟨config, platform, arena, history, rfl⟩ := h
  exact vigilant_run config platform arena history

/-! ## Attended histories -/

/-- Whenever the executing task leaves the queues, somebody else is runnable. -/
def Attended : Scheduler → List Operation → Prop
  | _, [] => True
  | s, operation :: rest =>
    (operation.Withdraws s.tasks → s.tasks.OthersWait) ∧ Attended (s.perform operation).state rest

instance decidableAttended : (s : Scheduler) → (history : List Operation) →
    Decidable (s.Attended history)
  | _, [] => .isTrue trivial
  | s, operation :: rest =>
    @instDecidableAnd _ _ _ (decidableAttended (s.perform operation).state rest)

/-- The task with which the processor goes on by the answer, if it is told to go on with one. -/
def Answer.announced : Answer → Option TaskId
  | .next id => id
  | .switch decided => decided.map (·.next)
  | .receipt (.asleep decided) => decided.map (·.next)
  | .wait (.blocked decided) => decided.map (·.next)
  | _ => none

theorem settled_perform (h : s.tasks.Settled)
    (hattended : operation.Withdraws s.tasks → s.tasks.OthersWait) :
    (s.perform operation).state.tasks.Settled := by
  rcases steps_perform s operation with hbooks | ⟨hyields, hway⟩
  · exact h.books hbooks
  by_cases hwithdraws : operation.Withdraws s.tasks
  · exact h.givesWay (hattended hwithdraws) hway
  · -- The only operation that yields and withdraws nobody is the end of a turn.
    cases operation with
    | preempt saved =>
        obtain ⟨x, hx⟩ := h.executing
        simp only [perform, preempt_of_executing hx]
        exact (h.elapse hx _).1
    | create | prepare | prepareWith | editContext | launch | wake | send | receive
    | startSchedule | armAt | armAfter | tick | restock | suspend | exit | awaitExit
    | receiveOrSuspend =>
        exact absurd hyields hwithdraws

theorem settled_run {history : List Operation} (h : s.tasks.Settled)
    (hattended : s.Attended history) : (s.run history).tasks.Settled := by
  induction history generalizing s with
  | nil => exact h
  | cons operation rest ih => exact ih (settled_perform h hattended.1) hattended.2

theorem attended_append {first second : List Operation} :
    s.Attended (first ++ second) ↔ s.Attended first ∧ (s.run first).Attended second := by
  induction first generalizing s with
  | nil => simp [Attended, run_nil]
  | cons operation rest ih => simp only [List.cons_append, Attended, ih, run_cons, and_assoc]

/-- The operation chooses who goes on, leaves nothing to be chosen, and its answer says who it is if
that is another task. -/
def Chooses (s : Scheduler) (operation : Operation) : Prop :=
  (s.perform operation).state.tasks.reselect = false ∧
    ∃ answer next, (s.perform operation).answer = .ok answer ∧
      (s.perform operation).state.tasks.executing? = some next ∧
      (answer.announced = some next ∨
        answer.announced = none ∧ s.tasks.executing? = some next)

theorem chooses_preempt (h : s.tasks.Settled) (saved : Context) : s.Chooses (.preempt saved) := by
  obtain ⟨x, hx⟩ := h.executing
  obtain ⟨hsettled, hreselect⟩ := h.elapse hx ({ · with context := saved })
  obtain ⟨next, hnext⟩ := hsettled.executing
  simp only [Chooses, perform, preempt_of_executing hx, Outcome.state_done, Outcome.answer_done]
  refine ⟨hreselect, _, next, rfl, hnext, ?_⟩
  rw [Answer.announced, hnext]
  by_cases hsame : next = x
  · exact .inr ⟨by simp [hsame], hsame ▸ hx⟩
  · exact .inl (by simp [hsame])

/-- A choice of the dispatcher is passed on. -/
theorem chooses_onTasks {α : Type} {act : Dispatcher → Dispatcher.Result α} {f : α → Answer}
    {outcome : Dispatcher.Result α} {next : TaskId}
    (hperform : s.perform operation = (s.onTasks act).map f) (hact : act s.tasks = outcome)
    (hanswer : ∃ value, outcome.answer = .ok value ∧ (f value).announced = some next)
    (hnext : outcome.state.executing? = some next)
    (hreselect : outcome.state.reselect = false) : s.Chooses operation := by
  subst hact
  obtain ⟨value, hvalue, hannounced⟩ := hanswer
  unfold Chooses
  rw [hperform]
  refine ⟨hreselect, f value, next, ?_, hnext, .inl hannounced⟩
  show (act s.tasks).answer.map f = _
  rw [hvalue]
  rfl

theorem chooses_suspend {x : TaskId} (h : s.tasks.Settled) (haccounted : s.tasks.Accounted)
    (hothers : s.tasks.OthersWait) (hx : s.tasks.executing? = some x) :
    s.Chooses (.suspend x) := by
  obtain ⟨next, hanswer, hnext, hreselect⟩ := (suspended s.tasks x).turns h haccounted hothers hx
  exact chooses_onTasks rfl rfl ⟨_, hanswer, rfl⟩ hnext hreselect

theorem chooses_awaitExit {waiter target : TaskId} (h : s.tasks.Settled)
    (haccounted : s.tasks.Accounted) (hothers : s.tasks.OthersWait)
    (hwithdraws : (Operation.awaitExit waiter target).Withdraws s.tasks) :
    s.Chooses (.awaitExit waiter target) := by
  obtain ⟨hx, hcode, htarget, hwaiter⟩ := hwithdraws
  have hinquired := inquired s.tasks waiter target
  generalize hasked : s.tasks.awaitExit waiter target = outcome at hinquired
  cases hinquired with
  | told htold => exact absurd (hcode.symm.trans htold) (by simp)
  | refused _ hgone => exact absurd ⟨htarget, hwaiter⟩ hgone
  | blocked _ _ _ hsuspended =>
      have hregister : s.tasks.Quiet (s.tasks.register waiter target) := .register htarget hwaiter
      obtain ⟨next, hanswer, hnext, hreselect⟩ :=
        hsuspended.turns (h.quiet hregister) (haccounted.quiet hregister) hothers hx
      refine chooses_onTasks rfl hasked ⟨.blocked (some ⟨next, waiter⟩), ?_, rfl⟩ hnext hreselect
      rw [Outcome.answer_map, hanswer]
      rfl

theorem chooses_receiveOrSuspend (h : s.tasks.Settled) (haccounted : s.tasks.Accounted)
    (hothers : s.tasks.OthersWait) (hwithdraws : Operation.receiveOrSuspend.Withdraws s.tasks) :
    s.Chooses .receiveOrSuspend := by
  have hserved := served s.tasks
  generalize hasked : s.tasks.receiveOrSuspend = outcome at hserved
  cases hserved with
  | stranded hnone =>
      obtain ⟨x, hx⟩ := h.executing
      exact absurd (hnone.symm.trans hx) (by simp)
  | @message id task _ hx hlive hmessage =>
      obtain ⟨id', task', hx', hlive', hempty⟩ :=
        Operation.withdraws_receiveOrSuspend_iff.mp hwithdraws
      have hid : id' = id := Option.some.inj (hx'.symm.trans hx)
      subst hid
      have htask : task' = task := Option.some.inj (hlive'.symm.trans hlive)
      rw [Mailbox.pop, ← htask, List.isEmpty_iff.mp hempty] at hmessage
      exact absurd hmessage (by simp)
  | gone hx hgone =>
      obtain ⟨task, hlive, _⟩ := haccounted.executing_live hx
      exact absurd (hgone.symm.trans hlive) (by simp)
  | @slept id _ _ hx hlive _ hsuspended =>
      have hcollect := Quiet.update hlive .collect
      obtain ⟨next, hanswer, hnext, hreselect⟩ :=
        hsuspended.turns (h.quiet hcollect) (haccounted.quiet hcollect) hothers hx
      refine chooses_onTasks rfl hasked ⟨.asleep (some ⟨next, id⟩), ?_, rfl⟩ hnext hreselect
      rw [Outcome.answer_map, hanswer]
      rfl

/-- An operation other than an exit that may move the processor chooses a task. An exit chooses one
before it wakes those who waited, so that a choice may be due again afterwards. -/
theorem chooses_of_yields (h : s.tasks.Settled) (haccounted : s.tasks.Accounted)
    (hattended : operation.Withdraws s.tasks → s.tasks.OthersWait)
    (hyields : operation.Yields s.tasks) (hexit : ∀ code, operation ≠ .exit code) :
    s.Chooses operation := by
  cases operation with
  | preempt saved => exact chooses_preempt h saved
  | suspend id => exact chooses_suspend h haccounted (hattended hyields) hyields
  | awaitExit waiter target => exact chooses_awaitExit h haccounted (hattended hyields) hyields
  | receiveOrSuspend => exact chooses_receiveOrSuspend h haccounted (hattended hyields) hyields
  | exit code => exact absurd rfl (hexit code)
  | create | prepare | prepareWith | editContext | launch | wake | send | receive
  | startSchedule | armAt | armAfter | tick | restock => exact hyields.elim

/-- The active level is right after an operation. -/
structure WellDirected (s : Scheduler) (operation : Operation) : Prop where
  /-- It does not stop for want of a task. -/
  ne_emptyQueue : ∀ level, (s.perform operation).answer ≠ .error (.fault (.emptyQueue level))
  occupied : (s.perform operation).state.tasks.queues.get
    (s.perform operation).state.tasks.active ≠ []
  isGreatest : (s.perform operation).state.tasks.reselect = false →
    IsGreatest {level | (s.perform operation).state.tasks.queues.get level ≠ []}
      (s.perform operation).state.tasks.active
  /-- The end of a turn and the executing task's own sleep choose the first task of the highest
  level, and leave nothing to be chosen. -/
  chooses : operation.Yields s.tasks → (∀ code, operation ≠ .exit code) →
    s.Chooses operation ∧
      IsGreatest {level | (s.perform operation).state.tasks.queues.get level ≠ []}
        (s.perform operation).state.tasks.active

theorem ne_emptyQueue_of_settled (h : (s.perform operation).state.tasks.Settled)
    (level : Level) : (s.perform operation).answer ≠ .error (.fault (.emptyQueue level)) := by
  intro hempty
  obtain ⟨x, hx⟩ := h.executing
  exact absurd ((executing_of_emptyQueue hempty).symm.trans hx) (by simp)

/-- **With an idle task the active level is always right**: if somebody else is runnable whenever
the executing task leaves the queues, then no operation stops for want of a task, and each is well
directed. -/
theorem wellDirected_of_attended (config : Config) (platform : Platform) (arena : Arena)
    (history : List Operation) (operation : Operation)
    (h : (start config platform arena).Attended (history ++ [operation])) :
    ((start config platform arena).run history).WellDirected operation := by
  obtain ⟨hhistory, hoperation, _⟩ := attended_append.mp h
  have hbefore := settled_run (settled_start config platform arena) hhistory
  have hafter := settled_perform hbefore hoperation
  exact {
    ne_emptyQueue := ne_emptyQueue_of_settled hafter
    occupied := hafter.occupied
    isGreatest := hafter.isGreatest
    chooses := fun hyields hexit =>
      have hchooses := chooses_of_yields hbefore (accounted_run config platform arena history)
        hoperation hyields hexit
      ⟨hchooses, hafter.isGreatest hchooses.1⟩ }

/-- The first task sleeps while two others wait. -/
theorem wellDirected_suspend :
    ((start {} Platform.simulated (Arena.simulated 0)).run
      [.create, .create, .wake 2 (some 2), .wake 3 (some 1)]).WellDirected (.suspend 1) :=
  wellDirected_of_attended {} Platform.simulated (Arena.simulated 0)
    [.create, .create, .wake 2 (some 2), .wake 3 (some 1)] (.suspend 1) (by decide)

end Scheduler

end TaskKernel
