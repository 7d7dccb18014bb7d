import Mathlib.Data.List.Nodup
import TaskKernel.Proofs.Histories

/-!
# The run queues and the tasks tell the same story

Three records say which tasks are runnable: the run queues, the `running` mark of each task, and its
level. `Consistent` says what it means that they agree; they do in every state that a history of
operations leads to, also when an operation of it stopped on a fault (`consistent_run`).

* `Dispatcher.place?` — the queue in which a task belongs, from its own two fields;
* `Dispatcher.Accounted` — the invariant: every task stands exactly once in its place and nowhere
  else, and no live task has a number that is still to be given out;
* `Accounted.relocate` — an operation that takes one task from its old place to its new one keeps
  the invariant. Each change of the run queues is an instance.
-/

namespace TaskKernel

namespace Dispatcher

/-- The run queues agree with what the tasks say of themselves. -/
structure Consistent (d : Dispatcher) : Prop where
  /-- Who stands in a queue is a live task that is runnable at that level. -/
  queued : ∀ level, ∀ id ∈ d.queues.get level,
    ∃ task, d.find? id = some task ∧ task.running = true ∧ task.level = level
  /-- A runnable task stands in one place. -/
  running_once : ∀ id task, d.find? id = some task → task.running = true →
    d.queues.toList.count id = 1
  /-- A sleeping task stands nowhere. -/
  sleeping_absent : ∀ id task, d.find? id = some task → task.running = false →
    id ∉ d.queues.toList
  level_le : ∀ id task, d.find? id = some task → task.level ≤ Level.highest
  active_le : d.active ≤ Level.highest

/-- The queue in which a task belongs. -/
def place? (d : Dispatcher) (id : TaskId) : Option Level :=
  d.tasks[id]?.bind fun task => if task.running then some task.level else none

/-- Every task stands exactly once in the queue in which it belongs. -/
structure Accounted (d : Dispatcher) : Prop where
  count_eq : ∀ id level, (d.queues.get level).count id = if d.place? id = some level then 1 else 0
  le_newest : ∀ id ∈ d.tasks, id ≤ d.newest

variable {d d' : Dispatcher} {id x : TaskId} {task : Task} {level : Level}

/-! ## Live tasks and their places -/

theorem getElem?_store (d : Dispatcher) (id : TaskId) (task : Task) (x : TaskId) :
    (d.store id task).tasks[x]? = if id = x then some task else d.tasks[x]? := by
  simp only [store, Std.ExtTreeMap.getElem?_insert, Nat.compare_eq_eq]

theorem mem_tasks_iff : id ∈ d.tasks ↔ ∃ task, d.tasks[id]? = some task := by
  rw [Std.ExtTreeMap.mem_iff_isSome_getElem?, Option.isSome_iff_exists]

theorem mem_store : x ∈ (d.store id task).tasks ↔ id = x ∨ x ∈ d.tasks := by
  rw [mem_tasks_iff, mem_tasks_iff, getElem?_store]
  by_cases h : id = x
  · simp [h]
  · simp [h]

/-- A live task that is stored again adds nobody. -/
theorem mem_store_of_live (h : d.tasks[id]? = some task) {task' : Task} :
    x ∈ (d.store id task').tasks ↔ x ∈ d.tasks := by
  rw [mem_store]
  refine ⟨?_, .inr⟩
  rintro (rfl | hx)
  · exact mem_tasks_iff.mpr ⟨task, h⟩
  · exact hx

theorem place?_of_running (h : d.tasks[id]? = some task) (hrunning : task.running = true) :
    d.place? id = some task.level := by
  rw [place?, h, Option.bind_some, if_pos hrunning]

theorem place?_of_sleeping (h : d.tasks[id]? = some task) (hrunning : task.running = false) :
    d.place? id = none := by
  rw [place?, h, Option.bind_some, if_neg (by simp [hrunning])]

theorem place?_of_not_mem (h : id ∉ d.tasks) : d.place? id = none := by
  rw [place?, Std.ExtTreeMap.getElem?_eq_none h, Option.bind_none]

theorem place?_eq_some_iff :
    d.place? id = some level ↔
      ∃ task, d.tasks[id]? = some task ∧ task.running = true ∧ task.level = level := by
  simp only [place?, Option.bind_eq_some_iff, Option.ite_none_right_eq_some, Option.some.injEq]

theorem place?_store_self (d : Dispatcher) (id : TaskId) (task : Task) :
    (d.store id task).place? id = if task.running then some task.level else none := by
  rw [place?, getElem?_store, if_pos rfl, Option.bind_some]

theorem place?_store_of_ne (d : Dispatcher) (task : Task) (h : x ≠ id) :
    (d.store id task).place? x = d.place? x := by
  rw [place?, getElem?_store, if_neg h.symm, place?]

/-! ## Consequences of the invariant -/

theorem Accounted.mem_iff (h : d.Accounted) :
    id ∈ d.queues.get level ↔ d.place? id = some level := by
  rw [← List.count_pos_iff, h.count_eq]
  split <;> simp_all

/-- A number that was not given out yet belongs to no live task. -/
theorem Accounted.fresh (h : d.Accounted) : d.newest + 1 ∉ d.tasks := by
  intro hmem
  exact Nat.not_succ_le_self d.newest (h.le_newest _ hmem)

/-- The executing task is runnable at the active level. -/
theorem Accounted.place?_executing (h : d.Accounted) (hx : d.executing? = some x) :
    d.place? x = some d.active :=
  h.mem_iff.mp (RunQueues.mem_of_head? hx)

theorem Accounted.executing_live (h : d.Accounted) (hx : d.executing? = some x) :
    ∃ task, d.tasks[x]? = some task ∧ task.running = true ∧ task.level = d.active :=
  place?_eq_some_iff.mp (h.place?_executing hx)

theorem Accounted.mem_executing (h : d.Accounted) (hx : d.executing? = some x) : x ∈ d.tasks := by
  obtain ⟨task, hlive, _⟩ := h.executing_live hx
  exact mem_tasks_iff.mpr ⟨task, hlive⟩

theorem Accounted.count_toList (h : d.Accounted) (x : TaskId) :
    d.queues.toList.count x = if (d.place? x).isSome then 1 else 0 := by
  simp only [RunQueues.count_toList, h.count_eq]
  cases d.place? x with
  | none => rfl
  | some level =>
      simp only [Option.some.injEq, Option.isSome_some, if_true]
      revert level
      decide

/-- Nobody stands in a queue twice. -/
theorem Accounted.nodup_queue (h : d.Accounted) (level : Level) : (d.queues.get level).Nodup := by
  rw [List.nodup_iff_count_le_one]
  intro id
  rw [h.count_eq]
  split <;> omega

theorem Accounted.consistent (h : d.Accounted) : d.Consistent where
  queued level id hmem := place?_eq_some_iff.mp (h.mem_iff.mp hmem)
  running_once id task hlive hrunning := by
    rw [h.count_toList, place?_of_running hlive hrunning]
    rfl
  sleeping_absent id task hlive hrunning := by
    rw [← List.count_eq_zero, h.count_toList, place?_of_sleeping hlive hrunning]
    rfl
  level_le id task _ := Level.le_highest task.level
  active_le := Level.le_highest d.active

/-! ## Preservation -/

/-- Nobody changes place and the queues stay. -/
theorem Accounted.of_places (h : d.Accounted) (hqueues : d'.queues = d.queues)
    (hplace : ∀ x, d'.place? x = d.place? x) (hle : ∀ x ∈ d'.tasks, x ≤ d'.newest) :
    d'.Accounted where
  count_eq x level := by rw [hqueues, hplace, h.count_eq]
  le_newest := hle

/-- One task goes from its old place to its new one. -/
theorem Accounted.relocate (h : d.Accounted) (old new : Option Level) (hold : d.place? id = old)
    (hnew : d'.place? id = new)
    (hcount : ∀ level x, (d'.queues.get level).count x =
      (d.queues.get level).count x - (if old = some level ∧ id = x then 1 else 0) +
        if new = some level ∧ id = x then 1 else 0)
    (hplace : ∀ x, x ≠ id → d'.place? x = d.place? x) (hle : ∀ x ∈ d'.tasks, x ≤ d'.newest) :
    d'.Accounted where
  count_eq x level := by
    rw [hcount, h.count_eq]
    -- Of the task itself the old and the new place say everything; the others stay where they are.
    by_cases hx : x = id
    · subst hx
      simp only [hold, hnew, and_true, Nat.sub_self, Nat.zero_add]
    · have hid : ∀ place : Option Level, ¬ (place = some level ∧ id = x) :=
        fun _ hid => hx hid.2.symm
      rw [hplace x hx, if_neg (hid old), if_neg (hid new)]
      rfl
  le_newest := hle

theorem Accounted.quiet (h : d.Accounted) (hstep : d.Quiet d') : d'.Accounted := by
  have hfresh := h.fresh
  cases hstep with
  | release => exact h.of_places rfl (fun _ => rfl) h.le_newest
  | enlist _ =>
      refine h.of_places rfl (fun x => ?_) (fun x hx => ?_)
      · by_cases hx : x = d.newest + 1
        · subst hx
          rw [place?_store_self, place?_of_not_mem hfresh]
          rfl
        · exact place?_store_of_ne { d with newest := d.newest + 1 } _ hx
      · rcases mem_store.mp hx with rfl | hx
        · exact Nat.le_refl _
        · exact Nat.le_succ_of_le (h.le_newest x hx)
  | discard _ =>
      refine h.of_places rfl (fun x => ?_) (fun x hx => ?_)
      · simp only [place?, Std.ExtTreeMap.getElem?_erase, Nat.compare_eq_eq]
        by_cases hx : d.newest + 1 = x
        · rw [if_pos hx, ← hx, Std.ExtTreeMap.getElem?_eq_none hfresh]
        · rw [if_neg hx]
      · exact Nat.le_succ_of_le (h.le_newest x (Std.ExtTreeMap.mem_of_mem_erase hx))
  | @update id task updated hlive hupdate =>
      obtain ⟨_, hlevel, hrunning⟩ := hupdate.kept
      refine h.of_places rfl (fun x => ?_) (fun x hx => h.le_newest x ?_)
      · by_cases hx : x = id
        · subst hx
          rw [place?_store_self, place?, hlive, hlevel, hrunning]
          rfl
        · exact place?_store_of_ne d _ hx
      · exact (mem_store_of_live hlive).mp hx
  | register | tell | restock => exact h.of_places rfl (fun _ => rfl) h.le_newest

theorem count_enqueue (d : Dispatcher) (queues : RunQueues) (level other : Level) (id x : TaskId) :
    ((d.enqueue queues level id).get other).count x =
      (queues.get other).count x + if level = other ∧ id = x then 1 else 0 := by
  unfold enqueue
  cases d.config.requeuePolicy with
  | back => exact RunQueues.count_pushBack _ _ _ _ _
  | front =>
      simp only
      split
      · exact RunQueues.count_pushSecond _ _ _ _ _
      · exact RunQueues.count_pushFront _ _ _ _ _

theorem Accounted.makeRunnable (h : d.Accounted) (hlive : d.tasks[id]? = some task)
    (hrunning : task.running = false) (level : Level) :
    (d.makeRunnable id task level).Accounted := by
  refine h.relocate _ _ (place?_of_sleeping hlive hrunning) (place?_store_self d id _)
    (fun other x => ?_) (fun x hx => place?_store_of_ne d _ hx)
    (fun x hx => h.le_newest x ((mem_store_of_live hlive).mp hx))
  show ((d.queues.pushBack level id).get other).count x = _
  rw [RunQueues.count_pushBack]
  simp only [reduceCtorEq, false_and, if_false, if_true, Option.some.injEq, Nat.sub_zero]

/-- The executing task stands at the active level, so that is where its level leaves from. -/
theorem Accounted.level_executing (h : d.Accounted) (hlive : d.tasks[id]? = some task)
    (hrunning : task.running = true) (hexecuting : d.executing? = some id) :
    task.level = d.active :=
  Option.some.inj ((place?_of_running hlive hrunning).symm.trans (h.place?_executing hexecuting))

theorem Accounted.changeLevel (h : d.Accounted) (hlive : d.tasks[id]? = some task)
    (hrunning : task.running = true) (level : Level) :
    (d.changeLevel id task level).Accounted := by
  have hold : d.place? id = some task.level := place?_of_running hlive hrunning
  have hnew : (d.store id { task with level }).place? id = some level := by
    rw [place?_store_self, if_pos hrunning]
  have hle : ∀ x ∈ (d.store id { task with level }).tasks, x ≤ d.newest :=
    fun x hx => h.le_newest x ((mem_store_of_live hlive).mp hx)
  unfold Dispatcher.changeLevel
  by_cases hsame : level = task.level
  · rw [if_pos hsame]
    exact h
  rw [if_neg hsame]
  by_cases hexecuting : d.executing? = some id
  · rw [if_pos hexecuting]
    refine h.relocate _ _ hold hnew (fun other x => ?_) (fun x hx => place?_store_of_ne d _ hx) hle
    show (((d.queues.dropHead d.active).pushFront level id).get other).count x = _
    -- It leaves from the head of the active level, which is the level it has.
    rw [RunQueues.count_pushFront, RunQueues.dropHead_eq_erase hexecuting, RunQueues.count_erase,
      h.level_executing hlive hrunning hexecuting]
    simp only [Option.some.injEq]
  · rw [if_neg hexecuting]
    refine h.relocate _ _ hold hnew (fun other x => ?_) (fun x hx => place?_store_of_ne d _ hx) hle
    show ((d.enqueue (d.queues.erase task.level id) level id).get other).count x = _
    rw [count_enqueue, RunQueues.count_erase]
    simp only [Option.some.injEq]

theorem Accounted.dropOut (h : d.Accounted) (hlive : d.tasks[id]? = some task)
    (hrunning : task.running = true) : (d.dropOut id task).Accounted := by
  refine h.relocate _ _ (place?_of_running hlive hrunning) (place?_store_self d id _)
    (fun other x => ?_) (fun x hx => place?_store_of_ne d _ hx)
    (fun x hx => h.le_newest x ((mem_store_of_live hlive).mp hx))
  show ((d.queues.erase task.level id).get other).count x = _
  rw [RunQueues.count_erase]
  simp only [Option.some.injEq, Bool.false_eq_true, if_false, reduceCtorEq, false_and,
    Nat.add_zero]

theorem Accounted.requeue (h : d.Accounted) (hstep : d.Requeue d') : d'.Accounted := by
  cases hstep with
  | wake level hlive hrunning => exact h.makeRunnable hlive hrunning level
  | move level hlive hrunning => exact h.changeLevel hlive hrunning level
  | drop hlive hrunning _ => exact h.dropOut hlive hrunning

/-! ### Turns -/

/-- The queues after the executing task gave way. -/
theorem queues_rotate (hx : d.executing? = some x) (stay : Bool) :
    (d.rotate stay).queues =
      if stay then d.queues.rotate d.active else d.queues.dropHead d.active := by
  rw [rotate_of_executing hx]

theorem place?_rotate (d : Dispatcher) (stay : Bool) (x : TaskId) :
    (d.rotate stay).place? x = d.place? x := by
  rw [place?, tasks_rotate, place?]

theorem Accounted.turnOver (h : d.Accounted) (hx : d.executing? = some x) :
    (d.rotate true).Accounted where
  count_eq y level := by
    rw [queues_rotate hx, if_pos rfl, RunQueues.count_rotate, place?_rotate, h.count_eq]
  le_newest := by
    rw [tasks_rotate, newest_rotate]
    exact h.le_newest

theorem Accounted.doze (h : d.Accounted) (hx : d.executing? = some id)
    (hlive : d.tasks[id]? = some task) : (d.doze id task).Accounted := by
  refine h.relocate (some d.active) none (h.place?_executing hx) ?_
    (fun other x => ?_) (fun x hne => ?_) (fun x hmem => ?_)
  · rw [Dispatcher.doze, place?_rotate, place?_store_self]
    rfl
  · have hx' : (d.store id { task with running := false }).executing? = some id := hx
    rw [Dispatcher.doze, queues_rotate hx', if_neg (by decide)]
    show ((d.queues.dropHead d.active).get other).count x = _
    rw [RunQueues.dropHead_eq_erase hx, RunQueues.count_erase]
    simp only [Option.some.injEq, reduceCtorEq, false_and, if_false, Nat.add_zero]
  · rw [Dispatcher.doze, place?_rotate]
    exact place?_store_of_ne d _ hne
  · rw [Dispatcher.doze, tasks_rotate] at hmem
    rw [Dispatcher.doze, newest_rotate]
    exact h.le_newest x ((mem_store_of_live hlive).mp hmem)

theorem tasks_conclude (d : Dispatcher) (id : TaskId) (code : Int32) :
    (d.conclude id code).tasks = d.tasks.erase id := by
  simp only [Dispatcher.conclude, retire, tasks_rotate]

theorem getElem?_conclude (d : Dispatcher) (id : TaskId) (code : Int32) (x : TaskId) :
    (d.conclude id code).tasks[x]? = if id = x then none else d.tasks[x]? := by
  rw [tasks_conclude]
  simp only [Std.ExtTreeMap.getElem?_erase, Nat.compare_eq_eq]

theorem Accounted.conclude (h : d.Accounted) (hx : d.executing? = some id) (code : Int32) :
    (d.conclude id code).Accounted := by
  refine h.relocate (some d.active) none (h.place?_executing hx) ?_
    (fun other x => ?_) (fun x hne => ?_) (fun x hmem => ?_)
  · rw [place?, getElem?_conclude, if_pos rfl]
    rfl
  · show ((d.rotate false).queues.get other).count x = _
    rw [queues_rotate hx, if_neg (by decide), RunQueues.dropHead_eq_erase hx,
      RunQueues.count_erase]
    simp only [Option.some.injEq, reduceCtorEq, false_and, if_false, Nat.add_zero]
  · rw [place?, getElem?_conclude, if_neg hne.symm, place?]
  · rw [tasks_conclude] at hmem
    show x ≤ (d.rotate false).newest
    rw [newest_rotate]
    exact h.le_newest x (Std.ExtTreeMap.mem_of_mem_erase hmem)

theorem Accounted.turn (h : d.Accounted) (hstep : d.Turn d') : d'.Accounted := by
  cases hstep with
  | @elapse id saved hx =>
      obtain ⟨task, hlive, _, _⟩ := h.executing_live hx
      have hsaved : d.Quiet (d.modifyTask id ({ · with context := saved })) := by
        rw [modifyTask, hlive]
        exact .update hlive (.reset saved)
      exact (h.quiet hsaved).turnOver (by rw [hsaved.executing, hx])
  | sleep hx hlive _ => exact h.doze hx hlive
  | finish code hx => exact h.conclude hx code

/-- The executing task is live and awake, so its own sleep can only select another task, or strand.
-/
theorem Suspended.of_executing {outcome : Result (Option Switch)} (h : d.Suspended id outcome)
    (haccounted : d.Accounted) (hx : d.executing? = some id) :
    ∃ task, d.tasks[id]? = some task ∧
      ((∃ next, (d.release.doze id task).executing? = some next ∧
          outcome = .done (d.release.doze id task) (some { next, current := id })) ∨
        ((d.release.doze id task).executing? = none ∧
          outcome = (d.release.doze id task).fail
            (.emptyQueue (d.release.doze id task).active))) := by
  obtain ⟨live, hlive, hrunning, _⟩ := haccounted.executing_live hx
  cases h with
  | gone hgone => exact absurd (hgone.symm.trans hlive) (by simp)
  | asleep htask hasleep =>
      have htask' := Option.some.inj (htask.symm.trans hlive)
      rw [htask', hrunning] at hasleep
      exact absurd hasleep (by decide)
  | dropped _ _ hother => exact absurd hx hother
  | turned htask _ _ hnext => exact ⟨_, htask, .inl ⟨_, hnext, rfl⟩⟩
  | stranded htask _ _ hnone => exact ⟨_, htask, .inr ⟨hnone, rfl⟩⟩

/-! ### The start -/

theorem getElem?_start (config : Config) (platform : Platform) (arena : Arena) (id : TaskId) :
    (start config platform arena).tasks[id]? =
      if 1 = id then some { id := 1, level := Level.highest, running := true } else none := by
  have hempty : (∅ : Std.ExtTreeMap TaskId Task)[id]? = none :=
    Std.ExtTreeMap.getElem?_empty
  show ((∅ : Std.ExtTreeMap TaskId Task).insert 1 _)[id]? = _
  rw [Std.ExtTreeMap.getElem?_insert, hempty]
  simp only [Nat.compare_eq_eq]

theorem accounted_start (config : Config) (platform : Platform) (arena : Arena) :
    (start config platform arena).Accounted where
  count_eq id level := by
    show ((RunQueues.empty.pushBack Level.highest 1).get level).count id = _
    rw [RunQueues.count_pushBack, RunQueues.get_empty, List.count_nil, Nat.zero_add, place?,
      getElem?_start]
    by_cases hid : 1 = id
    · simp only [hid, and_true, if_true, Option.bind_some, Option.some.injEq]
    · simp only [hid, and_false, if_false, Option.bind_none, reduceCtorEq]
  le_newest id hmem := by
    obtain ⟨task, hlive⟩ := mem_tasks_iff.mp hmem
    rw [getElem?_start] at hlive
    by_cases hid : 1 = id
    · exact hid ▸ Nat.le_refl 1
    · rw [if_neg hid] at hlive
      exact absurd hlive (by simp)

end Dispatcher

/-! ## Every reachable state -/

theorem Dispatcher.Accounted.run {s : Scheduler} (h : s.tasks.Accounted)
    (history : List Scheduler.Operation) : (s.run history).tasks.Accounted :=
  Scheduler.invariant_run Accounted.quiet Accounted.requeue Accounted.turn s history h

namespace Scheduler

theorem accounted_run (config : Config) (platform : Platform) (arena : Arena)
    (history : List Operation) :
    ((start config platform arena).run history).tasks.Accounted :=
  (Dispatcher.accounted_start config platform arena).run history

theorem Reachable.accounted {s : Scheduler} (h : s.Reachable) : s.tasks.Accounted := by
  obtain ⟨config, platform, arena, history, rfl⟩ := h
  exact accounted_run config platform arena history

/-- **The run queues are consistent** after every history of operations, whether they succeeded or
not. -/
theorem consistent_run (config : Config) (platform : Platform) (arena : Arena)
    (history : List Operation) :
    ((start config platform arena).run history).tasks.Consistent :=
  (accounted_run config platform arena history).consistent

end Scheduler

end TaskKernel
