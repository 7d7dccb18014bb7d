import TaskKernel.Proofs.Requests
import TaskKernel.Proofs.TaskByTask
import Mathlib.Data.List.Infix

/-!
# Arrivals stand behind the others

Most operations leave everybody in the run queues where he stands: whoever becomes runnable by them
joins his queue at its end (`Appended`), and the active level is the same. These are all but the
changes of level, the sleeps, and the ends of turns and tasks (`appended_perform`).
-/

namespace TaskKernel

theorem RunQueues.prefix_pushBack (q : RunQueues) (level other : Level) (id : TaskId) :
    q.get other <+: (q.pushBack level id).get other := by
  rw [pushBack, get_set]
  by_cases hlevel : level = other
  · subst hlevel
    rw [if_pos rfl]
    exact List.prefix_append _ _
  · rw [if_neg hlevel]

namespace Dispatcher

variable {d d' d'' : Dispatcher} {id : TaskId} {task : Task}

/-- The queues have got longer at their ends, if at all. -/
structure Appended (d d' : Dispatcher) : Prop where
  active_eq : d'.active = d.active
  queues_le : ∀ level, d.queues.get level <+: d'.queues.get level

theorem Appended.of_queues (hqueues : d'.queues = d.queues) (hactive : d'.active = d.active) :
    d.Appended d' := by
  refine ⟨hactive, ?_⟩
  intro level
  rw [hqueues]

theorem Appended.refl (d : Dispatcher) : d.Appended d := .of_queues rfl rfl

theorem Appended.trans (h : d.Appended d') (h' : d'.Appended d'') : d.Appended d'' := by
  refine ⟨h'.active_eq.trans h.active_eq, ?_⟩
  intro level
  exact (h.queues_le level).trans (h'.queues_le level)

/-! ## Waking -/

theorem appended_makeRunnable (d : Dispatcher) (id : TaskId) (task : Task) (level : Level) :
    d.Appended (d.makeRunnable id task level) := by
  refine ⟨rfl, ?_⟩
  intro other
  exact RunQueues.prefix_pushBack d.queues level other id

theorem appended_rouse (d : Dispatcher) (id : TaskId) : d.Appended (d.rouse id) := by
  by_cases h : ∃ task, d.Sleeps id task
  · obtain ⟨task, hsleeps⟩ := h
    rw [rouse_of_sleeps hsleeps]
    exact appended_makeRunnable d id task task.level
  · rw [rouse_of_not_sleeps (not_exists.mp h)]
    exact .refl d

theorem appended_wakeAll (d : Dispatcher) (ids : List TaskId) : d.Appended (d.wakeAll ids) := by
  induction ids generalizing d with
  | nil => exact .refl d
  | cons id rest ih =>
      rw [wakeAll_cons]
      exact (appended_rouse d id).trans (ih (d.rouse id))

theorem appended_send (d : Dispatcher) (id : TaskId) (message : Message) :
    d.Appended (d.send id message).state := by
  unfold send
  cases d.tasks[id]? with
  | none => exact .refl d
  | some task =>
      simp only
      rw [state_wake_none]
      have hposted : d.Appended
          (d.store id { task with mailbox := task.mailbox.push message }) := .of_queues rfl rfl
      exact hposted.trans (appended_rouse _ id)

/-! ## New tasks and messages -/

theorem appended_create (d : Dispatcher) : d.Appended d.create.state := by
  by_cases hfits : d.newest + 1 < Word.size
  · rw [create_done hfits]
    exact .of_queues rfl rfl
  · rw [create_full hfits]
    exact .of_queues rfl rfl

theorem appended_prepareWith (d : Dispatcher) (id : TaskId) (start : Task.Start)
    (stackBytes : Nat) : d.Appended (d.prepareWith id start stackBytes).state := by
  have h := prepared d id start stackBytes
  generalize d.prepareWith id start stackBytes = outcome at h ⊢
  cases h with
  | gone | running | homeless | broken | done => exact .of_queues rfl rfl

theorem appended_launch (d : Dispatcher) (entry data : UInt64) (level : Option Nat) :
    d.Appended (d.launch entry data level).state := by
  have h := launched d entry data level
  generalize d.launch entry data level = outcome at h ⊢
  cases h with
  | denied | full | discarded | broken => exact .of_queues rfl rfl
  | @done granted stack context arena =>
      have hhoused : d.Appended (d.release.enlisted.housed stack context arena) :=
        .of_queues rfl rfl
      exact hhoused.trans (appended_makeRunnable _ _ _ _)

theorem appended_receive (d : Dispatcher) (id : TaskId) :
    d.Appended (d.receive id).state := by
  unfold receive
  cases d.tasks[id]? with
  | none => exact .refl d
  | some task => exact .of_queues rfl rfl

end Dispatcher

namespace Scheduler

open Dispatcher

/-- The operation changes nobody's level, and nobody gives way by it. -/
def Operation.Arrival : Operation → Prop
  | .create | .prepare _ _ | .prepareWith _ _ _ | .editContext _ _ | .launch _ _ _ | .send _ _
  | .receive _ | .startSchedule | .armAt _ _ _ _ | .armAfter _ _ _ _ | .tick | .restock _ => True
  | _ => False

theorem appended_perform (s : Scheduler) {operation : Operation} (h : operation.Arrival) :
    s.tasks.Appended (s.perform operation).state.tasks := by
  cases operation with
  | create => exact appended_create _
  | prepare | prepareWith => exact appended_prepareWith _ _ _ _
  | editContext id edits =>
      unfold perform
      cases htask : s.tasks.find? id with
      | none => simp only [htask]; exact .refl _
      | some task => simp only [htask]; exact .of_queues rfl rfl
  | launch => exact appended_launch _ _ _ _
  | send => exact appended_send _ _ _
  | receive => exact appended_receive _ _
  | startSchedule | armAt | armAfter =>
      simp only [perform, Outcome.state_map, tasks_onTimers]
      exact .refl _
  | tick => exact tick_of_send Appended.refl Appended.trans appended_send s
  | restock => exact .of_queues rfl rfl
  | wake | suspend | preempt | receiveOrSuspend | exit | awaitExit => exact absurd h id

end Scheduler

end TaskKernel
