import TaskKernel.Proofs.Decisions
import TaskKernel.Proofs.Waking

/-!
# A task lives once

Numbers are given out in ascending order and never again. So a number whose task is gone stays
`Past`: whatever is done, no task has it again (`Dispatcher.Past.run`), and it is never that of the
executing one.

The elementary changes are seen through two views here, who is live (`mem_…`) and the newest number
(`newest_…`).
-/

namespace TaskKernel

namespace Dispatcher

variable {d d' : Dispatcher} {id x : TaskId}

/-! ## Who is live -/

theorem mem_modifyTask {f : Task → Task} : x ∈ (d.modifyTask id f).tasks ↔ x ∈ d.tasks := by
  unfold modifyTask
  cases htask : d.tasks[id]? with
  | none => exact .rfl
  | some task => exact mem_store_of_live htask

theorem Requeue.mem_iff (h : d.Requeue d') : x ∈ d'.tasks ↔ x ∈ d.tasks := by
  cases h with
  | wake level hlive _ => exact mem_store_of_live hlive
  | move level hlive _ =>
      unfold changeLevel
      split
      · exact .rfl
      · split
        · exact mem_store_of_live hlive
        · exact mem_store_of_live hlive
  | drop hlive _ _ => exact mem_store_of_live hlive

theorem Requeue.newest_eq (h : d.Requeue d') : d'.newest = d.newest := by
  obtain ⟨_, _, _, _, rfl⟩ := h.exists_eq
  rfl

theorem mem_conclude (d : Dispatcher) (id : TaskId) (code : Int32) :
    x ∈ (d.conclude id code).tasks ↔ id ≠ x ∧ x ∈ d.tasks := by
  rw [tasks_conclude, Std.ExtTreeMap.mem_erase, ne_eq, ne_eq, Nat.compare_eq_eq]

/-- Nobody comes to live by giving way. -/
theorem Turn.mem (h : d.Turn d') (hx : x ∈ d'.tasks) : x ∈ d.tasks := by
  cases h with
  | elapse saved _ =>
      rw [tasks_rotate] at hx
      exact mem_modifyTask.mp hx
  | sleep _ hlive _ => exact (mem_doze hlive).mp hx
  | finish code _ => exact ((mem_conclude d _ code).mp hx).2

theorem Turn.newest_eq (h : d.Turn d') : d'.newest = d.newest := by
  cases h with
  | elapse saved _ =>
      rw [newest_rotate]
      unfold modifyTask
      split
      · rfl
      · rfl
  | sleep => exact newest_rotate _ false
  | finish => exact newest_rotate _ false

/-! ## Tasks that are gone -/

/-- The number was given out, and its task is gone. -/
def Past (d : Dispatcher) (id : TaskId) : Prop := id ≤ d.newest ∧ id ∉ d.tasks

/-- A task that is gone does not execute. -/
theorem Past.not_executing (h : d.Past id) (haccounted : d.Accounted) :
    d.executing? ≠ some id := by
  intro hx
  exact h.2 (haccounted.mem_executing hx)

theorem Past.quiet (h : d.Past id) (hstep : d.Quiet d') : d'.Past id := by
  obtain ⟨hle, hgone⟩ := h
  cases hstep with
  | release | register | tell | restock => exact ⟨hle, hgone⟩
  | enlist _ =>
      refine ⟨Nat.le_succ_of_le hle, fun hmem => ?_⟩
      rcases mem_store.mp hmem with hnew | hold
      · -- The new number is above all that were given out.
        rw [← hnew] at hle
        exact Nat.not_succ_le_self d.newest hle
      · exact hgone hold
  | discard _ =>
      exact ⟨Nat.le_succ_of_le hle, fun hmem => hgone (Std.ExtTreeMap.mem_of_mem_erase hmem)⟩
  | update hlive _ => exact ⟨hle, fun hmem => hgone ((mem_store_of_live hlive).mp hmem)⟩

theorem Past.requeue (h : d.Past id) (hstep : d.Requeue d') : d'.Past id :=
  ⟨hstep.newest_eq ▸ h.1, fun hmem => h.2 (hstep.mem_iff.mp hmem)⟩

theorem Past.turn (h : d.Past id) (hstep : d.Turn d') : d'.Past id :=
  ⟨hstep.newest_eq ▸ h.1, fun hmem => h.2 (hstep.mem hmem)⟩

/-- The executing task is gone when it has ended. -/
theorem past_conclude (haccounted : d.Accounted) (hx : d.executing? = some id) (code : Int32) :
    (d.conclude id code).Past id := by
  refine ⟨?_, fun hmem => ((mem_conclude d id code).mp hmem).1 rfl⟩
  rw [(Turn.finish code hx).newest_eq]
  exact haccounted.le_newest id (haccounted.mem_executing hx)

theorem past_exit (haccounted : d.Accounted) (hx : d.executing? = some id) (code : Int32) :
    (d.exit code).state.Past id := by
  rw [state_exit hx]
  exact (books_wakeAll _ _).invariant Past.quiet Past.requeue (past_conclude haccounted hx code)

end Dispatcher

/-! ## Histories -/

/-- A task that is gone stays so. -/
theorem Dispatcher.Past.run {s : Scheduler} {id : TaskId} (h : s.tasks.Past id)
    (history : List Scheduler.Operation) : (s.run history).tasks.Past id :=
  Scheduler.invariant_run Past.quiet Past.requeue Past.turn s history h

namespace Scheduler

open Dispatcher

/-- A task that has ended is gone. -/
theorem past_of_ended {s : Scheduler} {history : List Operation} {id : TaskId} {code : Int32}
    (haccounted : s.tasks.Accounted) (h : s.Ended history id code) :
    (s.run history).tasks.Past id := by
  obtain ⟨before, after, rfl, hx⟩ := h
  rw [run_append, run_cons]
  exact (past_exit (haccounted.run before) hx code).run after

end Scheduler

end TaskKernel
