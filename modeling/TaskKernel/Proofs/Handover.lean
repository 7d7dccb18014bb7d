import TaskKernel.Proofs.InStep
import TaskKernel.Proofs.Retirement
import TaskKernel.Proofs.Steps

/-!
# What a switch hands over

A switch names two tasks by their numbers. When it is carried out, the kernel asks the dispatcher
for the contexts under these numbers, and the processor saves to the one and goes on with the other.
Numbers are never mixed up (`context?_eq_some_iff`), so these are the contexts of the two tasks:

* `switched_carryOut` — at the moment of the switch, wherever a history has led;
* `handsOver_run` — over all calls from the start. There both tasks are live, and so is the task
  that the processor runs after each call, be it another one that it went on with for good.
-/

namespace TaskKernel

open Dispatcher

/-- A live task has the number, and what is found under it is the context of this task. -/
def Dispatcher.Hands (d : Dispatcher) (id : TaskId) : Prop :=
  ∃ task, d.find? id = some task ∧ task.id = id ∧ d.context? id = some task.context

namespace Scheduler

variable {s : Scheduler} {id : TaskId}

theorem Reachable.hands (hs : s.Reachable) (hlive : id ∈ s.tasks.tasks) : s.tasks.Hands id := by
  obtain ⟨task, htask⟩ := mem_tasks_iff.mp hlive
  have hid : task.id = id := hs.identified.named id task htask
  refine ⟨task, htask, hid, ?_⟩
  exact (context?_eq_some_iff hs.identified hs.distinct).mpr ⟨task, .inl htask, hid, rfl⟩

/-- A context that is found under a number is that of the task with this number, which is live or
waits for its release. -/
theorem Reachable.owner (hs : s.Reachable) (hfound : (s.tasks.context? id).isSome = true) :
    ∃ task, (s.tasks.find? id = some task ∨ task ∈ s.tasks.retired) ∧ task.id = id ∧
      s.tasks.context? id = some task.context := by
  obtain ⟨context, hcontext⟩ := Option.isSome_iff_exists.mp hfound
  obtain ⟨task, howned, hid, rfl⟩ :=
    (context?_eq_some_iff hs.identified hs.distinct).mp hcontext
  exact ⟨task, howned, hid, hcontext⟩

end Scheduler

namespace Kernel

variable {k : Kernel} {switch : Switch}

/-- A switch that is carried out is handed the contexts of its two tasks. -/
theorem switched_carryOut (h : k.Idle) (hs : k.scheduler.Reachable) {seen : Switch} {view : View}
    (hmem : .switched seen view ∈ (carryOut switch k).events) :
    seen = switch ∧ ∀ id, id = switch.next ∨ id = switch.current →
      ∃ task, (k.tasks.value.find? id = some task ∨ task ∈ k.tasks.value.retired) ∧
        task.id = id ∧ k.tasks.value.context? id = some task.context := by
  unfold carryOut at hmem
  by_cases hother : switch.next ≠ switch.current
  · rw [if_pos hother, Act.bind_apply, onTasks_apply h.tasks_free] at hmem
    simp only [Outcome.answer_done, Outcome.bind, Except.mapError] at hmem
    by_cases hpossible : ((k.tasks.value.context? switch.next).isSome &&
        (k.tasks.value.context? switch.current).isSome) = true
    · obtain ⟨hnext, hcurrent⟩ := Bool.and_eq_true_iff.mp hpossible
      have hseen : seen = switch := by
        simp [hpossible, Outcome.after, Outcome.done] at hmem
        exact hmem.1
      refine ⟨hseen, ?_⟩
      rintro id (rfl | rfl)
      · exact hs.owner hnext
      · exact hs.owner hcurrent
    · simp [hpossible, Outcome.done] at hmem
  · rw [if_neg hother] at hmem
    exact absurd hmem List.not_mem_nil

/-- Tasks and timers have a history after any calls. -/
theorem refines_run (h : k.Idle) (hs : k.scheduler.Reachable) (calls : List Call) :
    (k.run calls).Idle ∧ (k.run calls).scheduler.Reachable := by
  induction calls generalizing k with
  | nil => exact ⟨h, hs⟩
  | cons call rest ih =>
      obtain ⟨history, hrefines⟩ := perform_refines h call
      refine ih hrefines.toIdle ?_
      rw [hrefines.scheduler_eq]
      exact hs.run history

/-- The contexts that the processor is handed over one call are those of its tasks. -/
structure HandsOver (k : Kernel) (cpu : TaskId) (call : Call) : Prop where
  switched : ∀ switch view, .switched switch view ∈ (call.perform k).events →
    (call.perform k).state.tasks.value.Hands switch.next ∧
      (call.perform k).state.tasks.value.Hands switch.current
  running : ¬ Exhausted (call.perform k) →
    (call.perform k).state.tasks.value.Hands (processor cpu (call.perform k).events)

/-- **The processor is handed the contexts of the tasks between which it changes.** -/
theorem handsOver_run {config : Config} {platform : Platform} {arena : Arena} {interrupts : Bool}
    (hstart : start config platform arena interrupts = .ok k) (calls : List Call)
    (hlasting : k.Lasting calls) (call : Call) :
    HandsOver (k.run calls) (processor 1 (k.trace calls)) call := by
  have hbegun := leaves_start hstart
  have hreachable : k.scheduler.Reachable :=
    ⟨config, platform, arena, [.startSchedule], hbegun.scheduler_eq.symm⟩
  obtain ⟨hidle, hs⟩ := refines_run hbegun.toIdle hreachable calls
  obtain ⟨_, hafter⟩ := refines_run hidle hs [call]
  obtain ⟨_, hattuned⟩ := attuned_run (attuned_start hstart) hlasting
  have hagrees := agrees_perform hattuned call
  constructor
  · intro switch view hmem
    obtain ⟨⟨hnext, hcurrent⟩, hsame⟩ := hagrees.live switch view hmem
    exact ⟨hafter.hands ((hsame _).mpr hnext), hafter.hands ((hsame _).mpr hcurrent)⟩
  · intro hlasts
    have hrun := hagrees.attuned.resolve_left hlasts
    exact hafter.hands (hrun.accounted.mem_executing hrun.executing)

end Kernel

end TaskKernel
