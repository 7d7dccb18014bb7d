import TaskKernel.Proofs.Histories

/-!
# Who executes

The dispatcher has no field for the executing task: it is the head of the active level's queue. So
every insertion into a queue and every change of the active level might move it by accident. None
does (`current_perform`): the executing task changes only where the operation announces it.
-/

namespace TaskKernel

namespace Dispatcher

theorem current_eq_ok_iff {d : Dispatcher} {x : TaskId} :
    d.current = .ok x ↔ d.executing? = some x := by
  unfold current
  cases d.executing? with
  | none => simp
  | some id => simp

end Dispatcher

namespace Scheduler

open Dispatcher

/-- An operation that does not yield keeps the executing task. -/
theorem executing_perform {s : Scheduler} {operation : Operation} {x : TaskId}
    (hx : s.tasks.executing? = some x) (hkeeps : ¬ operation.Yields s.tasks) :
    (s.perform operation).state.tasks.executing? = some x := by
  rcases steps_perform s operation with hbooks | ⟨hyields, _⟩
  · exact hbooks.executing hx
  · exact absurd hyields hkeeps

/-- **Bookkeeping never moves the processor.** Whatever an operation does to the queues and levels,
the executing task is the same afterwards, unless its turn is over, it falls asleep, or it ends. -/
theorem current_perform {s : Scheduler} {x : TaskId} (hx : s.tasks.current = .ok x)
    (operation : Operation) :
    (¬ operation.Yields s.tasks → (s.perform operation).state.tasks.current = .ok x) ∧
    ((s.perform operation).state.tasks.current ≠ .ok x →
      (∃ saved, operation = .preempt saved) ∨ (∃ code, operation = .exit code) ∨
      operation = .suspend x ∨
      (∃ target, operation = .awaitExit x target ∧ s.tasks.exitCodes[target]? = none ∧
        target ∈ s.tasks.tasks) ∨
      (operation = .receiveOrSuspend ∧
        ∃ task, s.tasks.find? x = some task ∧ task.mailbox.isEmpty = true)) := by
  rw [current_eq_ok_iff] at hx
  simp only [ne_eq, current_eq_ok_iff]
  refine ⟨executing_perform hx, fun hmoved => ?_⟩
  have hyields : operation.Yields s.tasks := by
    by_contra hkeeps
    exact hmoved (executing_perform hx hkeeps)
  cases operation with
  | preempt saved => exact .inl ⟨saved, rfl⟩
  | exit code => exact .inr (.inl ⟨code, rfl⟩)
  | suspend id =>
      have hid : id = x := Option.some.inj (hyields.symm.trans hx)
      exact .inr (.inr (.inl (hid ▸ rfl)))
  | awaitExit waiter target =>
      obtain ⟨hwaiter, hcode, htarget, _⟩ := hyields
      have hid : waiter = x := Option.some.inj (hwaiter.symm.trans hx)
      exact .inr (.inr (.inr (.inl ⟨target, hid ▸ rfl, hcode, htarget⟩)))
  | receiveOrSuspend =>
      obtain ⟨id, task, hid, htask, hempty⟩ :=
        Operation.withdraws_receiveOrSuspend_iff.mp hyields
      have hid' : id = x := Option.some.inj (hid.symm.trans hx)
      exact .inr (.inr (.inr (.inr ⟨rfl, task, hid' ▸ htask, hempty⟩)))
  | create | prepare | prepareWith | editContext | launch | wake | send | receive
  | startSchedule | armAt | armAfter | tick | restock => exact absurd hyields id

/-- The second task enters the first one's level under the policy that puts it at the front. -/
theorem current_wake_front :
    (((start { requeuePolicy := .front } Platform.simulated (Arena.simulated 0)).run
        [.create, .wake 2 (some 2)]).perform (.wake 2 (some 3))).state.tasks.current = .ok 1 :=
  (current_perform (s := (start { requeuePolicy := .front } Platform.simulated
    (Arena.simulated 0)).run [.create, .wake 2 (some 2)]) rfl (.wake 2 (some 3))).1 id

end Scheduler

end TaskKernel
