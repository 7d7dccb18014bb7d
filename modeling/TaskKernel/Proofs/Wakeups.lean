import TaskKernel.Proofs.Expiry
import TaskKernel.Proofs.Steps

/-!
# No message waits for a sleeper

A task that looks for a message and falls asleep because there is none does both in one step, and
whoever sends it one wakes it. So if nothing else puts a task to sleep, it never sleeps over a
message:

* `Task.Attentive` — the task does not sleep over a message. Hearing, taking, and taking or falling
  asleep keep a task so;
* `Operation.Lulls` — the operations that put a task to sleep whatever waits for it. Every other
  operation keeps the task attentive (`attentive_perform`), and so does every history of others
  (`attentive_run`);
* `Kernel.attentive_after` — the same of the steps that tasks, interrupts and the ticks of the clock
  take in any order.
-/

namespace TaskKernel

/-- The task does not sleep over a message. -/
def Task.Attentive (task : Task) : Prop := task.running = false → task.mailbox.messages = []

namespace Task.Attentive

variable {task : Task}

/-- Who hears anything runs. -/
theorem hear (h : task.Attentive) (messages : List Message) : (task.hear messages).Attentive := by
  intro hsleeps
  obtain ⟨hslept, hsilent⟩ := Bool.or_eq_false_iff.mp hsleeps
  have hnone : messages = [] := by simpa using hsilent
  simp [Task.hear, h hslept, hnone]

/-- Who sleeps has nothing to take. -/
theorem take (h : task.Attentive) : ({ task with mailbox := task.mailbox.pop.2 } : Task).Attentive
    := by
  intro hsleeps
  simp [h hsleeps]

/-- Who falls asleep has taken the last message before. -/
theorem takeOrSleep (h : task.Attentive) : task.takeOrSleep.Attentive := by
  intro hsleeps
  show task.mailbox.messages.tail = []
  rcases Bool.and_eq_false_iff.mp hsleeps with hslept | hdrained
  · rw [h hslept, List.tail_nil]
  · have hnone : task.mailbox.messages = [] := by simpa [Mailbox.isEmpty] using hdrained
    rw [hnone, List.tail_nil]

end Task.Attentive

namespace Dispatcher

variable {d d' : Dispatcher} {x : TaskId}

/-- The task does not sleep over a message, if it is live. -/
def Attentive (d : Dispatcher) (x : TaskId) : Prop :=
  ∀ task, d.tasks[x]? = some task → task.Attentive

theorem Attentive.of_map (h : d.Attentive x) {f : Task → Task}
    (hrecord : d'.tasks[x]? = d.tasks[x]?.map f)
    (hf : ∀ task : Task, task.Attentive → (f task).Attentive) : d'.Attentive x := by
  intro task hlive
  rw [hrecord] at hlive
  obtain ⟨before, hbefore, rfl⟩ := Option.map_eq_some_iff.mp hlive
  exact hf before (h before hbefore)

theorem Attentive.of_ite (h : d.Attentive x) {p : Prop} [Decidable p] {f : Task → Task}
    (hrecord : d'.tasks[x]? = if p then d.tasks[x]?.map f else d.tasks[x]?)
    (hf : p → ∀ task : Task, task.Attentive → (f task).Attentive) : d'.Attentive x := by
  by_cases hp : p
  · rw [if_pos hp] at hrecord
    exact h.of_map hrecord (hf hp)
  · rw [if_neg hp] at hrecord
    intro task hlive
    exact h task (hrecord.symm.trans hlive)

theorem Attentive.plainly (h : d.Attentive x) (haccounted : d.Accounted) (hplain : d.Plainly d') :
    d'.Attentive x := by
  intro task hlive hsleeps
  cases hbefore : d.tasks[x]? with
  | none =>
      have hnew : x ∉ d.tasks := by simp [mem_tasks_iff, hbefore]
      rw [hplain.born haccounted hnew hlive]
      rfl
  | some before =>
      obtain ⟨kept, hkept, hmailbox, hrunning⟩ := hplain.keeps haccounted hbefore
      have hsame : kept = task := Option.some.inj (hkept.symm.trans hlive)
      subst hsame
      -- A plain change does not put anybody to sleep, so the task slept before.
      have hslept : before.running = false := by
        by_contra hran
        rw [hrunning (Bool.not_eq_false _ ▸ hran)] at hsleeps
        exact nomatch hsleeps
      rw [hmailbox]
      exact h before hbefore hslept

/-- A task that ends is gone, and the others are told of it or not concerned. -/
theorem Attentive.exit (h : d.Attentive x) (code : Int32) : (d.exit code).state.Attentive x := by
  cases hexecuting : d.executing? with
  | none =>
      rw [exit_of_none hexecuting]
      exact h
  | some id =>
      have hrecord := getElem?_exit hexecuting code x
      by_cases hself : id = x
      · rw [if_pos hself] at hrecord
        intro task hlive
        exact nomatch hrecord.symm.trans hlive
      · rw [if_neg hself] at hrecord
        exact h.of_ite hrecord fun _ _ _ hsleeps => nomatch hsleeps

end Dispatcher

namespace Scheduler

open Dispatcher

variable {s : Scheduler} {operation : Operation} {history : List Operation} {id : TaskId}

/-- The operation puts the task to sleep, whether or not a message waits for it. -/
def Operation.Lulls (d : Dispatcher) (id : TaskId) : Operation → Prop
  | .suspend slept => slept = id
  | .awaitExit waiter target => waiter = id ∧ d.Blocks id target
  | _ => False

theorem attentive_perform (haccounted : s.tasks.Accounted) (h : s.tasks.Attentive id)
    (hspares : ¬ operation.Lulls s.tasks id) : (s.perform operation).state.tasks.Attentive id := by
  cases operation with
  | create | prepare | prepareWith | editContext | launch | wake | startSchedule | armAt
  | armAfter | restock =>
      exact h.plainly haccounted (plain_perform s (by trivial))
  | suspend slept =>
      exact h.of_ite (getElem?_suspend _ slept id) fun hslept => absurd hslept hspares
  | awaitExit waiter target =>
      refine h.of_ite (getElem?_awaitExit _ waiter target id) fun ⟨hblocks, hwaiter⟩ => ?_
      exact absurd ⟨hwaiter, hwaiter ▸ hblocks⟩ hspares
  | preempt saved => exact h.of_ite (getElem?_preempt _ saved id) fun _ _ hkept => hkept
  | exit code => exact h.exit code
  | send target message =>
      exact h.of_ite (getElem?_send _ target message id) fun _ _ hkept => hkept.hear _
  | receive target =>
      exact h.of_ite (getElem?_receive _ target id) fun _ _ hkept => hkept.take
  | receiveOrSuspend =>
      exact h.of_ite (getElem?_receiveOrSuspend _ id) fun _ _ hkept => hkept.takeOrSleep
  | tick => exact h.of_map (getElem?_tick s id) fun _ hkept => hkept.hear _

/-- No operation of the history lulls the task. -/
def Spares (id : TaskId) : Scheduler → List Operation → Prop :=
  Along fun s operation => ¬ operation.Lulls s.tasks id

theorem attentive_run (haccounted : s.tasks.Accounted) (h : s.tasks.Attentive id)
    (hspares : Spares id s history) : (s.run history).tasks.Attentive id := by
  have hkept := invariant_along (I := fun s => s.tasks.Accounted ∧ s.tasks.Attentive id)
    (fun {s operation} hs hoperation =>
      ⟨hs.1.run [operation], attentive_perform hs.1 hs.2 hoperation⟩)
    ⟨haccounted, h⟩ hspares
  exact hkept.2

/-- The first task starts awake. -/
theorem attentive_start (config : Config) (platform : Platform) (arena : Arena) (id : TaskId) :
    (Dispatcher.start config platform arena).Attentive id := by
  intro task hlive hsleeps
  rw [getElem?_start] at hlive
  by_cases hfirst : 1 = id
  · rw [if_pos hfirst] at hlive
    cases hlive
    exact nomatch hsleeps
  · rw [if_neg hfirst] at hlive
    exact nomatch hlive

end Scheduler

namespace Kernel

open Scheduler

variable {k : Kernel} {id : TaskId}

/-- The step puts the task to sleep, whether or not a message waits for it: somebody suspends it, or
it suspends itself or waits for the end of another task. -/
def Step.Lulls (d : Dispatcher) (id : TaskId) : Step → Prop
  | .call (.suspend slept) => slept = id
  | .call .suspendCurrent => d.executing? = some id
  | .call (.awaitExit target) => d.executing? = some id ∧ d.Blocks id target
  | .within operation => operation.Lulls d id
  | _ => False

/-- No step lulls the task. -/
def Spared (id : TaskId) : Kernel → List Step → Prop
  | _, [] => True
  | k, step :: rest => ¬ step.Lulls k.tasks.value id ∧ Spared id (k.apply step) rest

/-- An operation of the executing task spares whoever it would spare if that task executed. -/
theorem spares_current {s : Scheduler} {operation : TaskId → Operation}
    (hspares : ∀ x, s.tasks.executing? = some x → ¬ (operation x).Lulls s.tasks id) :
    Spares id s (s.tasks.executing?.map operation).toList := by
  cases hx : s.tasks.executing? with
  | none => exact trivial
  | some x => exact ⟨hspares x hx, trivial⟩

theorem spares_step {s : Scheduler} {step : Step} (hspares : ¬ step.Lulls s.tasks id) :
    Spares id s (step.operations s.tasks) := by
  cases step with
  | within operation => exact ⟨hspares, trivial⟩
  | call call =>
      cases call with
      | create | prepare | launch | wake | exit | send | receive | awaitMessage | armAt | armAfter
      | tick | preempt | restock => exact ⟨fun hlulls => hlulls, trivial⟩
      | current | now | giveFocus | focused => exact trivial
      | suspend slept => exact ⟨hspares, trivial⟩
      | suspendCurrent =>
          refine spares_current fun x hx hself => hspares ?_
          exact hx.trans (congrArg some hself)
      | awaitExit target =>
          refine spares_current fun x hx hlulls => hspares ?_
          exact ⟨hx.trans (congrArg some hlulls.1), hlulls.2⟩

theorem spares_operations (h : k.Idle) {steps : List Step} (hspared : Spared id k steps) :
    Spares id k.scheduler (k.operations steps) := by
  induction steps generalizing k with
  | nil => exact trivial
  | cons step rest ih =>
      have hstep := apply_refines h step
      refine along_append.mpr ⟨spares_step hspared.1, ?_⟩
      rw [← hstep.scheduler_eq]
      exact ih hstep.toIdle hspared.2

/-- **No message waits for a sleeper.** From the start, whatever steps tasks, interrupts and the
ticks take in whatever order: if none of them lulls a task, the task sleeps only while its mailbox is
empty, and while there is a message for it, it stands in its run queue. -/
theorem attentive_after {config : Config} {platform : Platform} {arena : Arena} {interrupts : Bool}
    (hstart : start config platform arena interrupts = .ok k) {steps : List Step}
    (hspared : Spared id k steps) {task : Task}
    (hlive : (k.after steps).tasks.value.find? id = some task) :
    (task.running = false → task.mailbox.messages = []) ∧
      (task.mailbox.messages ≠ [] → id ∈ (k.after steps).tasks.value.queues.get task.level) := by
  have hbegun := leaves_start hstart
  have hhistory : (k.after steps).tasks.value = (k.scheduler.run (k.operations steps)).tasks :=
    congrArg Scheduler.tasks (after_refines hbegun.toIdle steps).scheduler_eq
  have haccounted : k.scheduler.tasks.Accounted := by
    rw [hbegun.scheduler_eq]
    exact accounted_run config platform arena [.startSchedule]
  have hattentive : k.scheduler.tasks.Attentive id := by
    rw [hbegun.scheduler_eq]
    exact attentive_run (accounted_run config platform arena []) (attentive_start _ _ _ id)
      ⟨fun hlulls => hlulls, trivial⟩
  rw [hhistory] at hlive ⊢
  have hsleeps := attentive_run haccounted hattentive (spares_operations hbegun.toIdle hspared)
    task hlive
  refine ⟨hsleeps, fun hwaits => ?_⟩
  have hrunning : task.running = true := by
    by_contra hslept
    exact hwaits (hsleeps (Bool.not_eq_true _ ▸ hslept))
  exact (haccounted.run _).mem_iff.mpr (Dispatcher.place?_of_running hlive hrunning)

/-- The first task looks for a message and gives way to the second one, which sends it one. -/
theorem attentive_awaitMessage :
    ∃ k d task, start {} Platform.simulated (Arena.simulated 0) true = .ok k ∧
      (k.after [.call .create, .call (.wake 2 none), .call .awaitMessage, .call .tick,
        .call (.send 1 { payload := .layerFinish, sender := 2 })]).tasks.value = d ∧
      d.find? 1 = some task ∧ task.mailbox.messages = [{ payload := .layerFinish, sender := 2 }] ∧
        1 ∈ d.queues.get task.level := by
  have hstart : start {} Platform.simulated (Arena.simulated 0) true = .ok _ := rfl
  refine ⟨_, _, _, hstart, rfl, rfl, rfl, ?_⟩
  refine And.right (attentive_after hstart ?_ rfl) (List.cons_ne_nil _ _)
  exact ⟨fun h => h, fun h => h, fun h => h, fun h => h, fun h => h, trivial⟩

end Kernel

end TaskKernel
