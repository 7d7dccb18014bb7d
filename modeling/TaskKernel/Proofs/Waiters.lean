import TaskKernel.Proofs.Lifetimes
import TaskKernel.Proofs.Records
import Mathlib.Data.List.Induction
import Mathlib.Data.List.Nodup

/-!
# Nobody waits in vain

A task that asks after another one which has not ended falls asleep and is noted as waiting for it.
It may be woken for other reasons and ask again, but it is noted once and stays so until the other
task ends (`Waits.mem_awaiting`, `Dispatcher.Noted`); then it is woken (`running_exit`). No list of
waiters is left for a task that is gone.
-/

namespace TaskKernel

namespace Dispatcher

variable {d d' : Dispatcher} {id x waiter target : TaskId} {task : Task} {code : Int32}

/-- Only live tasks have lists of waiters, and nobody is on one of them twice. -/
structure Noted (d : Dispatcher) : Prop where
  live : ∀ target, target ∈ d.waiters → target ∈ d.tasks
  nodup : ∀ target, (d.awaiting target).Nodup

theorem Noted.of_sameRecords (h : d.Noted) (hrecords : d.SameRecords d')
    (hlive : ∀ x, x ∈ d.tasks → x ∈ d'.tasks) : d'.Noted where
  live target hmem := hlive target (h.live target (hrecords.waiters ▸ hmem))
  nodup target := by
    rw [hrecords.awaiting]
    exact h.nodup target

theorem Noted.register (h : d.Noted) (htarget : target ∈ d.tasks) (waiter : TaskId) :
    (d.register waiter target).Noted where
  live id hmem := by
    rcases Std.ExtTreeMap.mem_insert.mp hmem with hid | hmem
    · exact Nat.compare_eq_eq.mp hid ▸ htarget
    · exact h.live id hmem
  nodup id := by
    rw [awaiting_register]
    split
    · rename_i hnew
      rw [← List.concat_eq_append]
      exact (h.nodup id).concat hnew.2
    · exact h.nodup id

theorem Noted.conclude (h : d.Noted) (id : TaskId) (code : Int32) : (d.conclude id code).Noted where
  live target hmem := by
    obtain ⟨hne, hmem⟩ := Std.ExtTreeMap.mem_erase.mp hmem
    have hother : id ≠ target := fun hid => hne (Nat.compare_eq_eq.mpr hid)
    exact (mem_conclude d id code).mpr ⟨hother, h.live target hmem⟩
  nodup target := by
    unfold awaiting Dispatcher.conclude
    simp only [Std.ExtTreeMap.getElem?_erase]
    split
    · exact List.nodup_nil
    · exact h.nodup target

theorem Noted.quiet (h : d.Noted) (haccounted : d.Accounted) (hstep : d.Quiet d') : d'.Noted := by
  cases hstep with
  | release => exact h.of_sameRecords ⟨rfl, rfl⟩ fun _ hx => hx
  | enlist _ => exact h.of_sameRecords ⟨rfl, rfl⟩ fun _ hx => mem_store.mpr (.inr hx)
  | discard _ =>
      refine h.of_sameRecords ⟨rfl, rfl⟩ fun x hx => Std.ExtTreeMap.mem_erase.mpr ⟨?_, hx⟩
      -- The number that is used up is nobody's.
      intro hnew
      exact haccounted.fresh (Nat.compare_eq_eq.mp hnew ▸ hx)
  | update hlive _ =>
      exact h.of_sameRecords ⟨rfl, rfl⟩ fun _ hx => (mem_store_of_live hlive).mpr hx
  | register htarget _ => exact h.register htarget _
  | tell | restock => exact ⟨h.live, h.nodup⟩

theorem Noted.requeue (h : d.Noted) (hstep : d.Requeue d') : d'.Noted :=
  h.of_sameRecords hstep.sameRecords fun _ hx => hstep.mem_iff.mpr hx

theorem Noted.turn (h : d.Noted) (hstep : d.Turn d') : d'.Noted := by
  cases hstep with
  | @elapse id saved _ =>
      have hsaved := sameRecords_modifyTask d id ({ · with context := saved })
      exact h.of_sameRecords (hsaved.trans (sameRecords_rotate _ true)) fun _ hx => by
        rw [tasks_rotate]
        exact mem_modifyTask.mpr hx
  | @sleep id task _ hlive _ =>
      have hasleep : d.SameRecords (d.store id { task with running := false }) := ⟨rfl, rfl⟩
      exact h.of_sameRecords (hasleep.trans (sameRecords_rotate _ false)) fun _ hx =>
        (mem_doze hlive).mpr hx
  | finish code _ => exact h.conclude _ code

/-- When a task ends, all who waited for it and live are runnable. -/
theorem running_exit (hx : d.executing? = some id) (hmem : waiter ∈ d.awaiting id)
    (htask : (d.exit code).state.tasks[waiter]? = some task) : task.running = true := by
  rw [state_exit hx, getElem?_wakeAll, if_pos hmem] at htask
  obtain ⟨_, _, rfl⟩ := Option.map_eq_some_iff.mp htask
  rfl

/-- Its own list is struck out. -/
theorem not_mem_waiters_exit (hx : d.executing? = some id) :
    id ∉ (d.exit code).state.waiters := by
  rw [waiters_exit hx]
  exact fun hmem => (Std.ExtTreeMap.mem_erase.mp hmem).1 (Nat.compare_eq_eq.mpr rfl)

end Dispatcher

namespace Scheduler

open Dispatcher

variable {s : Scheduler} {history : List Operation} {id x waiter target : TaskId}

theorem noted_run (config : Config) (platform : Platform) (arena : Arena)
    (history : List Operation) : ((start config platform arena).run history).tasks.Noted := by
  have hstart : (start config platform arena).tasks.Noted := by
    constructor
    · intro target hmem
      exact absurd hmem (by simp [start, Dispatcher.start])
    · intro target
      simp [awaiting, start, Dispatcher.start]
  have h := invariant_run (P := fun d => d.Accounted ∧ d.Noted)
    (fun h hstep => ⟨h.1.quiet hstep, h.2.quiet h.1 hstep⟩)
    (fun h hstep => ⟨h.1.requeue hstep, h.2.requeue hstep⟩)
    (fun h hstep => ⟨h.1.turn hstep, h.2.turn hstep⟩)
    (start config platform arena) history ⟨accounted_start config platform arena, hstart⟩
  exact h.2

theorem Reachable.noted (h : s.Reachable) : s.tasks.Noted := by
  obtain ⟨config, platform, arena, history, rfl⟩ := h
  exact noted_run config platform arena history

/-- Whoever is noted as waiting for a task stays so until that ends. -/
theorem mem_awaiting_run (hmem : x ∈ s.tasks.awaiting id)
    (hlasts : ∀ code, ¬ s.Ended history id code) : x ∈ (s.run history).tasks.awaiting id := by
  induction history using List.reverseRecOn with
  | nil => exact hmem
  | append_singleton history operation ih =>
      have hbefore : x ∈ (s.run history).tasks.awaiting id :=
        ih fun code hended => hlasts code (ended_concat.mpr (.inl hended))
      rw [run_concat]
      -- The last operation would have to end the task to strike anybody off.
      refine mem_awaiting_perform hbefore ?_
      rintro code rfl hx
      exact hlasts code (ended_concat.mpr (.inr ⟨rfl, hx⟩))

/-- The task asked after another one in the course of the history, fell asleep over it, and the
other one has not ended since. -/
def Waits (s : Scheduler) (history : List Operation) (waiter target : TaskId) : Prop :=
  ∃ before switch later, history = before ++ .awaitExit waiter target :: later ∧
    ((s.run before).perform (.awaitExit waiter target)).answer = .ok (.wait (.blocked switch)) ∧
    ∀ code, ¬ ((s.run before).perform (.awaitExit waiter target)).state.Ended later target code

theorem Waits.mem_awaiting (h : s.Waits history waiter target) :
    waiter ∈ (s.run history).tasks.awaiting target := by
  obtain ⟨before, switch, later, rfl, hanswer, hlasts⟩ := h
  rw [run_append, run_cons]
  exact mem_awaiting_run (mem_awaiting_of_blocked (answer_perform_awaitExit.mp hanswer)) hlasts

/-- Whoever waits for a task is noted once, and woken when it ends. -/
structure NoneStranded (s : Scheduler) (history : List Operation) : Prop where
  registered : ∀ waiter target, s.Waits history waiter target →
    ((s.run history).tasks.awaiting target).count waiter = 1
  woken : ∀ target, (s.run history).tasks.executing? = some target → ∀ code,
    ∀ waiter ∈ (s.run history).tasks.awaiting target, ∀ task,
      ((s.run history).perform (.exit code)).state.tasks.find? waiter = some task →
        task.running = true
  struck : ∀ target, (s.run history).tasks.executing? = some target → ∀ code,
    target ∉ ((s.run history).perform (.exit code)).state.tasks.waiters
  live : ∀ target, target ∈ (s.run history).tasks.waiters → target ∈ (s.run history).tasks.tasks

/-- **Nobody who waits for the end of a task is stranded**, whatever else is done. -/
theorem noneStranded_run (config : Config) (platform : Platform) (arena : Arena)
    (history : List Operation) : (start config platform arena).NoneStranded history := by
  have hnoted := noted_run config platform arena history
  exact {
    registered := fun waiter target hwaits =>
      List.count_eq_one_of_mem (hnoted.nodup target) hwaits.mem_awaiting
    woken := fun target hx code waiter hmem task htask => running_exit hx hmem htask
    struck := fun target hx code => not_mem_waiters_exit hx
    live := hnoted.live }

end Scheduler

end TaskKernel
