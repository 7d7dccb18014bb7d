import TaskKernel.Proofs.Requests
import TaskKernel.Proofs.TaskByTask
import Mathlib.Data.List.Induction

/-!
# A task goes on where it was interrupted

A task gets a context when it is given a stack, and another one each time its turn is over. These
are its `saves`, and the dispatcher keeps the last of them:

* `storedContext` — the context of a task, zero as long as it was given none;
* no other operation touches a context, and none touches that of another task
  (`storedContext_perform`);
* so after any history a live task has the context that was saved last (`goesOn_run`).
-/

namespace TaskKernel

namespace Dispatcher

variable {d d' d'' : Dispatcher} {id x : TaskId} {task : Task}

/-- The saved context of a live task, and zero for all others. -/
def storedContext (d : Dispatcher) (id : TaskId) : Context :=
  d.tasks[id]?.elim Context.zero (·.context)

theorem storedContext_of_live (h : d.tasks[id]? = some task) :
    d.storedContext id = task.context := by
  rw [storedContext, h, Option.elim_some]

theorem storedContext_of_none (h : d.tasks[id]? = none) : d.storedContext id = Context.zero := by
  rw [storedContext, h, Option.elim_none]

theorem storedContext_store (d : Dispatcher) (id : TaskId) (task : Task) (x : TaskId) :
    (d.store id task).storedContext x = if id = x then task.context else d.storedContext x := by
  rw [storedContext, getElem?_store]
  by_cases hx : id = x
  · rw [if_pos hx, if_pos hx, Option.elim_some]
  · rw [if_neg hx, if_neg hx, storedContext]

/-! ## Contexts that stay -/

/-- All contexts are as they were. -/
def SameContexts (d d' : Dispatcher) : Prop := ∀ id, d'.storedContext id = d.storedContext id

theorem SameContexts.refl (d : Dispatcher) : d.SameContexts d := fun _ => rfl

theorem SameContexts.trans (h : d.SameContexts d') (h' : d'.SameContexts d'') :
    d.SameContexts d'' := fun id => (h' id).trans (h id)

theorem storedContext_of_ite {p : Prop} [Decidable p] {f : Task → Task}
    (h : d'.tasks[x]? = if p then d.tasks[x]?.map f else d.tasks[x]?)
    (hcontext : ∀ task, (f task).context = task.context) :
    d'.storedContext x = d.storedContext x := by
  rw [storedContext, h, storedContext]
  by_cases hp : p
  · rw [if_pos hp]
    cases d.tasks[x]? with
    | none => rfl
    | some task => exact hcontext task
  · rw [if_neg hp]

theorem sameContexts_store (hlive : d.tasks[id]? = some task) (later : Task)
    (hcontext : later.context = task.context) : d.SameContexts (d.store id later) := by
  intro x
  rw [storedContext_store]
  by_cases hx : id = x
  · rw [if_pos hx, ← hx, storedContext_of_live hlive, hcontext]
  · rw [if_neg hx]

theorem sameContexts_wake (d : Dispatcher) (id : TaskId) (level : Option Nat) :
    d.SameContexts (d.wake id level).state := by
  have h := woken d id level
  generalize d.wake id level = outcome at h ⊢
  cases h with
  | refused => exact .refl d
  | @roused granted task _ hlive _ =>
      exact sameContexts_store hlive { task with level := _, running := true } rfl
  | @moved granted task _ hlive _ =>
      show d.SameContexts (d.changeLevel id task (granted.getD task.level))
      unfold changeLevel
      split
      · exact .refl d
      · split
        · exact sameContexts_store hlive { task with level := _ } rfl
        · exact sameContexts_store hlive { task with level := _ } rfl

theorem sameContexts_send (d : Dispatcher) (id : TaskId) (message : Message) :
    d.SameContexts (d.send id message).state := by
  intro x
  exact storedContext_of_ite (getElem?_send d id message x) fun _ => rfl

/-- A number that is still to be given out has no context. -/
theorem storedContext_fresh (haccounted : d.Accounted) :
    d.storedContext (d.newest + 1) = Context.zero :=
  storedContext_of_none (Std.ExtTreeMap.getElem?_eq_none haccounted.fresh)

theorem sameContexts_enlisted (haccounted : d.Accounted) : d.SameContexts d.enlisted := by
  intro x
  rw [enlisted, storedContext_store]
  by_cases hx : d.newest + 1 = x
  · rw [if_pos hx, ← hx, storedContext_fresh haccounted]
  · rw [if_neg hx]
    rfl

theorem sameContexts_create (haccounted : d.Accounted) : d.SameContexts d.create.state := by
  by_cases hfits : d.newest + 1 < Word.size
  · rw [create_done hfits]
    exact sameContexts_enlisted (d := d.release) (haccounted.quiet .release)
  · rw [create_full hfits]
    exact .refl d

/-! ## Contexts that are given -/

/-- The context that starts on a new stack, if there is room for one. -/
def entered (d : Dispatcher) (start : Task.Start) (stackBytes : Nat) : List Context :=
  ((d.furnish? start stackBytes).map fun (_, context, _) => context).toList

theorem entered_of_furnish {start : Task.Start} {stackBytes : Nat} {stack : Stack}
    {context : Context} {arena : Arena}
    (h : d.furnish? start stackBytes = some (stack, context, arena)) :
    d.entered start stackBytes = [context] := by
  rw [entered, h, Option.map_some, Option.toList_some]

theorem storedContext_prepareWith (d : Dispatcher) (target : TaskId) (start : Task.Start)
    (stackBytes : Nat) (x : TaskId) :
    (d.prepareWith target start stackBytes).state.storedContext x =
      (if target = x ∧ (d.prepareWith target start stackBytes).answer = .ok () then
        d.entered start stackBytes else []).getLast?.getD (d.storedContext x) := by
  have h := prepared d target start stackBytes
  generalize d.prepareWith target start stackBytes = outcome at h ⊢
  cases h with
  | gone | running | homeless | broken => simp
  | @done task stack context arena _ _ hfurnished =>
      rw [entered_of_furnish hfurnished]
      show ({ d with arena }.store target { task with stack, context }).storedContext x = _
      rw [storedContext_store]
      by_cases hx : target = x
      · simp [hx]
      · simp only [hx, if_false, false_and]
        rfl

theorem storedContext_launch (haccounted : d.Accounted) (entry data : UInt64)
    (level : Option Nat) (x : TaskId) :
    (d.launch entry data level).state.storedContext x =
      (if (d.launch entry data level).answer = .ok x then
        d.entered { entry, first := UInt64.ofNat x, second := data } d.config.stackBytes
        else []).getLast?.getD (d.storedContext x) := by
  have h := launched d entry data level
  generalize d.launch entry data level = outcome at h ⊢
  cases h with
  | denied | full => rfl
  | broken => exact sameContexts_enlisted (haccounted.quiet .release) x
  | discarded =>
      show (d.tasks.erase (d.newest + 1))[x]?.elim Context.zero (·.context) = d.storedContext x
      simp only [Std.ExtTreeMap.getElem?_erase, Nat.compare_eq_eq]
      by_cases hx : d.newest + 1 = x
      · rw [if_pos hx, Option.elim_none, ← hx, storedContext_fresh haccounted]
      · rw [if_neg hx, storedContext]
  | @done granted stack context arena _ _ hfurnished =>
      show ((d.release.enlisted.housed stack context arena).store (d.newest + 1)
        { id := d.newest + 1, stack, context, level := _, running := true }).storedContext x = _
      rw [storedContext_store]
      by_cases hx : d.newest + 1 = x
      · subst hx
        rw [entered_of_furnish hfurnished]
        simp
      · have hother : ¬ (Except.ok (d.newest + 1) : Except Stop TaskId) = .ok x := by
          intro hsame
          exact hx (Except.ok.inj hsame)
        rw [if_neg hx, Outcome.answer_after, Outcome.answer_done, if_neg hother]
        show ({ d.release.enlisted with arena }.store (d.newest + 1) _).storedContext x = _
        rw [storedContext_store, if_neg hx]
        exact sameContexts_enlisted (haccounted.quiet .release) x

theorem storedContext_preempt (d : Dispatcher) (saved : Context) (haccounted : d.Accounted)
    (x : TaskId) :
    (d.preempt saved).2.storedContext x =
      (if d.executing? = some x then [saved] else []).getLast?.getD (d.storedContext x) := by
  rw [storedContext, getElem?_preempt]
  by_cases hx : d.executing? = some x
  · obtain ⟨task, hlive, _⟩ := haccounted.executing_live hx
    simp [hx, hlive]
  · simp [hx, storedContext]

end Dispatcher

namespace Scheduler

open Dispatcher

variable {s : Scheduler} {operation : Operation} {id : TaskId}

/-- The contexts that a task is given by an operation. -/
def saves (id : TaskId) (s : Scheduler) : Operation → List Context
  | .prepare target start =>
    if target = id ∧ (s.tasks.prepare target start).answer = .ok () then
      s.tasks.entered start s.tasks.config.stackBytes
    else []
  | .prepareWith target start stackBytes =>
    if target = id ∧ (s.tasks.prepareWith target start stackBytes).answer = .ok () then
      s.tasks.entered start stackBytes
    else []
  | .launch entry data level =>
    if (s.tasks.launch entry data level).answer = .ok id then
      s.tasks.entered { entry, first := UInt64.ofNat id, second := data } s.tasks.config.stackBytes
    else []
  | .preempt saved => if s.tasks.executing? = some id then [saved] else []
  | _ => []

/-- One operation leaves a task that is not gone afterwards with the context that it is given last,
and else with the one it had. -/
theorem storedContext_perform (haccounted : s.tasks.Accounted)
    (hedits : ∀ edits, operation ≠ .editContext id edits) :
    (s.perform operation).state.tasks.Past id ∨
      (s.perform operation).state.tasks.storedContext id =
        (s.saves id operation).getLast?.getD (s.tasks.storedContext id) := by
  cases operation with
  | create => exact .inr (sameContexts_create haccounted id)
  | prepare target start => exact .inr (storedContext_prepareWith s.tasks target start _ id)
  | prepareWith target start stackBytes =>
      exact .inr (storedContext_prepareWith s.tasks target start stackBytes id)
  | editContext target edits =>
      have hother : target ≠ id := by
        rintro rfl
        exact hedits edits rfl
      right
      unfold perform
      cases hlive : s.tasks.find? target with
      | none => simp only [hlive]; rfl
      | some task =>
          simp only [hlive]
          show (s.tasks.store target _).storedContext id = _
          rw [storedContext_store, if_neg hother]
          rfl
  | launch entry data level => exact .inr (storedContext_launch haccounted entry data level id)
  | wake target level => exact .inr (sameContexts_wake s.tasks target level id)
  | suspend target =>
      exact .inr (storedContext_of_ite (getElem?_suspend s.tasks target id) fun _ => rfl)
  | preempt saved => exact .inr (storedContext_preempt s.tasks saved haccounted id)
  | send target message => exact .inr (sameContexts_send s.tasks target message id)
  | receive target =>
      exact .inr (storedContext_of_ite (getElem?_receive s.tasks target id) fun _ => rfl)
  | receiveOrSuspend =>
      exact .inr (storedContext_of_ite (getElem?_receiveOrSuspend s.tasks id) fun _ => rfl)
  | exit code =>
      cases hx : s.tasks.executing? with
      | none =>
          right
          show (s.tasks.exit code).state.storedContext id = _
          rw [exit_of_none hx]
          rfl
      | some ended =>
          by_cases hid : ended = id
          · subst hid
            exact .inl (past_exit haccounted hx code)
          · have hlasts := getElem?_exit hx code id
            rw [if_neg hid] at hlasts
            exact .inr (storedContext_of_ite hlasts fun _ => rfl)
  | awaitExit waiter target =>
      exact .inr (storedContext_of_ite (getElem?_awaitExit s.tasks waiter target id) fun _ => rfl)
  | startSchedule | armAt | armAfter =>
      simp only [perform, Outcome.state_map, tasks_onTimers]
      exact .inr rfl
  | tick => exact .inr (tick_of_send .refl .trans sameContexts_send s id)
  | restock => exact .inr rfl

/-! ## Histories -/

/-- Of what a task was given over a history the last counts, as long as it is not gone. -/
theorem storedContext_run {config : Config} {platform : Platform} {arena : Arena}
    {history : List Operation} (hedits : ∀ edits, .editContext id edits ∉ history) :
    ((start config platform arena).run history).tasks.Past id ∨
      ((start config platform arena).run history).tasks.storedContext id =
        ((start config platform arena).gather (saves id) history).getLast?.getD Context.zero := by
  induction history using List.reverseRecOn with
  | nil =>
      right
      show (Dispatcher.start config platform arena).storedContext id = Context.zero
      rw [storedContext, getElem?_start]
      split
      · rfl
      · rfl
  | append_singleton history operation ih =>
      have hbefore : ∀ edits, .editContext id edits ∉ history := by
        intro edits hmem
        exact hedits edits (List.mem_append_left _ hmem)
      have hlast : ∀ edits, operation ≠ .editContext id edits := by
        rintro edits rfl
        exact hedits edits (List.mem_append_right _ List.mem_cons_self)
      rw [run_concat, gather_concat, List.getLast?_append, Option.getD_or]
      rcases ih hbefore with hpast | hstored
      · exact .inl (hpast.run [operation])
      · rw [← hstored]
        exact storedContext_perform (accounted_run config platform arena history) hlast

/-- Every task goes on where it was interrupted. -/
structure GoesOn (s : Scheduler) (history : List Operation) : Prop where
  /-- The context of a task is the one it was given last, unless it is written to from outside. -/
  latest : ∀ id, (∀ edits, .editContext id edits ∉ history) →
    ∀ task, (s.run history).tasks.find? id = some task →
      task.context = (s.gather (saves id) history).getLast?.getD Context.zero
  /-- An operation that gives a task no context does not touch the one it has. -/
  untouched : ∀ id operation, (∀ edits, operation ≠ .editContext id edits) →
    (s.run history).saves id operation = [] →
    ∀ task later, (s.run history).tasks.find? id = some task →
      ((s.run history).perform operation).state.tasks.find? id = some later →
      later.context = task.context

/-- **A task goes on where it was interrupted**, whatever was done to it and to others since. -/
theorem goesOn_run (config : Config) (platform : Platform) (arena : Arena)
    (history : List Operation) : (start config platform arena).GoesOn history := by
  constructor
  · intro id hedits task hlive
    rcases storedContext_run hedits with hpast | hstored
    · exact absurd (mem_tasks_iff.mpr ⟨task, hlive⟩) hpast.2
    · rw [← hstored, storedContext_of_live hlive]
  · intro id operation hedits hnothing task later hlive hlater
    have haccounted := accounted_run config platform arena history
    rcases storedContext_perform haccounted hedits with hpast | hstored
    · exact absurd (mem_tasks_iff.mpr ⟨later, hlater⟩) hpast.2
    · rw [hnothing, storedContext_of_live hlater, storedContext_of_live hlive] at hstored
      exact hstored

end Scheduler

end TaskKernel
