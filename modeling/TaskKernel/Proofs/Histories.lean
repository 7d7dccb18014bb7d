import TaskKernel.Scheduler.Operation
import TaskKernel.Proofs.Bookkeeping

/-!
# Histories of the scheduler

Each operation on tasks and timers either keeps the books or makes the executing task give way once
(`steps_perform`), and which of them may do the latter can be told from the state in which they
start (`Operation.Yields`). An invariant of these two kinds of change holds after every history
(`invariant_run`).
-/

namespace TaskKernel.Scheduler

open Relation Dispatcher

/-! ## The operations that end or suspend the executing task -/

/-- The operation takes the executing task off its run queue. -/
def Operation.Withdraws (d : Dispatcher) : Operation → Prop
  | .exit _ => True
  | .suspend id => d.executing? = some id
  | .awaitExit waiter target =>
    d.executing? = some waiter ∧ d.exitCodes[target]? = none ∧ target ∈ d.tasks ∧ waiter ∈ d.tasks
  | .receiveOrSuspend =>
    (d.executing?.any fun id => (d.find? id).any (·.mailbox.isEmpty)) = true
  | _ => False

/-- The operation may move the processor to another task. -/
def Operation.Yields (d : Dispatcher) : Operation → Prop
  | .preempt _ => True
  | operation => operation.Withdraws d

/-- The request for a message takes the executing task off its queue if there is none. -/
theorem Operation.withdraws_receiveOrSuspend_iff {d : Dispatcher} :
    Operation.receiveOrSuspend.Withdraws d ↔
      ∃ id task, d.executing? = some id ∧ d.find? id = some task ∧
        task.mailbox.isEmpty = true := by
  show (d.executing?.any fun id => (d.find? id).any (·.mailbox.isEmpty)) = true ↔ _
  simp only [Option.any_eq_true, exists_and_left]

instance (d : Dispatcher) (operation : Operation) : Decidable (operation.Withdraws d) := by
  cases operation <;> unfold Operation.Withdraws <;> infer_instance

/-! ## Time -/

theorem tasks_onTimers (s : Scheduler) (act : Timers → Except Fault Timers) :
    (s.onTimers act).state.tasks = s.tasks := by
  unfold onTimers
  split <;> rfl

section Time

variable {R : Dispatcher → Dispatcher → Prop}

theorem expire_of_send (hrefl : ∀ d, R d d) (hsend : ∀ d id message, R d (d.send id message).state)
    (s : Scheduler) (timer : Timer) : R s.tasks (s.expire timer).state.tasks := by
  unfold expire
  cases timer.purpose with
  | schedule =>
      simp only [Outcome.state_map, tasks_onTimers]
      exact hrefl _
  | user value =>
      have hsent : R s.tasks (s.onTasks (·.send timer.target
          { payload := .timeout timer.timeout value timer.label })).state.tasks := hsend _ _ _
      simp only
      split <;> exact hsent

theorem expireFirst_of_send (hrefl : ∀ d, R d d) (htrans : ∀ {a b c}, R a b → R b c → R a c)
    (hsend : ∀ d id message, R d (d.send id message).state) (s : Scheduler) (n : Nat) :
    R s.tasks (s.expireFirst n).state.tasks := by
  induction n generalizing s with
  | zero => exact hrefl _
  | succ n ih =>
      unfold expireFirst
      cases s.timers.armed with
      | nil => exact hrefl _
      | cons timer rest =>
          simp only
          -- The timer leaves the list before it expires, which does not concern the tasks.
          have hfirst := expire_of_send hrefl hsend
            { s with timers := { s.timers with armed := rest } } timer
          generalize ({ s with timers := { s.timers with armed := rest } } : Scheduler).expire
            timer = expired at hfirst ⊢
          cases hanswer : expired.answer with
          | error cause =>
              rw [Outcome.state_bind_of_error hanswer]
              exact hfirst
          | ok value =>
              rw [Outcome.state_bind_of_ok hanswer]
              exact htrans hfirst (ih _)

/-- All that a tick does to the tasks is to send messages. -/
theorem tick_of_send (hrefl : ∀ d, R d d) (htrans : ∀ {a b c}, R a b → R b c → R a c)
    (hsend : ∀ d id message, R d (d.send id message).state) (s : Scheduler) :
    R s.tasks s.tick.state.tasks := by
  unfold tick
  cases Word.add s.timers.now 1 with
  | error cause => exact hrefl _
  | ok now =>
      exact expireFirst_of_send hrefl htrans hsend { s with timers := { s.timers with now } } _

end Time

theorem books_tick (s : Scheduler) : s.tasks.Books s.tick.state.tasks :=
  tick_of_send (fun _ => .refl) .trans books_send s

/-! ## One operation -/

/-- The operation creates, prepares or wakes a task, sets a timer, or is about memory. -/
def Operation.Plain : Operation → Prop
  | .create | .prepare _ _ | .prepareWith _ _ _ | .editContext _ _ | .launch _ _ _ | .wake _ _
  | .startSchedule | .armAt _ _ _ _ | .armAfter _ _ _ _ | .restock _ => True
  | _ => False

theorem plain_editContext (s : Scheduler) (id : TaskId) (edits : List Context.Edit) :
    s.tasks.Plainly (s.perform (.editContext id edits)).state.tasks := by
  unfold perform
  cases htask : s.tasks.find? id with
  | none => simp only [htask]; exact .refl
  | some task =>
      simp only [htask]
      exact .single (.reset _ htask)

/-- Nobody is told of such an operation, and nobody falls asleep by it. -/
theorem plain_perform (s : Scheduler) {operation : Operation} (h : operation.Plain) :
    s.tasks.Plainly (s.perform operation).state.tasks := by
  cases operation with
  | create => exact plain_create _
  | prepare | prepareWith => exact plain_prepareWith _ _ _ _
  | editContext id edits => exact plain_editContext s id edits
  | launch => exact plain_launch _ _ _ _
  | wake => exact plain_wake _ _ _
  | startSchedule | armAt | armAfter =>
      simp only [perform, Outcome.state_map, tasks_onTimers]
      exact .refl
  | restock arena => exact .single (.restock arena)
  | suspend | preempt | send | receive | receiveOrSuspend | exit | awaitExit | tick =>
      exact absurd h id

/-- An operation keeps the books, or it is one that may yield and the executing task gives way. -/
theorem steps_perform (s : Scheduler) (operation : Operation) :
    s.tasks.Books (s.perform operation).state.tasks ∨
      (operation.Yields s.tasks ∧ s.tasks.GivesWay (s.perform operation).state.tasks) := by
  cases operation with
  | create | prepare | prepareWith | editContext | launch | wake | startSchedule | armAt
  | armAfter | restock => exact .inl (Plainly.books (plain_perform s trivial))
  | suspend id =>
      rcases (suspended s.tasks id).steps with hbooks | ⟨hexecuting, hway⟩
      · exact .inl hbooks
      · exact .inr ⟨hexecuting, hway⟩
  | preempt saved =>
      rcases steps_preempt s.tasks saved with hbooks | hway
      · exact .inl hbooks
      · exact .inr ⟨trivial, hway⟩
  | send id message => exact .inl (books_send _ _ _)
  | receive id => exact .inl (books_of_quiet (books_receive _ _))
  | receiveOrSuspend =>
      rcases (served s.tasks).steps with hbooks | ⟨⟨id, task, hexecuting, hlive, hempty⟩, hway⟩
      · exact .inl hbooks
      · refine .inr ⟨?_, hway⟩
        have hmessages : task.mailbox.messages = [] := List.head?_eq_none_iff.mp hempty
        exact Operation.withdraws_receiveOrSuspend_iff.mpr
          ⟨id, task, hexecuting, hlive, List.isEmpty_iff.mpr hmessages⟩
  | exit code =>
      rcases steps_exit s.tasks code with hbooks | hway
      · exact .inl hbooks
      · exact .inr ⟨trivial, hway⟩
  | awaitExit waiter target =>
      rcases (inquired s.tasks waiter target).steps with
        hbooks | ⟨hx, hcode, htarget, hwaiter, hway⟩
      · exact .inl hbooks
      · exact .inr ⟨⟨hx, hcode, htarget, hwaiter⟩, hway⟩
  | tick => exact .inl (books_tick s)

/-! ## Histories -/

theorem run_nil (s : Scheduler) : s.run [] = s := rfl

theorem run_cons (s : Scheduler) (operation : Operation) (rest : List Operation) :
    s.run (operation :: rest) = (s.perform operation).state.run rest := rfl

theorem run_append (s : Scheduler) (first second : List Operation) :
    s.run (first ++ second) = (s.run first).run second := List.foldl_append

theorem run_concat (s : Scheduler) (history : List Operation) (operation : Operation) :
    s.run (history ++ [operation]) = ((s.run history).perform operation).state :=
  run_append s history [operation]

/-- What the operations of a history yield, each in the state in which it starts. -/
def gather {α : Type} (yield : Scheduler → Operation → List α) (s : Scheduler) :
    List Operation → List α
  | [] => []
  | operation :: rest => yield s operation ++ gather yield (s.perform operation).state rest

theorem gather_append {α : Type} (yield : Scheduler → Operation → List α) (s : Scheduler)
    (first second : List Operation) :
    s.gather yield (first ++ second) = s.gather yield first ++ (s.run first).gather yield second := by
  induction first generalizing s with
  | nil => rfl
  | cons operation rest ih =>
      rw [List.cons_append, gather, gather, ih, run_cons, List.append_assoc]

theorem gather_concat {α : Type} (yield : Scheduler → Operation → List α) (s : Scheduler)
    (history : List Operation) (operation : Operation) :
    s.gather yield (history ++ [operation]) =
      s.gather yield history ++ yield (s.run history) operation := by
  rw [gather_append, gather, gather, List.append_nil]

/-- Each operation of the history meets a condition in the state in which it starts. -/
def Along (P : Scheduler → Operation → Prop) : Scheduler → List Operation → Prop
  | _, [] => True
  | s, operation :: rest => P s operation ∧ Along P (s.perform operation).state rest

instance decidableAlong (P : Scheduler → Operation → Prop) [∀ s operation, Decidable (P s operation)] :
    (s : Scheduler) → (history : List Operation) → Decidable (s.Along P history)
  | _, [] => .isTrue trivial
  | s, operation :: rest =>
    @instDecidableAnd _ _ _ (decidableAlong P (s.perform operation).state rest)

theorem along_append {P : Scheduler → Operation → Prop} {s : Scheduler}
    {first second : List Operation} :
    s.Along P (first ++ second) ↔ s.Along P first ∧ (s.run first).Along P second := by
  induction first generalizing s with
  | nil => exact ⟨fun h => ⟨trivial, h⟩, fun h => h.2⟩
  | cons operation rest ih => rw [List.cons_append, run_cons, Along, Along, ih, and_assoc]

/-- What every operation that meets the condition keeps, such a history keeps. -/
theorem invariant_along {P : Scheduler → Operation → Prop} {I : Scheduler → Prop}
    (hstep : ∀ {s operation}, I s → P s operation → I (s.perform operation).state)
    {s : Scheduler} {history : List Operation} (hs : I s) (h : s.Along P history) :
    I (s.run history) := by
  induction history generalizing s with
  | nil => exact hs
  | cons operation rest ih => exact ih (hstep hs h.1) h.2

/-- The operations of a history, each with its answer. -/
def trace (s : Scheduler) : List Operation → List (Operation × Except Stop Answer)
  | [] => []
  | operation :: rest =>
    (operation, (s.perform operation).answer) :: trace (s.perform operation).state rest

/-- The operation succeeds or is refused. -/
def Completes (s : Scheduler) (operation : Operation) : Prop :=
  ∀ cause, (s.perform operation).answer ≠ .error (.fault cause)

instance decidableCompletes (s : Scheduler) (operation : Operation) :
    Decidable (s.Completes operation) :=
  match h : (s.perform operation).answer with
  | .ok _ => .isTrue fun _ hfault => nomatch h.symm.trans hfault
  | .error (.refused _) => .isTrue fun _ hfault => nomatch h.symm.trans hfault
  | .error (.fault cause) => .isFalse fun hcompletes => hcompletes cause h

/-- No operation of the history stops on a fault. -/
def Faultless : Scheduler → List Operation → Prop
  | _, [] => True
  | s, operation :: rest => s.Completes operation ∧ Faultless (s.perform operation).state rest

instance decidableFaultless : (s : Scheduler) → (history : List Operation) →
    Decidable (s.Faultless history)
  | _, [] => .isTrue trivial
  | s, operation :: rest =>
    @instDecidableAnd _ _ _ (decidableFaultless (s.perform operation).state rest)

theorem Reachable.run {s : Scheduler} (h : s.Reachable) (history : List Operation) :
    (s.run history).Reachable := by
  obtain ⟨config, platform, arena, before, rfl⟩ := h
  exact ⟨config, platform, arena, before ++ history, run_append _ _ _⟩

/-- A state that a history without a fault leads to from a fresh start. -/
def Undisturbed (s : Scheduler) : Prop :=
  ∃ config platform arena history, (start config platform arena).Faultless history ∧
    (start config platform arena).run history = s

theorem Undisturbed.reachable {s : Scheduler} (h : s.Undisturbed) : s.Reachable := by
  obtain ⟨config, platform, arena, history, _, hrun⟩ := h
  exact ⟨config, platform, arena, history, hrun⟩

theorem faultless_append {s : Scheduler} {first second : List Operation} :
    s.Faultless (first ++ second) ↔ s.Faultless first ∧ (s.run first).Faultless second := by
  induction first generalizing s with
  | nil => simp [Faultless, run_nil]
  | cons operation rest ih => simp only [List.cons_append, Faultless, ih, run_cons, and_assoc]

theorem Undisturbed.perform {s : Scheduler} {operation : Operation} (h : s.Undisturbed)
    (hcompletes : s.Completes operation) : (s.perform operation).state.Undisturbed := by
  obtain ⟨config, platform, arena, history, hfaultless, rfl⟩ := h
  refine ⟨config, platform, arena, history ++ [operation], ?_, run_concat _ _ _⟩
  exact faultless_append.mpr ⟨hfaultless, hcompletes, trivial⟩

/-- The task ended with this code in the course of the history. -/
def Ended (s : Scheduler) (history : List Operation) (id : TaskId) (code : Int32) : Prop :=
  ∃ before after, history = before ++ .exit code :: after ∧
    (s.run before).tasks.executing? = some id

/-- A task has ended if it had before the last operation, or if that ended it. -/
theorem ended_concat {s : Scheduler} {history : List Operation} {operation : Operation}
    {id : TaskId} {code : Int32} :
    s.Ended (history ++ [operation]) id code ↔
      s.Ended history id code ∨
        operation = .exit code ∧ (s.run history).tasks.executing? = some id := by
  constructor
  · rintro ⟨before, after, hsplit, hx⟩
    rcases List.eq_nil_or_concat after with rfl | ⟨after, last, rfl⟩
    · obtain ⟨rfl, hlast⟩ := List.append_inj' hsplit rfl
      exact .inr ⟨List.cons.inj hlast |>.1, hx⟩
    · rw [List.concat_eq_append, ← List.cons_append, ← List.append_assoc] at hsplit
      exact .inl ⟨before, after, (List.append_inj' hsplit rfl).1, hx⟩
  · rintro (⟨before, after, rfl, hx⟩ | ⟨rfl, hx⟩)
    · exact ⟨before, after ++ [operation], by simp, hx⟩
    · exact ⟨history, [], rfl, hx⟩

/-- A property of the dispatcher that survives each elementary change survives every history. -/
theorem invariant_run {P : Dispatcher → Prop}
    (hquiet : ∀ {d d' : Dispatcher}, P d → d.Quiet d' → P d')
    (hrequeue : ∀ {d d' : Dispatcher}, P d → d.Requeue d' → P d')
    (hturn : ∀ {d d' : Dispatcher}, P d → d.Turn d' → P d')
    (s : Scheduler) (history : List Operation) (hs : P s.tasks) : P (s.run history).tasks := by
  have hbooks : ∀ {d d' : Dispatcher}, d.Books d' → P d → P d' :=
    fun hsteps hd => hsteps.invariant hquiet hrequeue hd
  induction history generalizing s with
  | nil => exact hs
  | cons operation rest ih =>
      rw [run_cons]
      apply ih
      rcases steps_perform s operation with hkept | ⟨_, before, turned, hbefore, hgone, hafter⟩
      -- Whichever it is, a single operation contains at most one turn.
      · exact hbooks hkept hs
      · exact hbooks hafter (hturn (hbooks (books_of_quiet hbefore) hs) hgone)

/-- Nothing changes the configuration. -/
theorem config_perform (s : Scheduler) (operation : Operation) :
    (s.perform operation).state.tasks.config = s.tasks.config := by
  refine invariant_run (P := fun d => d.config = s.tasks.config) ?_ ?_ ?_ s [operation] rfl
  · intro d d' hconfig hstep
    cases hstep <;> exact hconfig
  · intro d d' hconfig hstep
    obtain ⟨_, _, _, _, rfl⟩ := hstep.exists_eq
    exact hconfig
  · intro d d' hconfig hstep
    cases hstep with
    | @elapse id saved _ =>
        rw [config_rotate, modifyTask]
        split <;> exact hconfig
    | sleep | finish => exact (config_rotate _ false).trans hconfig

end TaskKernel.Scheduler
