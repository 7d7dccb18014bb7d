import TaskKernel.Kernel.Call
import TaskKernel.Proofs.Histories
import TaskKernel.Proofs.Switching

/-!
# The kernel's steps are operations of the scheduler

Between two steps of the kernel anybody may run: a call that does not block is one step, of one that
blocks each attempt is (`perform_eq_after`), and so is what is done within a use of the kernel's
parts. A step leaves the kernel's parts free and changes tasks and timers by one operation of the
scheduler at most (`apply_refines`), which can be told from the step and from who executes when it
is taken. So what holds of the scheduler over every history holds of the kernel over every sequence
of steps (`after_refines`), in whatever order tasks and interrupts take them.
-/

namespace TaskKernel.Kernel

variable {α β : Type} {k : Kernel} {s : Scheduler}

/-- The tasks and timers of the kernel. -/
def scheduler (k : Kernel) : Scheduler := { tasks := k.tasks.value, timers := k.timers.value }

/-- Nobody uses the kernel's parts. -/
structure Idle (k : Kernel) : Prop where
  tasks_free : k.tasks.borrowed = false
  timers_free : k.timers.borrowed = false

/-- What is done at one time. -/
inductive Step where
  /-- A call; of one that blocks, one attempt. -/
  | call (call : Call)
  /-- An operation within a use of both parts. -/
  | within (operation : Scheduler.Operation)
  deriving DecidableEq

/-- The kernel after one attempt to carry out a call. -/
def attempted (k : Kernel) : Call → Kernel
  | .awaitExit target => (exitAttempt target k).state
  | .awaitMessage => (messageAttempt k).state
  | call => (call.perform k).state

/-- The kernel after a step. -/
def apply (k : Kernel) : Step → Kernel
  | .call call => k.attempted call
  | .within operation => (withBoth (·.perform operation) k).state

/-- The operations of the scheduler that a step comes to. -/
def Step.operations (d : Dispatcher) : Step → List Scheduler.Operation
  | .call .create => [.create]
  | .call (.prepare id start) => [.prepare id start]
  | .call (.launch entry data level) => [.launch entry data level]
  | .call (.wake id level) => [.wake id level]
  | .call (.suspend id) => [.suspend id]
  | .call .suspendCurrent => (d.executing?.map .suspend).toList
  | .call (.exit code) => [.exit code]
  | .call (.awaitExit target) => (d.executing?.map (.awaitExit · target)).toList
  | .call (.send id message) => [.send id message]
  | .call (.receive id) => [.receive id]
  | .call .awaitMessage => [.receiveOrSuspend]
  | .call (.armAt timeout value target label) => [.armAt timeout value target label]
  | .call (.armAfter delay value target label) => [.armAfter delay value target label]
  | .call .tick => [.tick]
  | .call (.preempt saved) => [.preempt saved]
  | .call (.restock arena) => [.restock arena]
  | .call .current | .call .now | .call (.giveFocus _) | .call .focused => []
  | .within operation => [operation]

/-! ## Methods -/

/-- A method leaves the kernel's parts free, with these tasks and timers. -/
structure Leaves (s : Scheduler) (k : Kernel) : Prop extends Idle k where
  scheduler_eq : k.scheduler = s

theorem leaves_self (h : k.Idle) : Leaves k.scheduler k := ⟨h, rfl⟩

theorem Leaves.masked {body : Method α}
    (h : Leaves s (body { k with interrupts := false }).state) :
    Leaves s (Kernel.masked body k).state :=
  ⟨⟨h.tasks_free, h.timers_free⟩, h.scheduler_eq⟩

theorem Leaves.maskedUntilResumed {body : Method α}
    (h : Leaves s (body { k with interrupts := false }).state) :
    Leaves s (Kernel.maskedUntilResumed body k).state := by
  unfold Kernel.maskedUntilResumed
  simp only [Mask.acquire]
  split
  · exact h
  · exact ⟨⟨h.tasks_free, h.timers_free⟩, h.scheduler_eq⟩

theorem Leaves.fmap {method : Method α} (h : Leaves s (method k).state) (f : α → β) :
    Leaves s ((f <$> method) k).state := by
  rw [Act.map_apply]
  exact h

theorem Idle.exists_eq (h : k.Idle) :
    ∃ d t focus interrupts, k = ⟨Cell.new d, Cell.new t, focus, interrupts⟩ := by
  obtain ⟨⟨d, _⟩, ⟨t, _⟩, focus, interrupts⟩ := k
  cases h.tasks_free
  cases h.timers_free
  exact ⟨d, t, focus, interrupts, rfl⟩

theorem Attuned.idle {cpu : TaskId} (h : k.Attuned cpu) : k.Idle := ⟨h.tasks_free, h.timers_free⟩

theorem Idle.mask (h : k.Idle) : ({ k with interrupts := false } : Kernel).Idle :=
  ⟨h.tasks_free, h.timers_free⟩

/-- An operation of the dispatcher. -/
theorem leaves_onTasks (h : k.Idle) (operation : Dispatcher → Dispatcher.Result α) :
    Leaves { k.scheduler with tasks := (operation k.tasks.value).state }
      (onTasks operation k).state := by
  rw [onTasks_apply h.tasks_free]
  exact ⟨⟨rfl, h.timers_free⟩, rfl⟩

/-- What follows a method does not matter if it leaves tasks and timers alone. -/
theorem Leaves.bind {first : Method α} {body : α → Method β} (h : Leaves s (first k).state)
    (hbody : ∀ value (k' : Kernel), k'.Idle → Leaves k'.scheduler (body value k').state) :
    Leaves s ((first >>= body) k).state := by
  rw [Act.bind_apply]
  cases hanswer : (first k).answer with
  | error cause =>
      simp only [Outcome.bind, hanswer]
      exact h
  | ok value =>
      have hsecond := hbody value _ h.toIdle
      rw [h.scheduler_eq] at hsecond
      simp only [Outcome.bind, hanswer]
      exact hsecond

theorem leaves_masked (h : k.Idle) (operation : Dispatcher → Dispatcher.Result α) :
    Leaves { k.scheduler with tasks := (operation k.tasks.value).state }
      (masked (onTasks operation) k).state :=
  (leaves_onTasks h.mask operation).masked

/-- An operation of the timers. -/
theorem leaves_onTimers (h : k.Idle) (operation : Timers → Except Fault Timers) :
    Leaves (k.scheduler.onTimers operation).state (masked (onTimers operation) k).state := by
  obtain ⟨d, t, focus, interrupts, rfl⟩ := h.exists_eq
  refine Leaves.masked ?_
  unfold onTimers Scheduler.onTimers usingTimers
  simp only [Cell.borrow, Cell.new, Bool.false_eq_true, if_false, scheduler]
  cases operation t with
  | error cause => exact ⟨⟨rfl, rfl⟩, rfl⟩
  | ok timers => exact ⟨⟨rfl, rfl⟩, rfl⟩

/-- Carrying out a switch concerns the processor only. -/
theorem leaves_carryOut (h : k.Idle) (switch : Switch) :
    Leaves k.scheduler (carryOut switch k).state := by
  unfold carryOut
  split
  · refine (leaves_onTasks h fun d => .done d _).bind fun possible k' h' => ?_
    cases possible with
    | true => exact leaves_self h'
    | false => exact leaves_self h'
  · exact leaves_self h

/-- To look at the state on the way out does not change it. -/
theorem state_bind_done (outcome : Dispatcher.Result α) (f : α → Dispatcher → β) :
    (outcome.bind fun value d => .done d (f value d)).state = outcome.state := by
  cases hanswer : outcome.answer with
  | error cause => rw [Outcome.state_bind_of_error hanswer]
  | ok value => rw [Outcome.state_bind_of_ok hanswer, Outcome.state_done]

theorem leaves_suspend (h : k.Idle) (id : TaskId) :
    Leaves { k.scheduler with tasks := (k.tasks.value.suspend id).state } (suspend id k).state := by
  refine ((leaves_onTasks h.mask (·.suspend id)).bind fun switch k' h' => ?_).masked
  cases switch with
  | none => exact leaves_self h'
  | some switch => exact leaves_carryOut h' switch

theorem leaves_suspendCurrent (h : k.Idle) :
    Leaves { k.scheduler with
      tasks := (k.tasks.value.withCurrent k.tasks.value.suspend).state } (suspendCurrent k).state := by
  refine (Leaves.bind ?_ fun slept k' h' => ?_).masked
  · exact leaves_onTasks h.mask fun d => d.withCurrent d.suspend
  · cases slept with
    | error cause => exact leaves_self h'
    | ok switch =>
        cases switch with
        | none => exact leaves_self h'
        | some switch => exact leaves_carryOut h' switch

theorem leaves_exit (h : k.Idle) (code : Int32) :
    Leaves { k.scheduler with tasks := (k.tasks.value.exit code).state } (exit code k).state := by
  have hexit := leaves_onTasks h.mask fun d =>
    (d.exit code).bind fun next d => .done d (d.resumable? next)
  rw [state_bind_done] at hexit
  refine (hexit.bind fun next k' h' => ?_).maskedUntilResumed
  cases next with
  | none => exact leaves_self h'
  | some next => exact leaves_self h'

theorem leaves_preempt (h : k.Idle) (saved : Context) :
    Leaves { k.scheduler with tasks := (k.tasks.value.preempt saved).2 }
      (preempt saved k).state := by
  refine (Leaves.bind (leaves_onTasks h.mask fun d =>
      .done (d.preempt saved).2 ((d.preempt saved).1.bind (d.preempt saved).2.resumable?))
    fun next k' h' => ?_).maskedUntilResumed
  cases next with
  | none => exact leaves_self h'
  | some next => exact leaves_self h'

/-! ## Attempts -/

theorem leaves_exitAttempt (h : k.Idle) (target : TaskId) :
    Leaves { k.scheduler with
      tasks := (k.tasks.value.withCurrent (k.tasks.value.awaitExit · target)).state }
        (exitAttempt target k).state := by
  refine (Leaves.bind (leaves_onTasks h.mask fun d => d.withCurrent (d.awaitExit · target))
    fun awaited k' h' => ?_).masked
  cases awaited with
  | exited code => exact leaves_self h'
  | blocked switch =>
      cases switch with
      | none => exact leaves_self h'
      | some switch => exact (leaves_carryOut h' switch).fmap _

theorem leaves_messageAttempt (h : k.Idle) :
    Leaves { k.scheduler with tasks := k.tasks.value.receiveOrSuspend.state }
      (messageAttempt k).state := by
  refine (Leaves.bind (leaves_onTasks h.mask (·.receiveOrSuspend)) fun receipt k' h' => ?_).masked
  cases receipt with
  | message message => exact leaves_self h'
  | asleep switch =>
      cases switch with
      | none => exact leaves_self h'
      | some switch => exact (leaves_carryOut h' switch).fmap _

/-! ## Steps -/

/-- An operation of the executing task, if there is one. -/
theorem run_withCurrent (s : Scheduler) (operation : TaskId → Scheduler.Operation)
    (act : TaskId → Dispatcher.Result α)
    (hact : ∀ id, (s.perform (operation id)).state = { s with tasks := (act id).state }) :
    s.run (s.tasks.executing?.map operation).toList =
      { s with tasks := (s.tasks.withCurrent act).state } := by
  cases hx : s.tasks.executing? with
  | none =>
      rw [Dispatcher.withCurrent_of_none hx]
      rfl
  | some id =>
      rw [Dispatcher.withCurrent_of_executing hx]
      exact hact id

/-- A step does to tasks and timers what its operation of the scheduler does, and leaves the kernel's
parts free. -/
theorem apply_refines (h : k.Idle) (step : Step) :
    Leaves (k.scheduler.run (step.operations k.tasks.value)) (k.apply step) := by
  cases step with
  | within operation =>
      obtain ⟨d, t, focus, interrupts, rfl⟩ := h.exists_eq
      exact ⟨⟨rfl, rfl⟩, rfl⟩
  | call call =>
      cases call with
      | create => exact (leaves_masked h (·.create)).fmap _
      | prepare id start => exact (leaves_masked h (·.prepare id start)).fmap _
      | launch entry data level => exact (leaves_masked h (·.launch entry data level)).fmap _
      | wake id level => exact (leaves_masked h (·.wake id level)).fmap _
      | send id message => exact (leaves_masked h (·.send id message)).fmap _
      | receive id => exact (leaves_masked h (·.receive id)).fmap _
      | suspend id => exact (leaves_suspend h id).fmap _
      | suspendCurrent =>
          show Leaves (k.scheduler.run (k.scheduler.tasks.executing?.map _).toList) _
          rw [run_withCurrent k.scheduler .suspend k.tasks.value.suspend fun _ => rfl]
          exact (leaves_suspendCurrent h).fmap _
      | current =>
          have hleaves := (leaves_masked h fun d => d.withCurrent (.done d)).fmap Answer.task
          rw [Dispatcher.state_withCurrent_done] at hleaves
          exact hleaves
      | exit code => exact (leaves_exit h code).fmap _
      | awaitExit target =>
          show Leaves (k.scheduler.run (k.scheduler.tasks.executing?.map _).toList) _
          rw [run_withCurrent k.scheduler (.awaitExit · target)
            (k.tasks.value.awaitExit · target) fun _ => rfl]
          exact leaves_exitAttempt h target
      | awaitMessage => exact leaves_messageAttempt h
      | armAt timeout value target label =>
          exact (leaves_onTimers h (·.armAt timeout value target label)).fmap _
      | armAfter delay value target label =>
          exact (leaves_onTimers h (·.armAfter delay value target label)).fmap _
      | now =>
          obtain ⟨d, t, focus, interrupts, rfl⟩ := h.exists_eq
          exact ⟨⟨rfl, rfl⟩, rfl⟩
      | tick =>
          obtain ⟨d, t, focus, interrupts, rfl⟩ := h.exists_eq
          have hleaves : Leaves (Scheduler.tick { tasks := d, timers := t }).state
              (tick ⟨Cell.new d, Cell.new t, focus, interrupts⟩).state := ⟨⟨rfl, rfl⟩, rfl⟩
          exact hleaves.fmap _
      | preempt saved => exact (leaves_preempt h saved).fmap _
      | giveFocus | restock => exact ⟨⟨h.tasks_free, h.timers_free⟩, rfl⟩
      | focused => exact leaves_self h

/-- The kernel after some steps. -/
def after (k : Kernel) (steps : List Step) : Kernel := steps.foldl apply k

/-- The operations of the scheduler that some steps come to. -/
def operations (k : Kernel) : List Step → List Scheduler.Operation
  | [] => []
  | step :: rest => step.operations k.tasks.value ++ operations (k.apply step) rest

/-- Tasks and timers of the kernel have the history of its steps. -/
theorem after_refines (h : k.Idle) (steps : List Step) :
    Leaves (k.scheduler.run (k.operations steps)) (k.after steps) := by
  induction steps generalizing k with
  | nil => exact leaves_self h
  | cons step rest ih =>
      have hstep := apply_refines h step
      have hrest := ih hstep.toIdle
      rw [hstep.scheduler_eq, ← Scheduler.run_append] at hrest
      exact hrest

/-- Attempts up to the first that succeeds are steps of one kind. -/
theorem attempts_eq_after {attempt : Method (Option α)} {attempts : Nat → Method α} {step : Step}
    (hzero : ∀ k, (attempts 0 k).state = k)
    (hsucc : ∀ n, attempts (n + 1) = attempt >>= (·.elim (attempts n) pure))
    (hstep : ∀ k : Kernel, (attempt k).state = k.apply step) (n : Nat) (k : Kernel) :
    ∃ taken, (attempts n k).state = k.after (List.replicate taken step) := by
  induction n generalizing k with
  | zero => exact ⟨0, hzero k⟩
  | succ n ih =>
      rw [hsucc, Act.bind_apply]
      cases hanswer : (attempt k).answer with
      | error cause => exact ⟨1, (Outcome.state_bind_of_error hanswer _).trans (hstep k)⟩
      | ok value =>
          have hrest := Outcome.state_bind_of_ok hanswer
            (·.elim (attempts n) (pure : α → Method α))
          rw [hstep] at hrest
          cases value with
          | some value => exact ⟨1, hrest⟩
          | none =>
              obtain ⟨taken, hlater⟩ := ih (k.apply step)
              exact ⟨taken + 1, hrest.trans hlater⟩

/-- A whole call is a number of steps that nobody interrupts. -/
theorem perform_eq_after (k : Kernel) (call : Call) :
    ∃ taken, (call.perform k).state = k.after (List.replicate taken (.call call)) := by
  cases call with
  | awaitExit target =>
      have hstep (k : Kernel) : (exitAttempt target k).state = k.apply (.call (.awaitExit target)) :=
        rfl
      rw [Call.perform, Act.map_apply]
      exact attempts_eq_after (fun _ => rfl) (exitAttempts_succ target) hstep k.attemptsFor k
  | awaitMessage =>
      have hstep (k : Kernel) : (messageAttempt k).state = k.apply (.call .awaitMessage) := rfl
      rw [Call.perform, Act.map_apply]
      exact attempts_eq_after (fun _ => rfl) messageAttempts_succ hstep k.attemptsFor k
  | create | prepare | launch | wake | suspend | suspendCurrent | current | exit | send | receive
  | armAt | armAfter | now | tick | preempt | giveFocus | focused | restock =>
      exact ⟨1, rfl⟩

/-- So tasks and timers have a history when it ends. -/
theorem perform_refines (h : k.Idle) (call : Call) :
    ∃ history, Leaves (k.scheduler.run history) (call.perform k).state := by
  obtain ⟨taken, hafter⟩ := perform_eq_after k call
  rw [hafter]
  exact ⟨_, after_refines h _⟩

/-- A kernel starts with the scheduler's timer, and nobody uses its parts. -/
theorem leaves_start {config : Config} {platform : Platform} {arena : Arena} {interrupts : Bool}
    (h : start config platform arena interrupts = .ok k) :
    Leaves ((Scheduler.start config platform arena).run [.startSchedule]) k := by
  have hscheduler : (Scheduler.start config platform arena).run [.startSchedule] =
      ((Scheduler.start config platform arena).onTimers (·.startSchedule)).state := rfl
  rw [hscheduler]
  unfold start at h
  unfold Scheduler.onTimers
  cases htimers : (Timers.start config).startSchedule with
  | error cause =>
      rw [htimers] at h
      exact absurd h (by simp [bind, Except.bind])
  | ok timers =>
      rw [htimers] at h
      cases h
      exact ⟨⟨rfl, rfl⟩, by simp only [Scheduler.start, htimers]; rfl⟩

end TaskKernel.Kernel
