import TaskKernel.Proofs.Histories

/-!
# Stopping for want of a task

The fault of an empty queue is reported by whoever looks for the executing task and finds none. So
an operation that stops on it has left a state in which nobody executes
(`executing_of_emptyQueue`). Every other fault is one of arithmetic.
-/

namespace TaskKernel

/-! ## Faults of arithmetic -/

theorem Except.bind_ne_error {ε α β : Type} {first : Except ε α} {next : α → Except ε β} {cause : ε}
    (hfirst : first ≠ .error cause) (hnext : ∀ value, next value ≠ .error cause) :
    first >>= next ≠ .error cause := by
  cases first with
  | error other =>
      intro h
      have hother : other = cause := Except.error.inj h
      exact hfirst (hother ▸ rfl)
  | ok value => exact hnext value

theorem Word.add_ne_emptyQueue (a b : Nat) (level : Level) :
    Word.add a b ≠ .error (.emptyQueue level) := by
  unfold Word.add
  split <;> simp

theorem Word.sub_ne_emptyQueue (a b : Nat) (level : Level) :
    Word.sub a b ≠ .error (.emptyQueue level) := by
  unfold Word.sub
  split <;> simp

theorem Word.mul_ne_emptyQueue (a b : Nat) (level : Level) :
    Word.mul a b ≠ .error (.emptyQueue level) := by
  unfold Word.mul
  split <;> simp

theorem Stack.prepare_ne_emptyQueue (bottom words : Nat) (returnTo : UInt64) (level : Level) :
    Stack.prepare bottom words returnTo ≠ .error (.emptyQueue level) := by
  refine Except.bind_ne_error (Word.mul_ne_emptyQueue _ _ level) fun bytes => ?_
  refine Except.bind_ne_error (Word.add_ne_emptyQueue _ _ level) fun top => ?_
  refine Except.bind_ne_error (Word.sub_ne_emptyQueue _ _ level) fun pointer => ?_
  refine Except.bind_ne_error (Word.sub_ne_emptyQueue _ _ level) fun offset => ?_
  simp only
  split
  · exact fun h => nomatch h
  · exact fun h => nomatch h

theorem Timers.arm_ne_emptyQueue (t : Timers) (timeout : Nat) (purpose : Purpose)
    (target : TaskId) (label : Label) (level : Level) :
    t.arm timeout purpose target label ≠ .error (.emptyQueue level) := by
  unfold arm
  cases hserial : Word.add t.nextSerial 1 with
  | error cause =>
      intro h
      simp only [Except.map, Except.error.injEq] at h
      exact Word.add_ne_emptyQueue _ _ level (h ▸ hserial)
  | ok serial => exact fun h => nomatch h

theorem Timers.armSchedule_ne_emptyQueue (t : Timers) (target : TaskId) (label : Label)
    (level : Level) : t.armSchedule target label ≠ .error (.emptyQueue level) :=
  Except.bind_ne_error (Word.add_ne_emptyQueue _ _ level)
    fun _ => Timers.arm_ne_emptyQueue _ _ _ _ _ level

/-! ## Operations of the dispatcher -/

namespace Dispatcher

variable {d : Dispatcher}

/-- An operation that stops for want of a task leaves a state in which nobody executes. -/
def Candid {α : Type} (outcome : Result α) : Prop :=
  ∀ level, outcome.answer = .error (.fault (.emptyQueue level)) → outcome.state.executing? = none

theorem candid_of_ne {α : Type} {outcome : Result α}
    (h : ∀ level, outcome.answer ≠ .error (.fault (.emptyQueue level))) : Candid outcome :=
  fun level hempty => absurd hempty (h level)

theorem candid_create (d : Dispatcher) : Candid d.create := by
  intro level h
  by_cases hroom : d.newest + 1 < Word.size
  · rw [create_done hroom] at h
    exact absurd h (by simp)
  · rw [create_full hroom] at h
    exact absurd h (by simp)

theorem candid_prepareWith (d : Dispatcher) (id : TaskId) (start : Task.Start)
    (stackBytes : Nat) : Candid (d.prepareWith id start stackBytes) := by
  intro level hempty
  have h := prepared d id start stackBytes
  generalize d.prepareWith id start stackBytes = outcome at h hempty
  cases h with
  | gone | running | homeless | done => simp at hempty
  | broken _ _ hstack =>
      simp only [answer_fail, Except.error.injEq, Stop.fault.injEq] at hempty
      exact absurd (hempty ▸ hstack) (Stack.prepare_ne_emptyQueue _ _ _ level)

/-- A request to wake a task is refused or succeeds. -/
theorem wake_ne_fault (d : Dispatcher) (id : TaskId) (level : Option Nat) (cause : Fault) :
    (d.wake id level).answer ≠ .error (.fault cause) := by
  unfold wake
  cases d.config.grantLevel? level with
  | error refusal => simp
  | ok granted =>
      simp only
      cases d.wakeAt id granted with
      | error refusal => simp
      | ok woken => simp

theorem send_ne_fault (d : Dispatcher) (id : TaskId) (message : Message) (cause : Fault) :
    (d.send id message).answer ≠ .error (.fault cause) := by
  unfold send
  cases d.tasks[id]? with
  | none => simp
  | some task => exact wake_ne_fault _ id none cause

theorem receive_ne_fault (d : Dispatcher) (id : TaskId) (cause : Fault) :
    (d.receive id).answer ≠ .error (.fault cause) := by
  unfold receive
  cases d.tasks[id]? with
  | none => simp
  | some task => simp

theorem candid_launch (d : Dispatcher) (entry data : UInt64) (requested : Option Nat) :
    Candid (d.launch entry data requested) := by
  intro level hempty
  have h := launched d entry data requested
  generalize d.launch entry data requested = outcome at h hempty
  cases h with
  | denied | full | discarded | done => simp at hempty
  | broken _ _ hstack =>
      simp only [answer_fail, Except.error.injEq, Stop.fault.injEq] at hempty
      exact absurd (hempty ▸ hstack) (Stack.prepare_ne_emptyQueue _ _ _ level)

theorem candid_withCurrent (d : Dispatcher) : Candid (d.withCurrent (.done d)) := by
  intro level h
  cases hx : d.executing? with
  | none =>
      rw [state_withCurrent_done]
      exact hx
  | some id =>
      rw [withCurrent_of_executing hx] at h
      exact absurd h (by simp)

theorem Suspended.candid {id : TaskId} {outcome : Result (Option Switch)}
    (h : d.Suspended id outcome) : Candid outcome := by
  intro level hanswer
  cases h with
  | gone | asleep | dropped | turned => simp at hanswer
  | stranded _ _ _ hnone => exact hnone

theorem Candid.map {α β : Type} {outcome : Result α} (h : Candid outcome) (f : α → β) :
    Candid (outcome.map f) := by
  intro level hanswer
  exact h level (Outcome.answer_map_eq_error_iff.mp hanswer)

theorem Inquired.candid {waiter target : TaskId} {outcome : Result Awaited}
    (h : d.Inquired waiter target outcome) : Candid outcome := by
  cases h with
  | told => exact fun level hanswer => nomatch hanswer
  | refused => exact fun level hanswer => nomatch hanswer
  | blocked _ _ _ hsuspended => exact hsuspended.candid.map _

theorem Served.candid {outcome : Result Receipt} (h : d.Served outcome) : Candid outcome := by
  cases h with
  | stranded hnone => exact fun _ _ => hnone
  | message => exact fun level hanswer => nomatch hanswer
  | gone => exact fun level hanswer => nomatch hanswer
  | slept _ _ _ hsuspended => exact hsuspended.candid.map _

theorem candid_exit (d : Dispatcher) (code : Int32) : Candid (d.exit code) := by
  intro level h
  cases hx : d.executing? with
  | none =>
      rw [exit_of_none hx]
      exact hx
  | some id =>
      rw [exit_of_executing hx] at h ⊢
      exact candid_withCurrent _ level h

end Dispatcher

/-! ## Operations of the scheduler -/

namespace Scheduler

open Dispatcher

variable {s : Scheduler} {level : Level}

theorem onTimers_ne_emptyQueue {act : Timers → Except Fault Timers}
    (hact : ∀ t, act t ≠ .error (.emptyQueue level)) :
    (s.onTimers act).answer ≠ .error (.fault (.emptyQueue level)) := by
  unfold onTimers
  cases hacted : act s.timers with
  | error cause =>
      simp only [Outcome.answer_stop, ne_eq, Except.error.injEq, Stop.fault.injEq]
      exact fun h => hact s.timers (h ▸ hacted)
  | ok timers => simp

theorem map_ne_error {α β : Type} {outcome : Result α} {cause : Stop} (f : α → β)
    (h : outcome.answer ≠ .error cause) : (outcome.map f).answer ≠ .error cause :=
  fun hmapped => h (Outcome.answer_map_eq_error_iff.mp hmapped)

theorem expire_ne_emptyQueue (s : Scheduler) (timer : Timer) (level : Level) :
    (s.expire timer).answer ≠ .error (.fault (.emptyQueue level)) := by
  unfold expire
  cases timer.purpose with
  | schedule =>
      exact map_ne_error _ (onTimers_ne_emptyQueue fun t =>
        Timers.armSchedule_ne_emptyQueue t timer.target timer.label level)
  | user value =>
      simp only
      cases hsent : (s.onTasks (·.send timer.target
          { payload := .timeout timer.timeout value timer.label })).answer with
      | ok _ => simp
      | error cause =>
          cases cause with
          | refused cause => simp
          | fault cause => exact absurd hsent (send_ne_fault _ _ _ cause)

/-- When several timers expire, only one of them can stop that. -/
theorem expireFirst_ne_error {cause : Stop}
    (hexpire : ∀ (s : Scheduler) (timer : Timer), (s.expire timer).answer ≠ .error cause)
    (s : Scheduler) (n : Nat) : (s.expireFirst n).answer ≠ .error cause := by
  induction n generalizing s with
  | zero => simp [expireFirst]
  | succ n ih =>
      unfold expireFirst
      cases s.timers.armed with
      | nil => simp
      | cons timer rest =>
          simp only
          have hfirst := hexpire { s with timers := { s.timers with armed := rest } } timer
          generalize ({ s with timers := { s.timers with armed := rest } } : Scheduler).expire
            timer = expired at hfirst ⊢
          cases hanswer : expired.answer with
          | error stop =>
              rw [Outcome.answer_bind_of_error hanswer, ← hanswer]
              exact hfirst
          | ok periodic =>
              rw [Outcome.answer_bind_of_ok hanswer]
              exact map_ne_error _ (ih _)

theorem tick_ne_emptyQueue (s : Scheduler) (level : Level) :
    s.tick.answer ≠ .error (.fault (.emptyQueue level)) := by
  unfold tick
  cases hnow : Word.add s.timers.now 1 with
  | error cause =>
      simp only [Outcome.answer_stop, ne_eq, Except.error.injEq, Stop.fault.injEq]
      exact fun h => Word.add_ne_emptyQueue _ _ level (h ▸ hnow)
  | ok now => exact expireFirst_ne_error (expire_ne_emptyQueue · · level) _ _

/-- An operation that stops for want of a task leaves a state in which nobody executes. -/
theorem executing_of_emptyQueue {operation : Operation}
    (h : (s.perform operation).answer = .error (.fault (.emptyQueue level))) :
    (s.perform operation).state.tasks.executing? = none := by
  -- Answers of the dispatcher are passed on as they are.
  have hpassed : ∀ {α : Type} {act : Dispatcher → Dispatcher.Result α} (f : α → Answer),
      Candid (act s.tasks) →
      ((s.onTasks act).map f).answer = .error (.fault (.emptyQueue level)) →
      ((s.onTasks act).map f).state.tasks.executing? = none := by
    intro α act f hcandid hanswer
    refine hcandid level ?_
    by_contra hother
    exact map_ne_error f hother hanswer
  unfold perform at h ⊢
  cases operation with
  | create => exact hpassed _ (candid_create _) h
  | prepare id start => exact hpassed _ (candid_prepareWith _ _ _ _) h
  | prepareWith id start stackBytes => exact hpassed _ (candid_prepareWith _ _ _ _) h
  | editContext id edits =>
      cases htask : s.tasks.find? id with
      | none => simp [htask] at h
      | some task => simp [htask] at h
  | launch entry data level => exact hpassed _ (candid_launch _ _ _ _) h
  | wake id level => exact hpassed _ (candid_of_ne fun _ => wake_ne_fault _ _ _ _) h
  | suspend id => exact hpassed _ (suspended _ id).candid h
  | preempt | restock => exact absurd h (by simp)
  | send id message => exact hpassed _ (candid_of_ne fun _ => send_ne_fault _ _ _ _) h
  | receive id => exact hpassed _ (candid_of_ne fun _ => receive_ne_fault _ _ _) h
  | receiveOrSuspend => exact hpassed _ (served _).candid h
  | exit code => exact hpassed _ (candid_exit _ code) h
  | awaitExit waiter target => exact hpassed _ (inquired _ waiter target).candid h
  | startSchedule =>
      exact absurd h (map_ne_error _ (onTimers_ne_emptyQueue fun t =>
        Timers.armSchedule_ne_emptyQueue t _ _ level))
  | armAt timeout value target label =>
      exact absurd h (map_ne_error _ (onTimers_ne_emptyQueue fun t =>
        Timers.arm_ne_emptyQueue t _ _ _ _ level))
  | armAfter delay value target label =>
      exact absurd h (map_ne_error _ (onTimers_ne_emptyQueue fun t =>
        Timers.arm_ne_emptyQueue t _ _ _ _ level))
  | tick => exact absurd h (map_ne_error _ (tick_ne_emptyQueue s level))

end Scheduler

end TaskKernel
