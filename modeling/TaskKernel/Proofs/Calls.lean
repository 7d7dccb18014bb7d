import TaskKernel.Proofs.ActiveLevel
import TaskKernel.Proofs.Composition
import TaskKernel.Proofs.Conduct
import TaskKernel.Proofs.InStep
import TaskKernel.Proofs.Mail
import TaskKernel.Proofs.Steps

/-!
# The calls of a machine with an idle task

A kernel is `Steady` if the processor runs the task that executes, a live task reads the keyboard,
and another task never falls asleep. Then there is always somebody to go on with, so that the calls
of such a machine do not fail for want of a task, and leave the kernel steady:

* `Operation.Regular` — the operations of such a machine: neither of the two tasks ends, and the
  latter does not fall asleep;
* `Performs` — a method performs one operation of the scheduler and leaves the kernel steady;
* `steady_exitAttempt`, `steady_messageAttempt`, `steady_exit`, `steady_preempt`, `steady_tick`,
  `steady_armAfter`, `steady_deliver` — so does each of the calls, and what it answers.
-/

namespace TaskKernel

namespace Dispatcher

/-- What a task learns when it asks how another one ended. -/
def Awaited.code? : Awaited → Option Int32
  | .exited code => some code
  | .blocked _ => none

end Dispatcher

namespace Kernel

open Dispatcher

variable {α β : Type} {k : Kernel} {cpu : TaskId}

/-! ## Answers -/

/-- Whatever comes of a switch, it is no failure. -/
theorem answer_carryOut (h : k.Idle) (switch : Switch) : (carryOut switch k).answer = .ok () := by
  unfold carryOut
  split
  · rw [Act.bind_apply, onTasks_apply h.tasks_free]
    simp only [Outcome.answer_done, Except.mapError, Outcome.bind]
    cases (k.tasks.value.context? switch.next).isSome &&
      (k.tasks.value.context? switch.current).isSome with
    | false => rfl
    | true => rfl
  · rfl

/-- The answer of a method that asks the dispatcher and then does what does not fail. -/
theorem answer_masked_bind (h : k.Idle) {operation : Dispatcher → Dispatcher.Result α}
    {body : α → Method β} {f : α → β}
    (hbody : ∀ value (k' : Kernel), k'.Idle → (body value k').answer = .ok (f value)) :
    (masked (onTasks operation >>= body) k).answer =
      ((operation k.tasks.value).answer.map f).mapError .stop := by
  rw [masked_apply, Outcome.answer_mapState, Act.bind_apply]
  rw [onTasks_apply h.mask.tasks_free]
  cases hanswer : (operation k.tasks.value).answer with
  | error cause => simp only [Outcome.bind, Except.map, Except.mapError]
  | ok value =>
      simp only [Outcome.bind, Except.map, Except.mapError]
      exact hbody value _ ⟨rfl, h.timers_free⟩

theorem answer_exitAttempt (h : k.Idle) (target : TaskId) :
    (exitAttempt target k).answer =
      ((k.tasks.value.withCurrent (k.tasks.value.awaitExit · target)).answer.map
        Awaited.code?).mapError .stop := by
  refine answer_masked_bind h fun awaited k' h' => ?_
  match awaited with
  | .exited code => rfl
  | .blocked none => rfl
  | .blocked (some switch) =>
      exact Outcome.answer_bind_of_ok (answer_carryOut h' switch) _

theorem answer_messageAttempt (h : k.Idle) :
    (messageAttempt k).answer =
      (k.tasks.value.receiveOrSuspend.answer.map Receipt.message?).mapError .stop := by
  refine answer_masked_bind h fun receipt k' h' => ?_
  match receipt with
  | .message message => rfl
  | .asleep none => rfl
  | .asleep (some switch) =>
      exact Outcome.answer_bind_of_ok (answer_carryOut h' switch) _

theorem answer_tick (h : k.Idle) :
    (tick k).answer = k.scheduler.tick.answer.mapError .stop := by
  obtain ⟨d, t, focus, interrupts, rfl⟩ := h.exists_eq
  rfl

theorem answer_armAfter (h : k.Idle) (delay : Nat) (value : Int32) (target : TaskId)
    (label : String) :
    (armAfter delay value target label k).answer =
      (k.scheduler.onTimers (·.armAfter delay value target label)).answer.mapError .stop := by
  obtain ⟨d, t, focus, interrupts, rfl⟩ := h.exists_eq
  show (onTimers _ _).answer = _
  unfold onTimers usingTimers Scheduler.onTimers
  simp only [Cell.borrow, Cell.new, Bool.false_eq_true, if_false, scheduler]
  cases t.armAfter delay value target label with
  | error cause => rfl
  | ok timers => rfl

theorem answer_maskedUntilResumed (body : Method α) (k : Kernel) :
    (maskedUntilResumed body k).answer = (body { k with interrupts := false }).answer := by
  unfold maskedUntilResumed
  simp only [Mask.acquire]
  split <;> rfl

/-- The task that the dispatcher selects when the executing one ends is resumed. -/
theorem answer_exit (h : k.Idle) {code : Int32} {next : TaskId}
    (hanswer : (k.tasks.value.exit code).answer = .ok next)
    (hresumable : (k.tasks.value.exit code).state.resumable? next = some next) :
    (exit code k).answer = .error (.resumed next) := by
  rw [exit, answer_maskedUntilResumed, Act.bind_apply, onTasks_apply h.mask.tasks_free]
  simp only [Outcome.bind, hanswer, Except.mapError, Outcome.done, hresumable]
  rfl

theorem answer_preempt (h : k.Idle) (saved : Context) :
    (preempt saved k).answer = .ok () ∨
      ∃ next, (preempt saved k).answer = .error (.resumed next) := by
  rw [preempt, answer_maskedUntilResumed, Act.bind_apply, onTasks_apply h.mask.tasks_free]
  simp only [Outcome.answer_done, Except.mapError, Outcome.bind]
  cases (k.tasks.value.preempt saved).1.bind (k.tasks.value.preempt saved).2.resumable? with
  | none => exact .inl rfl
  | some next => exact .inr ⟨next, rfl⟩

/-! ## The reader of the keyboard -/

/-- A method does not concern the keyboard. -/
def KeepsFocus (method : Method α) : Prop := ∀ k, (method k).state.focus = k.focus

theorem KeepsFocus.bind {first : Method α} {next : α → Method β} (hfirst : KeepsFocus first)
    (hnext : ∀ value, KeepsFocus (next value)) : KeepsFocus (first >>= next) := by
  intro k
  cases hanswer : (first k).answer with
  | error cause =>
      exact (congrArg focus (Outcome.state_bind_of_error hanswer next)).trans (hfirst k)
  | ok value =>
      exact (congrArg focus (Outcome.state_bind_of_ok hanswer next)).trans
        ((hnext value _).trans (hfirst k))

theorem KeepsFocus.masked {body : Method α} (h : KeepsFocus body) :
    KeepsFocus (Kernel.masked body) := fun k => h { k with interrupts := false }

theorem KeepsFocus.maskedUntilResumed {body : Method α} (h : KeepsFocus body) :
    KeepsFocus (Kernel.maskedUntilResumed body) := by
  intro k
  unfold Kernel.maskedUntilResumed
  simp only [Mask.acquire]
  split
  · exact h { k with interrupts := false }
  · exact h { k with interrupts := false }

theorem KeepsFocus.use {body : Method α} (h : KeepsFocus body) (part : Part) :
    KeepsFocus (Kernel.use part body) := by
  intro k
  rw [use_apply]
  split
  · rfl
  · cases part with
    | tasks | timers => exact h _

theorem keepsFocus_pure (value : α) : KeepsFocus (pure value : Method α) := fun _ => rfl

theorem keepsFocus_onTasks (operation : Dispatcher → Dispatcher.Result α) :
    KeepsFocus (onTasks operation) :=
  KeepsFocus.use (fun _ => rfl) .tasks

theorem keepsFocus_onTimers (operation : Timers → Except Fault Timers) :
    KeepsFocus (onTimers operation) := by
  refine KeepsFocus.use (fun k => ?_) .timers
  simp only
  split <;> rfl

theorem compositional_keepsFocus : Compositional KeepsFocus KeepsFocus where
  inner_pure := keepsFocus_pure
  inner_bind := KeepsFocus.bind
  onTasks := keepsFocus_onTasks
  attempt := fun h => h
  switched := fun _ _ => rfl
  masked := KeepsFocus.masked
  outer_pure := keepsFocus_pure
  outer_bind := KeepsFocus.bind
  spinning := fun _ => rfl

theorem keepsFocus_exit (code : Int32) : KeepsFocus (exit code) := by
  refine .maskedUntilResumed ((keepsFocus_onTasks _).bind fun next => ?_)
  cases next with
  | none => exact fun _ => rfl
  | some next => exact fun _ => rfl

theorem keepsFocus_preempt (saved : Context) : KeepsFocus (preempt saved) := by
  refine .maskedUntilResumed ((keepsFocus_onTasks _).bind fun next => ?_)
  cases next with
  | none => exact fun _ => rfl
  | some next => exact fun _ => rfl

theorem keepsFocus_tick : KeepsFocus tick :=
  .masked (KeepsFocus.use (KeepsFocus.use (fun _ => rfl) .tasks) .timers)

theorem keepsFocus_armAfter (delay : Nat) (value : Int32) (target : TaskId) (label : String) :
    KeepsFocus (armAfter delay value target label) := (keepsFocus_onTimers _).masked

theorem keepsFocus_send (id : TaskId) (message : Message) : KeepsFocus (send id message) :=
  (keepsFocus_onTasks _).masked

end Kernel

/-! ## The task that idles -/

namespace Dispatcher

variable {d d' : Dispatcher} {x : TaskId}

/-- The task is live and runnable. -/
def Runs (d : Dispatcher) (x : TaskId) : Prop :=
  ∃ task, d.tasks[x]? = some task ∧ task.running = true

theorem Runs.of_map (h : d.Runs x) {f : Task → Task} (hrecord : d'.tasks[x]? = d.tasks[x]?.map f)
    (hf : ∀ task : Task, task.running = true → (f task).running = true) : d'.Runs x := by
  obtain ⟨task, hlive, hrunning⟩ := h
  rw [hlive] at hrecord
  exact ⟨f task, hrecord, hf task hrunning⟩

theorem Runs.of_ite (h : d.Runs x) {p : Prop} [Decidable p] {f : Task → Task}
    (hrecord : d'.tasks[x]? = if p then d.tasks[x]?.map f else d.tasks[x]?)
    (hf : p → ∀ task : Task, task.running = true → (f task).running = true) : d'.Runs x := by
  by_cases hp : p
  · rw [if_pos hp] at hrecord
    exact h.of_map hrecord (hf hp)
  · rw [if_neg hp] at hrecord
    obtain ⟨task, hlive, hrunning⟩ := h
    exact ⟨task, hrecord.trans hlive, hrunning⟩

/-- Who is runnable while another task executes waits for its turn. -/
theorem Runs.othersWait (h : d.Runs x) (haccounted : d.Accounted) (hx : d.executing? ≠ some x) :
    d.OthersWait := by
  obtain ⟨task, hlive, hrunning⟩ := h
  have hqueued : x ∈ d.queues.get task.level :=
    haccounted.mem_iff.mpr (place?_of_running hlive hrunning)
  exact ⟨x, RunQueues.mem_toList.mpr ⟨task.level, hqueued⟩, hx⟩

end Dispatcher

namespace Scheduler

open Dispatcher

variable {s : Scheduler} {operation : Operation} {cpu reader idler : TaskId}

/-- The operations of a machine of which one task reads the keyboard and another one idles: neither
of the two ends, and the latter does not fall asleep. -/
def Operation.Regular (reader idler cpu : TaskId) : Operation → Prop
  | .awaitExit waiter _ => waiter = cpu ∧ cpu ≠ idler
  | .receiveOrSuspend => cpu ≠ idler
  | .exit _ => cpu ≠ idler ∧ cpu ≠ reader
  | .preempt _ | .send _ _ | .armAfter _ _ _ _ | .tick => True
  | _ => False

theorem runs_perform (hx : s.tasks.executing? = some cpu) (h : s.tasks.Runs idler)
    (hregular : operation.Regular reader idler cpu) :
    (s.perform operation).state.tasks.Runs idler := by
  cases operation with
  | awaitExit waiter target =>
      obtain ⟨rfl, hother⟩ := hregular
      exact h.of_ite (getElem?_awaitExit s.tasks waiter target idler) fun hblocks =>
        absurd hblocks.2 hother
  | receiveOrSuspend =>
      exact h.of_ite (getElem?_receiveOrSuspend s.tasks idler) fun hself =>
        absurd (Option.some.inj (hx.symm.trans hself)) hregular
  | exit code =>
      have hrecord := getElem?_exit hx code idler
      rw [if_neg hregular.1] at hrecord
      exact h.of_ite hrecord fun _ _ _ => rfl
  | preempt saved =>
      exact h.of_ite (getElem?_preempt s.tasks saved idler) fun _ _ hrunning => hrunning
  | send id message =>
      exact h.of_ite (getElem?_send s.tasks id message idler) fun _ task hrunning => by
        simp [Task.hear, hrunning]
  | armAfter delay value target label =>
      simp only [perform, Outcome.state_map, tasks_onTimers]
      exact h
  | tick =>
      exact h.of_map (getElem?_tick s idler) fun task hrunning => by simp [Task.hear, hrunning]
  | create | prepare | prepareWith | editContext | launch | wake | suspend | receive
  | startSchedule | armAt | restock => exact hregular.elim

end Scheduler

/-! ## Steady kernels -/

namespace Dispatcher

/-- Who wants a message gets one or falls asleep; no such request is refused. -/
theorem receiveOrSuspend_ne_refused (d : Dispatcher) (cause : Refusal) :
    d.receiveOrSuspend.answer ≠ .error (.refused cause) := by
  unfold receiveOrSuspend withCurrent
  split
  · simp only
    split
    · simp
    · split <;> simp
  · simp

end Dispatcher

namespace Kernel

open Dispatcher Scheduler

variable {α : Type} {k : Kernel} {reader idler cpu : TaskId} {operation : Operation}

/-- The reader of the keyboard lives, another task always waits for its turn or executes, and the
processor runs the task that executes. -/
structure Steady (k : Kernel) (reader idler cpu : TaskId) : Prop extends Attuned k cpu where
  settled : k.tasks.value.Settled
  reads : reader ∈ k.tasks.value.tasks
  idles : k.tasks.value.Runs idler
  focus_eq : k.focus = some reader

theorem Steady.idle (h : k.Steady reader idler cpu) : k.Idle := h.toAttuned.idle

theorem Steady.mask (h : k.Steady reader idler cpu) (interrupts : Bool) :
    ({ k with interrupts } : Kernel).Steady reader idler cpu :=
  ⟨h.toAttuned.mask interrupts, h.settled, h.reads, h.idles, h.focus_eq⟩

theorem Steady.settled_perform (h : k.Steady reader idler cpu)
    (hregular : operation.Regular reader idler cpu) :
    (k.scheduler.perform operation).state.tasks.Settled := by
  refine Scheduler.settled_perform h.settled fun hwithdraws => ?_
  -- Whoever leaves the queues is not the task that idles.
  have hother : cpu ≠ idler := by
    cases operation with
    | awaitExit => exact hregular.2
    | receiveOrSuspend => exact hregular
    | exit => exact hregular.1
    | suspend => exact hregular.elim
    | create | prepare | prepareWith | editContext | launch | wake | receive | preempt
    | startSchedule | armAt | send | armAfter | tick | restock => exact hwithdraws.elim
  refine h.idles.othersWait h.accounted fun hx => hother ?_
  exact Option.some.inj (h.executing.symm.trans hx)

/-- A method performs one operation of the scheduler, and the kernel is steady afterwards. -/
structure Performs (k : Kernel) (reader idler cpu : TaskId) (operation : Operation)
    (outcome : Outcome Exit Event Kernel α) : Prop where
  scheduler_eq : outcome.state.scheduler = (k.scheduler.perform operation).state
  steady : outcome.state.Steady reader idler (processor cpu outcome.events)

theorem Steady.performs (h : k.Steady reader idler cpu)
    (hregular : operation.Regular reader idler cpu) {outcome : Outcome Exit Event Kernel α}
    (hscheduler : outcome.state.scheduler = (k.scheduler.perform operation).state)
    (hattuned : outcome.state.Attuned (processor cpu outcome.events))
    (hfocus : outcome.state.focus = k.focus) : k.Performs reader idler cpu operation outcome := by
  have htasks : outcome.state.tasks.value = (k.scheduler.perform operation).state.tasks :=
    congrArg Scheduler.tasks hscheduler
  refine ⟨hscheduler, hattuned, ?_, ?_, ?_, hfocus.trans h.focus_eq⟩
  · rw [htasks]
    exact h.settled_perform hregular
  · rw [htasks]
    refine mem_perform h.accounted h.reads ?_
    rintro code rfl hx
    exact hregular.2 (Option.some.inj (h.executing.symm.trans hx))
  · rw [htasks]
    exact runs_perform h.executing h.idles hregular

theorem Steady.ne_emptyQueue (h : k.Steady reader idler cpu)
    (hregular : operation.Regular reader idler cpu) (level : Level) :
    (k.scheduler.perform operation).answer ≠ .error (.fault (.emptyQueue level)) :=
  ne_emptyQueue_of_settled (h.settled_perform hregular) level

/-! ### Attempts -/

theorem answer_attempt_of_ok {method : Method α} {value : α}
    (h : (method k).answer = .ok value) : (attempt method k).answer = .ok (.ok value) := by
  simp only [attempt, h]

theorem answer_attempt_of_refused {method : Method α} {cause : Refusal}
    (h : (method k).answer = .error (.stop (.refused cause))) :
    (attempt method k).answer = .ok (.error cause) := by
  simp only [attempt, h]

theorem not_exhausted_of_ok {outcome : Outcome Exit Event Kernel α} {value : α}
    (h : outcome.answer = .ok value) : ¬ Exhausted outcome := by
  rintro ⟨level, hempty⟩
  exact absurd (h.symm.trans hempty) (by simp)

/-- The task that asks how another one ended is told, is refused, or has fallen asleep. -/
theorem steady_exitAttempt (h : k.Steady reader idler cpu) (hother : cpu ≠ idler)
    (target : TaskId) :
    k.Performs reader idler cpu (.awaitExit cpu target) (exitAttempt target k) ∧
      ∃ result, (attempt (exitAttempt target) k).answer = .ok result ∧
        (result ≠ .ok none → (exitAttempt target k).state.tasks.value.executing? = some cpu) := by
  have hregular : (Operation.awaitExit cpu target).Regular reader idler cpu := ⟨rfl, hother⟩
  have hself : k.tasks.value.withCurrent (k.tasks.value.awaitExit · target) =
      k.tasks.value.awaitExit cpu target := withCurrent_of_executing h.executing _
  have hanswer := answer_exitAttempt h.idle target
  have hleaves := leaves_exitAttempt h.idle target
  rw [hself] at hanswer hleaves
  have htasks : (exitAttempt target k).state.tasks.value =
      (k.tasks.value.awaitExit cpu target).state := congrArg Scheduler.tasks hleaves.scheduler_eq
  have hperforms : ¬ Exhausted (exitAttempt target k) →
      k.Performs reader idler cpu (.awaitExit cpu target) (exitAttempt target k) := fun hlasts =>
    h.performs hregular hleaves.scheduler_eq
      ((attempting_exitAttempt h.toAttuned target).attuned.resolve_left hlasts)
      (compositional_keepsFocus.exitAttempt target k)
  rw [htasks]
  cases awaitExit_decides h.accounted h.executing target with
  | stays hdecided _ hx =>
      rw [hdecided] at hanswer
      exact ⟨hperforms (not_exhausted_of_ok hanswer), _, answer_attempt_of_ok hanswer, fun _ => hx⟩
  | moves hdecided =>
      rw [hdecided] at hanswer
      exact ⟨hperforms (not_exhausted_of_ok hanswer), _, answer_attempt_of_ok hanswer,
        fun hsome => absurd rfl hsome⟩
  | refused hdecided hx =>
      rw [hdecided] at hanswer
      refine ⟨hperforms ?_, _, answer_attempt_of_refused hanswer, fun _ => hx⟩
      rintro ⟨level, hempty⟩
      exact absurd (hanswer.symm.trans hempty) (by simp [Except.map, Except.mapError])
  | exhausted hempty =>
      exact absurd (Outcome.answer_map_eq_error_iff.mpr hempty) (h.ne_emptyQueue hregular _)

/-- The task that wants a message gets the oldest one, or has fallen asleep if there is none. -/
theorem steady_messageAttempt (h : k.Steady reader idler cpu) (hother : cpu ≠ idler) :
    k.Performs reader idler cpu .receiveOrSuspend (messageAttempt k) ∧
      (messageAttempt k).answer = .ok (k.tasks.value.mail cpu).head? := by
  have hregular : Operation.receiveOrSuspend.Regular reader idler cpu := hother
  have hanswer := answer_messageAttempt h.idle
  have hmessage := message?_receiveOrSuspend h.executing
  obtain ⟨receipt, hreceipt⟩ : ∃ receipt, k.tasks.value.receiveOrSuspend.answer = .ok receipt := by
    cases receiveOrSuspend_decides h.accounted h.executing with
    | stays hdecided | moves hdecided => exact ⟨_, hdecided⟩
    | refused hrefused => exact absurd hrefused (receiveOrSuspend_ne_refused _ _)
    | exhausted hempty =>
        exact absurd (Outcome.answer_map_eq_error_iff.mpr hempty) (h.ne_emptyQueue hregular _)
  rw [hreceipt] at hanswer hmessage
  have hok : (messageAttempt k).answer = .ok (k.tasks.value.mail cpu).head? :=
    hanswer.trans (congrArg Except.ok hmessage)
  exact ⟨h.performs hregular (leaves_messageAttempt h.idle).scheduler_eq
    ((attempting_messageAttempt h.toAttuned).attuned.resolve_left (not_exhausted_of_ok hok))
    (compositional_keepsFocus.messageAttempt k), hok⟩

/-! ### The end of a task and of a turn -/

theorem steady_exit (h : k.Steady reader idler cpu) (hother : cpu ≠ idler) (hlasts : cpu ≠ reader)
    (code : Int32) :
    k.Performs reader idler cpu (.exit code) (exit code k) ∧
      ∃ next, (exit code k).answer = .error (.resumed next) := by
  have hregular : (Operation.exit code).Regular reader idler cpu := ⟨hother, hlasts⟩
  obtain ⟨next, hnext, _, hresumable⟩ :=
    (exit_decides h.accounted h.executing code).2.resolve_left fun ⟨level, hempty⟩ =>
      h.ne_emptyQueue hregular level (Outcome.answer_map_eq_error_iff.mpr hempty)
  have hanswer := answer_exit h.idle hnext hresumable
  refine ⟨h.performs hregular (leaves_exit h.idle code).scheduler_eq ?_
    (keepsFocus_exit code k), next, hanswer⟩
  refine (agrees_exit h.toAttuned code).1.attuned.resolve_left ?_
  rintro ⟨level, hempty⟩
  exact absurd (hanswer.symm.trans hempty) (by simp)

theorem steady_preempt (h : k.Steady reader idler cpu) (saved : Context) :
    k.Performs reader idler cpu (.preempt saved) (preempt saved k) := by
  have hregular : (Operation.preempt saved).Regular reader idler cpu := trivial
  refine h.performs hregular (leaves_preempt h.idle saved).scheduler_eq ?_
    (keepsFocus_preempt saved k)
  refine (agrees_preempt h.toAttuned saved).attuned.resolve_left ?_
  rintro ⟨level, hempty⟩
  rcases answer_preempt h.idle saved with hanswer | ⟨next, hanswer⟩
  · exact absurd (hanswer.symm.trans hempty) (by simp)
  · exact absurd (hanswer.symm.trans hempty) (by simp)

/-! ### Bookkeeping -/

theorem Keeps.attuned {outcome : Outcome Exit Event Kernel α} (h : Keeps k outcome)
    (hattuned : k.Attuned cpu) : outcome.state.Attuned (processor cpu outcome.events) := by
  rw [processor_of_silent h.silent]
  exact ⟨h.tasks_use.trans hattuned.tasks_free, h.timers_use.trans hattuned.timers_free,
    hattuned.accounted.books h.books, h.books.executing hattuned.executing⟩

theorem steady_tick (h : k.Steady reader idler cpu) :
    k.Performs reader idler cpu .tick (tick k) := by
  have hregular : Operation.tick.Regular reader idler cpu := trivial
  have hleaves : Leaves k.scheduler.tick.state (tick k).state := by
    obtain ⟨d, t, focus, interrupts, rfl⟩ := h.idle.exists_eq
    exact ⟨⟨rfl, rfl⟩, rfl⟩
  exact h.performs hregular hleaves.scheduler_eq
    ((keeps_tick h.tasks_free h.timers_free).attuned h.toAttuned) (keepsFocus_tick k)

theorem steady_armAfter (h : k.Steady reader idler cpu) (delay : Nat) (value : Int32)
    (target : TaskId) (label : String) :
    k.Performs reader idler cpu (.armAfter delay value target label)
      (armAfter delay value target label k) := by
  have hregular : (Operation.armAfter delay value target label).Regular reader idler cpu := trivial
  have hleaves := leaves_onTimers h.idle (·.armAfter delay value target label)
  exact h.performs hregular hleaves.scheduler_eq
    ((keeps_onTimers h.timers_free _).attuned h.toAttuned) (keepsFocus_armAfter _ _ _ _ k)

/-- What the keyboard reports is sent to the task that reads it. -/
theorem deliver_of_focus (hfocus : k.focus = some reader) {report : KeyPush}
    (hsent : (send reader { payload := .keyPush report } k).answer = .ok ()) :
    deliver (some report) k =
      (send reader { payload := .keyPush report } k).map fun () => .sent := by
  have hattempt := answer_attempt_of_ok hsent
  simp only [deliver, Act.bind_apply, focused, hfocus, Outcome.done, Outcome.bind, Outcome.map]
  rw [hattempt]
  simp only [attempt, hsent]
  exact congrArg (Outcome.mk _ _) (List.append_nil _)

theorem steady_deliver (h : k.Steady reader idler cpu) (report : KeyPush) :
    k.Performs reader idler cpu (.send reader { payload := .keyPush report })
        (deliver (some report) k) ∧
      (deliver (some report) k).answer = .ok .sent := by
  have hregular :
      (Operation.send reader { payload := .keyPush report }).Regular reader idler cpu := trivial
  have hsent : (send reader { payload := .keyPush report } k).answer = .ok () := by
    rw [send, masked_apply, Outcome.answer_mapState, onTasks_apply h.idle.mask.tasks_free]
    simp only [answer_send, if_pos h.reads, Except.mapError]
  rw [deliver_of_focus h.focus_eq hsent, Outcome.answer_map, hsent]
  refine ⟨h.performs hregular (leaves_masked h.idle _).scheduler_eq ?_ (keepsFocus_send _ _ k), rfl⟩
  exact (keeps_onTasks h.tasks_free (books_send _ _ _)).attuned h.toAttuned

end Kernel

end TaskKernel
