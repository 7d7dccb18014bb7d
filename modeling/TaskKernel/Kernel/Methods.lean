import TaskKernel.Kernel.Basic

/-!
# What the kernel offers

The methods that tasks and interrupt handlers call. Each of them touches the kernel's state with
interrupts off. Those that block make one attempt after another; an attempt that does not succeed
puts the executing task to sleep in the same step.
-/

namespace TaskKernel.Kernel

/-! ## Tasks -/

/-- Create a sleeping task. -/
def create : Method TaskId := masked (onTasks (·.create))

/-- Give a sleeping task a stack and a context that starts there. -/
def prepare (id : TaskId) (start : Task.Start) : Method Unit :=
  masked (onTasks (·.prepare id start))

/-- Create a task with a stack and a context, and make it runnable. -/
def launch (entry data : UInt64) (level : Option Nat) : Method TaskId :=
  masked (onTasks (·.launch entry data level))

/-- Make a task runnable, or change the level of one that is. -/
def wake (id : TaskId) (level : Option Nat) : Method Unit := masked (onTasks (·.wake id level))

/-- The executing task. -/
def current : Method TaskId := masked (onTasks fun d => d.withCurrent (.done d))

/-- Put a task to sleep, and give way if it is the executing task. -/
def suspend (id : TaskId) : Method Unit :=
  masked do
    if let some switch ← onTasks (·.suspend id) then carryOut switch

/-- Put the executing task to sleep and give way. -/
def suspendCurrent : Method Unit :=
  masked do
    let slept ← attempt (onTasks fun d => d.withCurrent d.suspend)
    if let .ok (some switch) := slept then carryOut switch

/-- End the executing task. The processor goes on with another one for good. -/
def exit (code : Int32) : Method Empty :=
  maskedUntilResumed do
    let next ← onTasks fun d => (d.exit code).bind fun next d => .done d (d.resumable? next)
    match next with
    | some next => resume next
    | none => Act.throw (.stop (.fault .noContextAfterExit))

/-- One attempt of the executing task to learn how another one ended. -/
def exitAttempt (target : TaskId) : Method (Option Int32) :=
  masked do
    match ← onTasks fun d => d.withCurrent (d.awaitExit · target) with
    | .exited code => return some code
    | .blocked (some switch) => carryOut switch; return none
    | .blocked none => return none

/-- Attempts to learn how a task ended, so many at most. -/
def exitAttempts (target : TaskId) : (attempts : Nat) → Method Int32
  | 0 => Act.throw .spinning
  | attempts + 1 => do
    match ← exitAttempt target with
    | some code => return code
    | none => exitAttempts target attempts

/-- One attempt for each runnable task, and one more that finds none. -/
def attemptsFor (k : Kernel) : Nat := k.tasks.value.queues.toList.length + 1

/-- Wait until a task ends, and learn its exit code. -/
def awaitExit (target : TaskId) : Method Int32 := fun k =>
  exitAttempts target k.attemptsFor k

/-! ## Messages -/

/-- Put a message into the mailbox of a task and make the task runnable. -/
def send (id : TaskId) (message : Message) : Method Unit :=
  masked (onTasks (·.send id message))

/-- Take the oldest message out of the mailbox of a task. -/
def receive (id : TaskId) : Method (Option Message) := masked (onTasks (·.receive id))

/-- One attempt of the executing task to get a message. -/
def messageAttempt : Method (Option Message) :=
  masked do
    match ← onTasks (·.receiveOrSuspend) with
    | .message message => return some message
    | .asleep (some switch) => carryOut switch; return none
    | .asleep none => return none

/-- Attempts to get a message, so many at most. -/
def messageAttempts : (attempts : Nat) → Method Message
  | 0 => Act.throw .spinning
  | attempts + 1 => do
    match ← messageAttempt with
    | some message => return message
    | none => messageAttempts attempts

/-- Wait until there is a message for the executing task, and take it. -/
def awaitMessage : Method Message := fun k => messageAttempts k.attemptsFor k

/-! ## Time -/

/-- Arm a timer that tells a task a value at a tick. -/
def armAt (timeout : Nat) (value : Int32) (target : TaskId) (label : String) : Method Unit :=
  masked (onTimers (·.armAt timeout value target label))

/-- Arm a timer that tells a task a value after so many ticks. -/
def armAfter (delay : Nat) (value : Int32) (target : TaskId) (label : String) : Method Unit :=
  masked (onTimers (·.armAfter delay value target label))

/-- The ticks so far. -/
def now : Method Nat := masked (usingTimers fun k => .done k k.timers.value.now)

/-- One tick passes. The answer is whether the scheduler has to decide who runs. -/
def tick : Method Bool := masked (usingTimers (usingTasks (onBoth (·.tick))))

/-- The executing task's turn is over. Its context is given; the processor goes on with another task
for good if one was selected. -/
def preempt (saved : Context) : Method Unit :=
  maskedUntilResumed do
    let next ← onTasks fun d =>
      let (next, d) := d.preempt saved
      .done d (next.bind d.resumable?)
    if let some next := next then resume next

/-! ## The keyboard -/

/-- Choose the task that reads the keyboard. -/
def giveFocus (id : Option TaskId) : Method Unit :=
  Act.modify fun k => { k with focus := id.filter (· ≠ TaskId.kernel) }

/-- The task that reads the keyboard. -/
def focused : Method (Option TaskId) := fun k => .done k k.focus

/-- What becomes of the keyboard's report. -/
inductive Delivery where
  /-- There was nothing to report. -/
  | nothing
  /-- No task reads the keyboard. -/
  | noFocus
  | sent
  /-- The task that reads the keyboard cannot be told. -/
  | dropped (focus : TaskId) (cause : Refusal)
  deriving DecidableEq, Repr

/-- Send what the keyboard reports to the task that reads it. -/
def deliver : Option KeyPush → Method Delivery
  | none => return .nothing
  | some report => do
    match ← focused with
    | none => return .noFocus
    | some focus =>
      match ← attempt (send focus { payload := .keyPush report }) with
      | .ok () => return .sent
      | .error cause => return .dropped focus cause

/-! ## Memory -/

/-- The memory for stacks changes, at whatever time: it is not a part of the kernel. -/
def restock (arena : Arena) : Method Unit :=
  Act.modify fun k => { k with tasks := { k.tasks with value := { k.tasks.value with arena } } }

/-! ## The parts themselves -/

/-- Do something to tasks and timers together. -/
def withBoth {α : Type} (operation : Scheduler → Scheduler.Result α) : Method α :=
  masked (usingTasks (masked (usingTimers (onBoth operation))))

end TaskKernel.Kernel
