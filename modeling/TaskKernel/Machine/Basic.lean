import TaskKernel.Kernel.Methods
import TaskKernel.Machine.Devices

/-!
# The running machine

The demonstration kernel runs four tasks: the one that booted it, which first waits for the worker
and then echoes what is typed; an idle task; one that blinks; and the worker, which computes a sum.
What a task does next is its *flow*. The processor takes one step of one flow at a time, and
interrupts arrive between steps.

A task that gives way within a step goes on with the flow that the step left for it.
-/

namespace TaskKernel.Machine

/-- What a task does next. -/
inductive Flow where
  /-- Ask how the worker ended. -/
  | awaiting (worker : TaskId)
  /-- Tell how the worker ended. -/
  | announcing (worker : TaskId) (outcome : Except Refusal Int32)
  /-- Take a message from the keyboard. -/
  | listening
  /-- Show a character that was typed. -/
  | echoing (character : UInt8)
  /-- Wait for an interrupt. -/
  | idling
  /-- Begin to blink, with so many milliseconds between two dots. -/
  | blinking (milliseconds : Nat)
  /-- Arm the timer for the next dot. -/
  | arming (period : Nat) (value : Int32)
  /-- Take a message from the timer. -/
  | watching (period : Nat)
  /-- Show a dot. -/
  | dotting (period : Nat) (value : Int32)
  /-- Add up the numbers to `last`. -/
  | summing (last : Nat)
  /-- End with a code. -/
  | ending (code : Int32)

end Machine

/-- The machine that runs the kernel. -/
structure Machine where
  kernel : Kernel
  keyboard : Keyboard.Decoder
  controller : Machine.Controller
  /-- The byte that the keyboard holds ready. -/
  keyboardData : UInt8
  /-- The task whose flow the processor follows. -/
  executing : TaskId
  /-- What each task does next. -/
  flows : Std.ExtTreeMap TaskId Machine.Flow
  /-- Whether the processor has stopped for good. -/
  halted : Bool

namespace Machine

/-- Something that the machine does. A cause is how a method of the kernel ended. -/
abbrev Work (α : Type) := Act Kernel.Exit Effect Machine α

/-- The processor goes where an event takes it. -/
def follow (m : Machine) : Kernel.Event → Machine
  | .switched switch _ => { m with executing := switch.next }
  | .resumed next _ => { m with executing := next }
  | .notice _ | .entered .. => m

/-- What the world sees of an event. -/
def shown : Kernel.Event → List Effect
  | .notice notice => [.text notice.text]
  | .entered .. | .switched .. | .resumed .. => []

variable {α : Type}

/-- Call a method of the kernel. -/
def call (method : Kernel.Method α) : Work α := fun m =>
  let outcome := method m.kernel
  { answer := outcome.answer
    state := outcome.events.foldl follow { m with kernel := outcome.state }
    events := outcome.events.flatMap shown }

/-- Do something that the world sees. -/
def emit (effect : Effect) : Work Unit := Act.report effect

/-- The ticks between two dots, of which there is at least one. -/
def blinkPeriod (milliseconds : Nat) : Except Fault Nat :=
  (ticksOfMilliseconds milliseconds).map (max · 1)

/-- The sum of the numbers to `last`, and of it as much as an exit code holds. -/
def sumTo (last : Nat) : Except Fault Int32 :=
  ((List.range' 1 last).foldlM Word.add 0).map fun sum => Int32.ofNat (sum % 0x80000000)

/-- The character of a message from the keyboard that has to be shown. -/
def typed (message : Message) : Option UInt8 :=
  match message.payload with
  | .keyPush push => if push.press && push.ascii != 0 then some push.ascii else none
  | _ => none

/-- Take a step of a task's flow. The answer is how its flow goes on. -/
def Flow.take (id : TaskId) : Flow → Work Flow
  | .awaiting worker => do
    match ← call (Kernel.attempt (Kernel.exitAttempt worker)) with
    | .ok (some code) => return .announcing worker (.ok code)
    | .ok none => return .awaiting worker
    | .error cause => return .announcing worker (.error cause)
  | .announcing worker outcome => do
    emit <| .text <| match outcome with
      | .ok code =>
        "[SCHED] worker " ++ worker.text ++ " exited with " ++ toString code ++ "\n"
      | .error cause =>
        "[SCHED] wait for " ++ worker.text ++ " failed: " ++ cause.message ++ "\n"
    return .listening
  | .listening => do
    match ← call Kernel.messageAttempt with
    | some message => return (typed message).elim .listening .echoing
    | none => return .listening
  | .echoing character => do
    emit (.echo character)
    return .listening
  | .idling => return .idling
  | .blinking milliseconds =>
    match blinkPeriod milliseconds with
    | .ok period => return .arming period 1
    | .error cause => Act.throw (.stop (.fault cause))
  | .arming period value => do
    call (Kernel.armAfter period value id "blink")
    return .watching period
  | .watching period => do
    match ← call Kernel.messageAttempt with
    | some { payload := .timeout _ value _, .. } => return .dotting period value
    | _ => return .watching period
  | .dotting period value => do
    emit (.text ".")
    return .arming period (value + 1)
  | .summing last =>
    match sumTo last with
    | .ok code => return .ending code
    | .error cause => Act.throw (.stop (.fault cause))
  | .ending code => do
    let never ← call (Kernel.exit code)
    nomatch never

/-- What the console shows when the kernel gives up. The place in the program is left out. -/
def panicText (message : String) : String :=
  "\n!!! KERNEL PANIC !!!\npanicked at <location>:\n" ++ message ++ "\n"

/-- The processor stops for good, with interrupts off. -/
def halt (m : Machine) : Machine :=
  { m with halted := true, kernel := { m.kernel with interrupts := false } }

/-- The machine with interrupts on. -/
def withInterruptsOn (m : Machine) : Machine :=
  { m with kernel := { m.kernel with interrupts := true } }

/-- The machine gives up. -/
def giveUp (m : Machine) (effects : List Effect) (message : String) : List Effect × Machine :=
  (effects ++ [.text (panicText message)], m.halt)

/-- How the machine goes on after it did something. A task that was resumed for good runs with
interrupts on. -/
def settle (outcome : Outcome Kernel.Exit Effect Machine Unit) : List Effect × Machine :=
  match outcome.answer with
  | .ok () => (outcome.events, outcome.state)
  | .error (.resumed _) => (outcome.events, outcome.state.withInterruptsOn)
  | .error (.stop cause) => outcome.state.giveUp outcome.events cause.message
  | .error .spinning => (outcome.events, outcome.state)

/-- The flow that the processor follows. -/
def flow (m : Machine) : Flow := m.flows[m.executing]?.getD .idling

/-- Whether the processor waits for an interrupt. -/
def isWaiting (m : Machine) : Bool :=
  match m.flow with
  | .idling => true
  | _ => false

/-- The processor takes a step of the flow that it follows. -/
def step (m : Machine) : List Effect × Machine :=
  if m.halted then ([], m)
  else
    let id := m.executing
    settle <| (m.flow.take id m).bind fun next m =>
      .done { m with flows := m.flows.insert id next } ()

end Machine

end TaskKernel
