import TaskKernel.Guard.Cell
import TaskKernel.Keyboard.Decoder
import TaskKernel.Scheduler.Operation

/-!
# The kernel

The kernel keeps the dispatcher and the timers in guarded cells and carries out the switches on
which the dispatcher decides. A switch is carried out when the dispatcher is no longer in use but
the mask is still held.

This module has the kernel's state, the ways in which its methods end, what can be observed of them,
and the building blocks from which they are made.
-/

namespace TaskKernel

/-- The kernel and the interrupt flag of the processor that runs it. -/
structure Kernel where
  tasks : Cell Dispatcher
  timers : Cell Timers
  /-- The task that reads the keyboard. -/
  focus : Option TaskId
  /-- Whether the processor takes interrupts. -/
  interrupts : Bool

namespace Kernel

/-- A kernel for the flow of execution that asks for it, which becomes task one. The scheduler's
timer runs. -/
def start (config : Config) (platform : Platform) (arena : Arena) (interrupts : Bool) :
    Except Fault Kernel := do
  let timers ← (Timers.start config).startSchedule
  return {
    tasks := Cell.new (Dispatcher.start config platform arena)
    timers := Cell.new timers
    focus := none
    interrupts }

/-- How a method ends that does not return a value. -/
inductive Exit where
  /-- It was refused or stopped on a fault. -/
  | stop (cause : Stop)
  /-- The processor went on with another task for good. -/
  | resumed (next : TaskId)
  /-- A blocking method made more attempts than there were tasks to block. -/
  | spinning
  deriving DecidableEq, Repr

/-- The two guarded parts of the kernel. -/
inductive Part where
  | tasks
  | timers
  deriving DecidableEq, Repr

/-- How the kernel stands at a moment: the interrupt flag, and which parts are in use. -/
structure View where
  interrupts : Bool
  tasksInUse : Bool
  timersInUse : Bool
  deriving DecidableEq, Repr

/-- What can be observed of the kernel from outside. -/
inductive Event where
  /-- A line on the console. -/
  | notice (notice : Notice)
  /-- A part of the kernel came into use. -/
  | entered (part : Part) (view : View)
  /-- The processor saved one task and went on with another. -/
  | switched (switch : Switch) (view : View)
  /-- The processor went on with a task and saved nothing. -/
  | resumed (next : TaskId) (view : View)
  deriving DecidableEq

/-- How the kernel stands. -/
def view (k : Kernel) : View where
  interrupts := k.interrupts
  tasksInUse := k.tasks.borrowed
  timersInUse := k.timers.borrowed

/-- What a method of the kernel does. -/
abbrev Method (α : Type) := Act Exit Event Kernel α

variable {α β : Type}

/-- Do something while interrupts are off. The flag is as before when it has ended. -/
def masked (body : Method α) : Method α := fun k =>
  let (mask, interrupts) := Mask.acquire k.interrupts
  (body { k with interrupts }).mapState fun k =>
    { k with interrupts := mask.release k.interrupts }

/-- Do something while interrupts are off. The flag is as before when it has ended, unless the
processor went on with another task, which brings its own flag. -/
def maskedUntilResumed (body : Method α) : Method α := fun k =>
  let (mask, interrupts) := Mask.acquire k.interrupts
  let outcome := body { k with interrupts }
  match outcome.answer with
  | .error (.resumed _) => outcome
  | _ => outcome.mapState fun k => { k with interrupts := mask.release k.interrupts }

/-- Do something while the dispatcher is in use. -/
def usingTasks (body : Method α) : Method α := fun k =>
  match k.tasks.borrow with
  | .error cause => .stop k (.stop (.fault cause))
  | .ok tasks =>
    let k := { k with tasks }
    (Outcome.after [.entered .tasks k.view] (body k)).mapState fun k =>
      { k with tasks := k.tasks.giveBack }

/-- Do something while the timers are in use. -/
def usingTimers (body : Method α) : Method α := fun k =>
  match k.timers.borrow with
  | .error cause => .stop k (.stop (.fault cause))
  | .ok timers =>
    let k := { k with timers }
    (Outcome.after [.entered .timers k.view] (body k)).mapState fun k =>
      { k with timers := k.timers.giveBack }

/-- Do something while a part of the kernel is in use. -/
def use : Part → Method α → Method α
  | .tasks => usingTasks
  | .timers => usingTimers

/-- Report what the dispatcher or the timers did as what the kernel did. -/
def lift {σ : Type} (outcome : Outcome Stop Notice σ α) (state : σ → Kernel) :
    Outcome Exit Event Kernel α where
  answer := outcome.answer.mapError .stop
  state := state outcome.state
  events := outcome.events.map .notice

/-- An operation of the dispatcher. -/
def onTasks (operation : Dispatcher → Dispatcher.Result α) : Method α :=
  usingTasks fun k => lift (operation k.tasks.value) fun d =>
    { k with tasks := { k.tasks with value := d } }

/-- An operation of the timers that may not fit their words. -/
def onTimers (operation : Timers → Except Fault Timers) : Method Unit :=
  usingTimers fun k =>
    match operation k.timers.value with
    | .ok t => .done { k with timers := { k.timers with value := t } } ()
    | .error cause => .stop k (.stop (.fault cause))

/-- An operation on tasks and timers together. -/
def onBoth (operation : Scheduler → Scheduler.Result α) : Method α := fun k =>
  lift (operation { tasks := k.tasks.value, timers := k.timers.value }) fun s =>
    { k with
      tasks := { k.tasks with value := s.tasks }
      timers := { k.timers with value := s.timers } }

/-- Go on with another task for good. -/
def resume (next : TaskId) : Method α := fun k =>
  .after [.resumed next k.view] (.stop k (.resumed next))

/-- Carry out a switch. Nothing happens if it leads nowhere or one of the tasks has no context. -/
def carryOut (switch : Switch) : Method Unit := do
  if switch.next ≠ switch.current then
    let possible ← onTasks fun d =>
      .done d ((d.context? switch.next).isSome && (d.context? switch.current).isSome)
    if possible then
      fun k => .after [.switched switch k.view] (.done k ())

/-- The answer of a method or the reason why it was refused. -/
def attempt (method : Method α) : Method (Except Refusal α) := fun k =>
  let outcome := method k
  { outcome with answer := match outcome.answer with
      | .ok value => .ok (.ok value)
      | .error (.stop (.refused cause)) => .ok (.error cause)
      | .error exit => .error exit }

end Kernel

end TaskKernel
