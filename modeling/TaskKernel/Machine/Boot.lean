import TaskKernel.Kernel.Registry
import TaskKernel.Machine.Basic

/-!
# Starting the machine

The kernel sets up the console, memory, itself, its tasks and the devices, in this order, and then
takes interrupts. If something goes wrong on the way it gives up and the machine stops.
-/

namespace TaskKernel.Machine

/-- What the firmware leaves for the kernel. -/
structure Firmware where
  /-- The map of physical memory. -/
  regions : List Memory.Region
  /-- Whether physical memory can be reached through virtual addresses. -/
  physicalMapping : Bool
  /-- The masks of the two interrupt controllers. -/
  masks : Nat × Nat
  deriving DecidableEq, Repr

/-- Why the machine gives up while it starts. -/
inductive Panic where
  | fault (cause : Fault)
  | memory (cause : Memory.SetupError)
  /-- The tasks could not be created. -/
  | launching (cause : Refusal)
  deriving DecidableEq, Repr

/-- What the console shows of the cause. -/
def Panic.message : Panic → String
  | .fault cause => cause.message
  | .memory cause => "memory init failed: " ++ cause.name
  | .launching cause => "spawning demo tasks failed: " ++ cause.message

/-- A step of starting, on a state that the step sets up. -/
abbrev Start (σ α : Type) := Act Panic Effect σ α

variable {σ α : Type}

/-- A line on the console. -/
def line (content : String) : Start σ Unit := Act.report (.text (content ++ "\n"))

/-- Several effects in order. -/
def emitAll (effects : List Effect) : Start σ Unit := effects.forM Act.report

/-- Arithmetic that may not fit its words. -/
def checked (result : Except Fault α) : Start σ α := Act.ofExcept (result.mapError .fault)

/-! ## Memory -/

/-- Map the heap onto frames. -/
def mapHeap (frames : Memory.Frames) : Start σ Unit := fun state =>
  let outcome := Memory.mapHeap { frames, tables := [] }
  { answer := outcome.answer.mapError fun
      | .noFrame => .memory .heapMapping
      | .fault cause => .fault cause
    state
    events := outcome.events.map .mapped }

/-- Set up memory. Afterwards the whole heap is free. -/
def setUpMemory (firmware : Firmware) : Start σ Unit := do
  if firmware.physicalMapping then
    let frames := Memory.Frames.start firmware.regions
    let usable ← checked frames.usable
    let bytes ← checked (Word.mul usable Memory.frameBytes)
    line ("[OK] Frame allocator initialized (" ++ toString usable ++ " usable frames, " ++
      toString (bytes / 1024 / 1024) ++ " MiB)")
    mapHeap frames
    let size := toString (Memory.heapBytes / 1024)
    line ("[OK] Kernel heap initialized (" ++ size ++ " KiB, " ++ size ++ " KiB free)")
  else
    Act.throw (.memory .noPhysicalMapping)

/-! ## Tasks -/

/-- The memory for stacks: the heap. -/
def heapArena : Arena where
  next := Memory.heapBase
  limit := Memory.heapBase + Memory.heapBytes
  largest := Memory.heapBytes

/-- A task of the demonstration: what it does first, and at which level, if not the standard one. -/
structure Demonstration where
  /-- The address of the task's function. -/
  entry : UInt64
  data : Nat
  level : Option Nat
  flow : Flow

/-- The idle task, below all others, so that some task is always runnable. -/
def idleTask : Demonstration := { entry := 0x201000, data := 0, level := some 0, flow := .idling }

/-- The task that shows a dot twice in a second. -/
def blinkTask : Demonstration :=
  { entry := 0x202000, data := 500, level := some 2, flow := .blinking 500 }

/-- The task that adds up the numbers to a thousand. -/
def workerTask : Demonstration :=
  { entry := 0x203000, data := 1000, level := none, flow := .summing 1000 }

/-- What the world sees of a method that the starting kernel calls, and the method's answer. -/
def callKernel (method : Kernel.Method α) : Start Kernel α := fun k =>
  let outcome := method k
  { answer := outcome.answer.mapError fun
      | .stop (.refused cause) => .launching cause
      | .stop (.fault cause) => .fault cause
      | .resumed _ | .spinning => .fault .noContextAfterExit
    state := outcome.state
    events := outcome.events.flatMap shown }

/-- Create a task of the demonstration. The answer is its number with what it does first. -/
def create (d : Demonstration) : Start Kernel (TaskId × Flow) := do
  let id ← callKernel (Kernel.launch d.entry (UInt64.ofNat d.data) d.level)
  return (id, d.flow)

/-- Give the keyboard to the starting task and create the others. -/
def createTasks : Start Kernel (List (TaskId × Flow)) := do
  let self ← callKernel Kernel.current
  callKernel (Kernel.giveFocus (some self))
  let idle ← create idleTask
  let blink ← create blinkTask
  let worker ← create workerTask
  return [(self, .awaiting worker.1), idle, blink, worker]

/-! ## All together -/

/-- Set up the devices that interrupt the processor. -/
def setUpDevices (masks : Nat × Nat) : Start σ Unit := do
  line "[OK] IDT loaded"
  emitAll (controllerSetup masks)
  emitAll (intervalSetup timerFrequency)

/-- Install a kernel as the machine's. -/
def install (kernel : Kernel) : Start Kernel.Registry Kernel := fun registry =>
  let outcome := registry.install kernel
  { answer := (outcome.answer.mapError .fault).map fun () => kernel
    state := outcome.state
    events := outcome.events.map fun notice => .text notice.text }

/-- Do something to a kernel. The answer comes with the kernel as it is afterwards. -/
def onKernel (kernel : Kernel) (act : Start Kernel α) : Start σ (α × Kernel) := fun state =>
  let outcome := act kernel
  { answer := outcome.answer.map fun value => (value, outcome.state)
    state
    events := outcome.events }

/-- Start the kernel up to the point from which on it takes interrupts. -/
def bringUp (firmware : Firmware) : Start Kernel.Registry Machine := do
  emitAll serialSetup
  line "taskcore v0.1.0"
  line "==============="
  setUpMemory firmware
  let kernel ← install (← checked (Kernel.start {} Platform.simulated heapArena false))
  let (flows, kernel) ← onKernel kernel createTasks
  setUpDevices firmware.masks
  line "[OK] Interrupts enabled"
  return {
    kernel := { kernel with interrupts := true }
    keyboard := Keyboard.Decoder.start
    controller := Controller.start
    keyboardData := 0
    executing := 1
    flows := Std.ExtTreeMap.ofList flows
    halted := false }

/-- Start the machine. There is none if the kernel gave up. -/
def boot (firmware : Firmware) : List Effect × Option Machine :=
  let outcome := bringUp firmware Kernel.Registry.empty
  match outcome.answer with
  | .ok machine => (outcome.events, some machine)
  | .error cause => (outcome.events ++ [.text (panicText cause.message)], none)

end TaskKernel.Machine
