import TaskKernel.Machine.Basic

/-!
# Interrupts and exceptions

The timer and the keyboard interrupt the processor between two steps. A handler runs with interrupts
off. The timer's handler may hand the processor to another task; otherwise the interrupted one goes
on. An exception of the processor is reported and ends everything.
-/

namespace TaskKernel.Machine

/-- Tell the controller that the interrupt was dealt with. -/
def acknowledge : Work Unit := fun m =>
  { answer := .ok ()
    state := { m with controller := m.controller.acknowledge }
    events := acknowledgement }

/-- The handler of the timer. The interrupted task's context stands for its flow, which stays as it
is. -/
def handleTimer : Work Unit := do
  let due ← call Kernel.tick
  acknowledge
  if due then call (Kernel.preempt Context.zero)

/-- Take the byte that the keyboard holds ready. -/
def readKeyboard : Work (Option KeyPush) := fun m =>
  let (report, keyboard) := m.keyboard.feed m.keyboardData
  .done { m with keyboard } report

/-- The handler of the keyboard. -/
def handleKeyboard : Work Unit := do
  let report ← readKeyboard
  if let .dropped focus cause ← call (Kernel.deliver report) then
    emit (.text (Notice.keyDropped focus cause).text)
  acknowledge

/-- The line of the timer. -/
def timerLine : Line := 0

/-- The line of the keyboard. -/
def keyboardLine : Line := 1

/-- The handler of a line. No other line is ever open. -/
def handler (line : Line) : Work Unit :=
  if line = timerLine then handleTimer
  else if line = keyboardLine then handleKeyboard
  else pure ()

/-- A device requests an interrupt while the processor takes interrupts. -/
def interrupt (m : Machine) (line : Line) : Request × List Effect × Machine :=
  match m.controller.request line with
  | (.delivered, controller) =>
    let entered := { m with controller, kernel := { m.kernel with interrupts := false } }
    (.delivered, settle ((handler line entered).mapState withInterruptsOn))
  | (request, _) => (request, [], m)

/-! ## Histories -/

/-- What makes the machine go on. -/
inductive Stimulus where
  /-- The processor takes a step. -/
  | step
  /-- The timer requests an interrupt. -/
  | timer
  /-- The keyboard has a byte and requests an interrupt. -/
  | key (byte : UInt8)
  deriving DecidableEq, Repr

/-- The machine goes on. Once it has stopped, nothing moves it. -/
def respond (m : Machine) : Stimulus → List Effect × Machine
  | .step => m.step
  | .timer => if m.halted then ([], m) else (m.interrupt timerLine).2
  | .key byte =>
    if m.halted then ([], m) else ({ m with keyboardData := byte }.interrupt keyboardLine).2

/-- The machine goes on several times, in any order of steps and interrupts. -/
def respondAll (m : Machine) : List Stimulus → List Effect × Machine
  | [] => ([], m)
  | stimulus :: rest =>
    let (effects, m) := m.respond stimulus
    let (others, m) := m.respondAll rest
    (effects ++ others, m)

/-! ## Exceptions -/

/-- An exception of the processor. -/
structure Exception where
  vector : Nat
  /-- The error code, which some exceptions have. -/
  error : Nat
  /-- Where the processor stood. -/
  place : Nat
  /-- The address that was not accessible, if it was about one. -/
  address : Nat
  deriving DecidableEq, Repr

/-- The exceptions that have a handler. -/
def handled : List Nat := [0, 6, 8, 13, 14]

/-- The exceptions that come with an error code, among those that have a handler. -/
def withError : List Nat := [8, 13, 14]

/-- The exception that an exception without a handler turns into. -/
def doubleFault : Nat := 8

/-- The exception of a page that is not accessible. -/
def pageFault : Nat := 14

/-- The exception that is handled when one occurs. -/
def Exception.escalate (e : Exception) : Exception :=
  if e.vector ∈ handled then e else { e with vector := doubleFault, error := 0 }

/-- An address whose upper bits repeat bit 47, as all addresses in use do. -/
def canonical (address : Nat) : Nat :=
  let low := address % 0x1000000000000
  if low < 0x800000000000 then low else low + 0xffff000000000000

/-- What the console shows of an exception that has a handler. -/
def Exception.report (e : Exception) : String :=
  let error := if e.vector ∈ withError then "Some(" ++ toString e.error ++ ")" else "None"
  let first := "\n!!! CPU EXCEPTION " ++ toString e.vector ++ " at " ++ Text.hexadecimal e.place ++
    " (error " ++ error ++ ")\n"
  if e.vector = pageFault then
    first ++ "    faulting address VirtAddr(" ++ Text.hexadecimal (canonical e.address) ++ ")\n"
  else first

/-- An exception occurs: the machine reports it and stops. -/
def except (m : Machine) (e : Exception) : List Effect × Machine :=
  ([.text e.escalate.report], m.halt)

end TaskKernel.Machine
