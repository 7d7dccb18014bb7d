import TaskKernel.Config
import TaskKernel.Machine.Effect

/-!
# Devices

The serial line, the interrupt controllers and the interval timer: what is written to their
registers to set them up, and how the first controller decides about interrupt requests.
-/

namespace TaskKernel.Machine

/-! ## The serial line -/

/-- The address of the first register of the serial line that serves as console. -/
def serialBase : Nat := 0x3f8

/-- Set up the serial line: 38400 baud, eight bits, queues on, interrupts on. -/
def serialSetup : List Effect :=
  [.device (serialBase + 1) 0x00, .device (serialBase + 3) 0x80, .device serialBase 0x03,
    .device (serialBase + 1) 0x00, .device (serialBase + 3) 0x03, .device (serialBase + 2) 0xc7,
    .device (serialBase + 4) 0x0b, .device (serialBase + 1) 0x01]

/-! ## The interrupt controllers -/

/-- Where the first controller takes commands. -/
def firstCommand : Nat := 0x20

/-- Where the first controller takes data. -/
def firstData : Nat := 0x21

/-- Where the second controller takes commands. -/
def secondCommand : Nat := 0xa0

/-- Where the second controller takes data. -/
def secondData : Nat := 0xa1

/-- The vector of the first controller's first line, behind those of the processor's exceptions. -/
def firstVector : Nat := 32

/-- The vector of the second controller's first line. -/
def secondVector : Nat := firstVector + 8

/-- A write to a controller that needs time: a write to an unused address follows. -/
def slowWrite (address value : Nat) : List Effect := [.device address value, .device 0x80 0]

/-- The masks with which the kernel runs: the lines of the timer and of the keyboard are open. -/
def openMasks : Nat × Nat := (0b11111100, 0b11111111)

/-- Write the masks of both controllers. -/
def writeMasks (masks : Nat × Nat) : List Effect :=
  [.device firstData masks.1, .device secondData masks.2]

/-- Set up the controllers: their vectors, how they are connected, and the masks that they had
before. Then open the lines that the kernel serves. -/
def controllerSetup (masks : Nat × Nat) : List Effect :=
  [(firstCommand, 0x11), (secondCommand, 0x11), (firstData, firstVector),
    (secondData, secondVector), (firstData, 4), (secondData, 2), (firstData, 1),
    (secondData, 1)].flatMap (fun (address, value) => slowWrite address value) ++
  writeMasks masks ++ writeMasks openMasks

/-- A line of the first controller. A lower number has a higher priority. -/
abbrev Line := Fin 8

/-- What becomes of an interrupt request. -/
inductive Request where
  | delivered
  /-- The line is masked. -/
  | masked
  /-- An interrupt of the same or a higher priority was not acknowledged. -/
  | blocked
  deriving DecidableEq, Repr

/-- The first controller. -/
structure Controller where
  /-- A bit for each line that is masked. -/
  mask : Nat
  /-- The interrupts that were not acknowledged, the last one first. -/
  inService : List Line
  deriving DecidableEq, Repr

namespace Controller

/-- The controller as the kernel runs it, before the first interrupt. -/
def start : Controller where
  mask := openMasks.1
  inService := []

/-- Decide about an interrupt request. -/
def request (c : Controller) (line : Line) : Request × Controller :=
  if c.mask.testBit line then (.masked, c)
  else if c.inService.any (· ≤ line) then (.blocked, c)
  else (.delivered, { c with inService := line :: c.inService })

/-- Acknowledge the interrupt that was delivered last. -/
def acknowledge (c : Controller) : Controller := { c with inService := c.inService.tail }

end Controller

/-- Tell the first controller that an interrupt was dealt with. -/
def acknowledgement : List Effect := [.device firstCommand 0x20]

/-! ## The interval timer -/

/-- What the interval timer counts in a second. -/
def intervalClock : Nat := 1193182

/-- The count between two timer interrupts, as near as a 16-bit counter comes. -/
def intervalDivisor (frequency : Nat) : Nat :=
  min (max (intervalClock / max frequency 1) 1) 0xffff

/-- Set up the interval timer for a number of interrupts in a second. -/
def intervalSetup (frequency : Nat) : List Effect :=
  let divisor := intervalDivisor frequency
  [.device 0x43 0x36, .device 0x40 (divisor % 256), .device 0x40 (divisor / 256),
    .text ("[OK] PIT at " ++ toString frequency ++ " Hz (divisor " ++ toString divisor ++ ")\n")]

end TaskKernel.Machine
