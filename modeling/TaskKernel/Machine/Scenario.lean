import TaskKernel.Machine.Boot
import TaskKernel.Machine.Interrupts

/-!
# Scenarios

A scenario lets things happen to the machine whenever it waits for an interrupt, and the machine run
on until it waits again.
-/

namespace TaskKernel.Machine

/-- Something that happens to a machine that waits. -/
inductive Incident where
  /-- A line requests an interrupt several times. -/
  | interrupts (line : Line) (count : Nat)
  /-- The keyboard has a byte and requests an interrupt. -/
  | key (byte : UInt8)
  | exception (e : Exception)
  deriving DecidableEq, Repr

/-- Take steps until the processor waits or has stopped, but no more than so many. -/
def runFor : (steps : Nat) → Machine → List Effect × Machine
  | 0, m => ([], m)
  | steps + 1, m =>
    if m.halted || m.isWaiting then ([], m)
    else
      let (effects, m) := m.step
      let (others, m) := runFor steps m
      (effects ++ others, m)

/-- More steps than the machine takes before it waits. A message takes no more than three, and a
task no more than four around falling asleep. -/
def patience (m : Machine) : Nat :=
  let tasks := m.kernel.tasks.value.tasks.toList
  tasks.foldl (fun sum (_, task) => sum + 4 * task.mailbox.size + 8) 16

/-- Take steps until the processor waits or has stopped. -/
def run (m : Machine) : List Effect × Machine := runFor m.patience m

/-- What happened and what came of it. -/
structure Happening where
  effects : List Effect
  requests : List Request
  deriving DecidableEq

/-- A line requests an interrupt several times, each time when the machine waits. -/
def interruptTimes (line : Line) : (count : Nat) → Machine → Happening × Machine
  | 0, m => ({ effects := [], requests := [] }, m)
  | count + 1, m =>
    if m.halted then ({ effects := [], requests := [] }, m)
    else
      let (request, handling, m) := m.interrupt line
      let (effects, m) := m.run
      let (others, m) := interruptTimes line count m
      ({ effects := handling ++ effects ++ others.effects
         requests := request :: others.requests }, m)

/-- Something happens to a machine that waits. -/
def happen (m : Machine) : Incident → Happening × Machine
  | .interrupts line count => interruptTimes line count m
  | .key byte => interruptTimes keyboardLine 1 { m with keyboardData := byte }
  | .exception e =>
    let (effects, m) := m.except e
    ({ effects, requests := [.delivered] }, m)

/-- Several things happen in order, until the machine has stopped. -/
def happenAll (m : Machine) : List Incident → List Happening × Machine
  | [] => ([], m)
  | incident :: rest =>
    if m.halted then ([], m)
    else
      let (first, m) := m.happen incident
      let (others, m) := m.happenAll rest
      (first :: others, m)

/-- What a scenario shows. -/
structure Play where
  /-- What the machine did until it first waited. -/
  start : List Effect
  happenings : List Happening
  /-- Whether it has stopped. -/
  halted : Bool
  deriving DecidableEq

/-- Start a machine and let things happen to it. -/
def play (firmware : Firmware) (incidents : List Incident) : Play :=
  match boot firmware with
  | (effects, none) => { start := effects, happenings := [], halted := true }
  | (effects, some m) =>
    let (more, m) := m.run
    let (happenings, m) := m.happenAll incidents
    { start := effects ++ more, happenings, halted := m.halted }

end TaskKernel.Machine
