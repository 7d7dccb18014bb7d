import TaskKernel.Config
import TaskKernel.Label

/-!
# Timers

A counter of ticks and the timers that wait for it. Timers are kept in the order in which they
expire: by timeout, and those with one timeout in the order in which they were armed.
-/

namespace TaskKernel

/-- What it means that a timer expires. -/
inductive Purpose where
  /-- The scheduler has to decide who runs. No task is told. -/
  | schedule
  /-- The timer's task is told this value. -/
  | user (value : Int32)
  deriving DecidableEq, Repr

/-- An armed timer. -/
structure Timer where
  /-- The tick at which it expires. -/
  timeout : Nat
  purpose : Purpose
  /-- The task that is told. -/
  target : TaskId
  label : Label
  /-- How many timers had been armed before it. -/
  serial : Nat
  deriving DecidableEq

/-- The tick counter and the armed timers. -/
structure Timers where
  /-- The ticks so far. -/
  now : Nat
  /-- Ticks between two decisions of the scheduler. -/
  period : Nat
  period_pos : 0 < period
  /-- How many timers have been armed. -/
  nextSerial : Nat
  /-- The armed timers, the next to expire first. -/
  armed : List Timer

namespace Timers

/-- No tick has passed and no timer is armed. -/
def start (config : Config) : Timers where
  now := 0
  period := config.period
  period_pos := config.period_pos
  nextSerial := 0
  armed := []

/-- Place a timer behind all that expire no later. -/
def insert (timer : Timer) (armed : List Timer) : List Timer :=
  armed.takeWhile (·.timeout ≤ timer.timeout) ++
    timer :: armed.dropWhile (·.timeout ≤ timer.timeout)

/-- Arm a timer. -/
def arm (t : Timers) (timeout : Nat) (purpose : Purpose) (target : TaskId) (label : Label) :
    Except Fault Timers :=
  (Word.add t.nextSerial 1).map fun nextSerial =>
    { t with
      nextSerial
      armed := insert { timeout, purpose, target, label, serial := t.nextSerial } t.armed }

/-- Arm the scheduler's timer one period from now. -/
def armSchedule (t : Timers) (target : TaskId) (label : Label) : Except Fault Timers := do
  let timeout ← Word.add t.now t.period
  t.arm timeout .schedule target label

/-- Start the scheduler's timer, which arms itself again whenever it expires. -/
def startSchedule (t : Timers) : Except Fault Timers :=
  t.armSchedule TaskId.kernel (Label.ofString "sched")

/-- Arm a timer that tells a task a value at tick `timeout`, or at the next tick if that is past. -/
def armAt (t : Timers) (timeout : Nat) (value : Int32) (target : TaskId) (label : String) :
    Except Fault Timers :=
  t.arm timeout (.user value) target (Label.ofString label)

/-- Arm a timer that tells a task a value after `delay` ticks. -/
def armAfter (t : Timers) (delay : Nat) (value : Int32) (target : TaskId) (label : String) :
    Except Fault Timers :=
  t.armAt (Word.saturatingAdd t.now delay) value target label

/-- The number of armed timers. -/
def count (t : Timers) : Nat := t.armed.length

/-- The number of armed timers whose time has come. -/
def dueCount (t : Timers) : Nat :=
  (t.armed.takeWhile (·.timeout ≤ t.now)).length

end Timers

end TaskKernel
