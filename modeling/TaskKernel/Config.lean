import TaskKernel.Word

/-!
# Tuning

The fixed numbers of the kernel and the choices that are made when it starts.
-/

namespace TaskKernel

/-- What becomes of a requested level that does not exist. -/
inductive LevelPolicy where
  /-- The request is refused. -/
  | reject
  /-- The level is lowered to the highest that exists. -/
  | clamp
  deriving DecidableEq, Repr

/-- Where a runnable task that is not executing enters the queue of its new level. -/
inductive RequeuePolicy where
  /-- Behind every task there. -/
  | back
  /-- In front of every task there that is not executing. -/
  | front
  deriving DecidableEq, Repr

/-- Timer interrupts in a second. -/
def timerFrequency : Nat := 100

/-- Ticks between two turns of the scheduler unless configured otherwise: twenty milliseconds. -/
def standardPeriod : Nat := timerFrequency / 50

/-- Bytes of stack for each task unless configured otherwise. -/
def standardStackBytes : Nat := 16 * 1024

/-- The choices that are made when the kernel starts. -/
structure Config where
  /-- Ticks between two turns of the scheduler. -/
  schedulerPeriod : Nat := standardPeriod
  /-- Bytes of stack for each task. -/
  stackBytes : Nat := standardStackBytes
  levelPolicy : LevelPolicy := .reject
  requeuePolicy : RequeuePolicy := .back
  deriving DecidableEq, Repr

namespace Config

/-- The scheduling period in ticks: a period of zero counts as one. -/
def period (config : Config) : Nat :=
  max config.schedulerPeriod 1

theorem period_pos (config : Config) : 0 < config.period :=
  Nat.lt_of_lt_of_le Nat.one_pos (Nat.le_max_right ..)

/-- The level that a request for `level` gets. -/
def grantLevel (config : Config) (level : Nat) : Except Refusal Level :=
  if h : level < 4 then .ok ⟨level, h⟩
  else match config.levelPolicy with
    | .reject => .error (.invalidLevel level)
    | .clamp => .ok Level.highest

/-- The level that an optional request gets; no request is never refused. -/
def grantLevel? (config : Config) : Option Nat → Except Refusal (Option Level)
  | none => .ok none
  | some level => (config.grantLevel level).map some

end Config

/-- The whole ticks in a number of milliseconds. The product with the tick rate has to fit a word.
-/
def ticksOfMilliseconds (milliseconds : Nat) : Except Fault Nat :=
  (Word.mul milliseconds timerFrequency).map (· / 1000)

end TaskKernel
