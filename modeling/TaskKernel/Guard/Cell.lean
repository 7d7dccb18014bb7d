import TaskKernel.Fault

/-!
# Masks and guarded cells

There is one processor, so keeping interrupts off keeps everybody else out. A *mask* keeps them off
and remembers whether they were on. A *cell* holds state that is only to be touched under a mask; it
notices when it is entered while it is in use.
-/

namespace TaskKernel

/-- What has to be known to undo the masking of interrupts. -/
structure Mask where
  /-- Whether interrupts were on when the mask was taken. -/
  wereEnabled : Bool
  deriving DecidableEq, Repr

namespace Mask

/-- Take a mask: interrupts go off. -/
def acquire (interrupts : Bool) : Mask × Bool := (⟨interrupts⟩, false)

/-- Give a mask back: interrupts go on again if they were on. -/
def release (mask : Mask) (interrupts : Bool) : Bool := interrupts || mask.wereEnabled

end Mask

/-- State that interrupt handlers and tasks share. -/
structure Cell (α : Type) where
  value : α
  /-- Whether somebody is using the value. -/
  borrowed : Bool
  deriving DecidableEq, Repr

namespace Cell

variable {α : Type}

/-- A cell that nobody uses. -/
def new (value : α) : Cell α := ⟨value, false⟩

/-- Start using the value, if nobody does. -/
def borrow (cell : Cell α) : Except Fault (Cell α) :=
  if cell.borrowed then .error .reentrantAccess else .ok { cell with borrowed := true }

/-- Stop using the value. -/
def giveBack (cell : Cell α) : Cell α := { cell with borrowed := false }

end Cell

end TaskKernel
