import TaskKernel.Level

/-!
# Refusals and faults

A *refusal* answers a request that cannot be carried out; the caller goes on. A *fault* stops the
operation where it stands: it reports a broken assumption, not a bad request.
-/

namespace TaskKernel

/-- Why a request about a task was turned down. -/
inductive Refusal where
  /-- No live task has the number. -/
  | noSuchTask
  /-- There is no room for the task's stack. -/
  | noStack
  /-- The requested level does not exist, and the configuration does not lower it. -/
  | invalidLevel (level : Nat)
  /-- The task is schedulable, so its context may be in use. -/
  | alreadyRunning
  deriving DecidableEq, Repr

/-- The wording of a refusal. -/
def Refusal.message : Refusal → String
  | .noSuchTask => "no such task"
  | .noStack => "stack allocation failed"
  | .invalidLevel level => "invalid level " ++ toString level
  | .alreadyRunning => "task already running"

/-- The operations of machine arithmetic whose exact result may not fit a word. -/
inductive Arithmetic where
  | add
  | subtract
  | multiply
  deriving DecidableEq, Repr

/-- The name of an arithmetic operation. -/
def Arithmetic.name : Arithmetic → String
  | .add => "add"
  | .subtract => "subtract"
  | .multiply => "multiply"

/-- What stops an operation where it stands. -/
inductive Fault where
  /-- A task was to be selected from a level at which none is runnable. -/
  | emptyQueue (level : Level)
  /-- Guarded state was entered while it was in use. -/
  | reentrantAccess
  /-- A second kernel was offered for installation. -/
  | installedTwice
  /-- The kernel was needed before one was installed. -/
  | usedBeforeInstall
  /-- The exact result of an arithmetic operation does not fit a word. -/
  | overflow (operation : Arithmetic)
  /-- A physical address does not fit the 52 bits that the hardware has for it. -/
  | addressTooWide
  /-- A place outside a block of memory was named. -/
  | outOfBounds (index length : Nat)
  /-- The task selected after an exit has no context. -/
  | noContextAfterExit
  deriving DecidableEq, Repr

/-- The wording of a fault. -/
def Fault.message : Fault → String
  | .emptyQueue level => "run queue " ++ toString level.val ++ " empty: no idle task"
  | .reentrantAccess => "re-entrant access to kernel state"
  | .installedTwice => "kernel context installed twice"
  | .usedBeforeInstall => "kernel context used before install"
  | .overflow operation => "attempt to " ++ operation.name ++ " with overflow"
  | .addressTooWide => "physical addresses must not have any bits in the range 52 to 64 set"
  | .outOfBounds index length =>
    "index out of bounds: the len is " ++ toString length ++ " but the index is " ++ toString index
  | .noContextAfterExit => "no context for the task after finish"

/-- Why an operation ended without a value. -/
inductive Stop where
  | refused (cause : Refusal)
  | fault (cause : Fault)
  deriving DecidableEq, Repr

/-- The wording of either cause. -/
def Stop.message : Stop → String
  | .refused cause => cause.message
  | .fault cause => cause.message

end TaskKernel
