import TaskKernel.Fault
import TaskKernel.Label

/-!
# Console notices

What the scheduler tells the operator, one line each.
-/

namespace TaskKernel

/-- A line that the scheduler writes to the console. -/
inductive Notice where
  /-- A task was created and made runnable. -/
  | launched (id : TaskId) (level : Level)
  /-- A task ended. -/
  | exited (id : TaskId) (code : Int32)
  /-- A timer expired whose task cannot be told. -/
  | timerDropped (label : Label) (id : TaskId) (cause : Refusal)
  /-- A key was pressed and the task that reads the keyboard cannot be told. -/
  | keyDropped (id : TaskId) (cause : Refusal)
  /-- The kernel was installed. -/
  | installed
  deriving DecidableEq

/-- The wording of a notice. -/
def Notice.text : Notice → String
  | .launched id level =>
    "[SCHED] Spawned " ++ id.text ++ " at level " ++ toString level.val ++ "\n"
  | .exited id code =>
    "[SCHED] " ++ id.text ++ " finished with code " ++ toString code ++ "\n"
  | .timerDropped label id cause =>
    "[TIMER] dropped " ++ label.text ++ " for " ++ id.text ++ ": " ++ cause.message ++ "\n"
  | .keyDropped id cause =>
    "[KBD] dropped key for " ++ id.text ++ ": " ++ cause.message ++ "\n"
  | .installed => "[OK] Kernel context installed\n"

end TaskKernel
