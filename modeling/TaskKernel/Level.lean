/-!
# Priority levels and task identifiers

The scheduler has four levels. A higher level preempts a lower one; tasks inside a level take turns.
-/

namespace TaskKernel

/-- A priority level, `0` to `3`. A higher level preempts a lower one. -/
abbrev Level := Fin 4

namespace Level

/-- The level at which the machine's first flow of execution runs. -/
def highest : Level := 3

/-- The level given to a task for which no other was asked. -/
def standard : Level := 1

/-- All levels, the most urgent first. -/
def descending : List Level := [3, 2, 1, 0]

theorem mem_descending (level : Level) : level ∈ descending := by
  revert level; decide

theorem le_highest (level : Level) : level ≤ highest := by
  revert level; decide

end Level

/-- Tasks are numbered from one in the order of their creation. -/
abbrev TaskId := Nat

namespace TaskId

/-- The sender of messages that no task sent. No task has this number. -/
def kernel : TaskId := 0

/-- How a task is named on the console. -/
def text (id : TaskId) : String :=
  "Task#" ++ toString (id : Nat)

end TaskId

end TaskKernel
