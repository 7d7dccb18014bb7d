import TaskKernel.Dispatcher.Runnable

/-!
# Finishing and waiting

An exit code is kept until somebody asks for it, and is then given away once.
-/

namespace TaskKernel.Dispatcher

/-- Keep how a task ended, and its stack until nobody executes on it any more. -/
def retire (d : Dispatcher) (id : TaskId) (code : Int32) : Dispatcher :=
  { d with
    tasks := d.tasks.erase id
    retired := d.retired ++ (d.tasks[id]?.map fun task => { task with running := false }).toList
    exitCodes := d.exitCodes.insert id code }

/-- End the executing task, wake all who wait for it, and answer with the task to go on with. -/
def exit (d : Dispatcher) (code : Int32) : Result TaskId :=
  match d.executing? with
  | none => d.fail (.emptyQueue d.active)
  | some id =>
    let retired := (d.rotate false).retire id code
    let waiting := retired.waiters[id]?.getD []
    let d := { retired with waiters := retired.waiters.erase id }.wakeAll waiting
    .after [.exited id code] (d.withCurrent (.done d))

/-- What comes of asking how a task ended. -/
inductive Awaited where
  /-- It ended with this code. Nobody is told again. -/
  | exited (code : Int32)
  /-- It has not ended, and who asked fell asleep. -/
  | blocked (switch : Option Switch)
  deriving DecidableEq

/-- Note that one task waits for another, once. -/
def register (d : Dispatcher) (waiter target : TaskId) : Dispatcher :=
  let waiting := d.waiters[target]?.getD []
  { d with
    waiters := d.waiters.insert target (if waiter ∈ waiting then waiting else waiting ++ [waiter]) }

/-- One task asks how another ended, and falls asleep until it does. -/
def awaitExit (d : Dispatcher) (waiter target : TaskId) : Result Awaited :=
  match d.exitCodes[target]? with
  | some code => .done { d with exitCodes := d.exitCodes.erase target } (.exited code)
  | none =>
    if target ∈ d.tasks ∧ waiter ∈ d.tasks then
      ((d.register waiter target).suspend waiter).map .blocked
    else d.refuse .noSuchTask

end TaskKernel.Dispatcher
