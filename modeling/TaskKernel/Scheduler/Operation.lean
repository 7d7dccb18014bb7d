import TaskKernel.Dispatcher.Creation
import TaskKernel.Dispatcher.Exit
import TaskKernel.Scheduler.Tick

/-!
# Operations as data

Everything that can be done to the tasks and the timers, one at a time. A history of the scheduler
is a list of these operations. The memory from which stacks are taken belongs to the whole program:
that there is more of it, or less, is an operation, too, so a history may give any answer to a
request for a stack.
-/

namespace TaskKernel

/-- A change to a saved context. -/
inductive Context.Edit where
  | register (r : Register) (value : UInt64)
  | fx (i : Nat) (value : UInt8)
  deriving DecidableEq, Repr

/-- Carry out changes to a context in order. -/
def Context.edit (c : Context) (edits : List Context.Edit) : Context :=
  edits.foldl (fun c e => match e with
    | .register r value => c.set r value
    | .fx i value => c.setFx i value) c

namespace Scheduler

/-- Something that can be done to the tasks or the timers. -/
inductive Operation where
  | create
  | prepare (id : TaskId) (start : Task.Start)
  | prepareWith (id : TaskId) (start : Task.Start) (stackBytes : Nat)
  | editContext (id : TaskId) (edits : List Context.Edit)
  | launch (entry data : UInt64) (level : Option Nat)
  | wake (id : TaskId) (level : Option Nat)
  | suspend (id : TaskId)
  | preempt (saved : Context)
  | send (id : TaskId) (message : Message)
  | receive (id : TaskId)
  | receiveOrSuspend
  | exit (code : Int32)
  | awaitExit (waiter target : TaskId)
  | startSchedule
  | armAt (timeout : Nat) (value : Int32) (target : TaskId) (label : String)
  | armAfter (delay : Nat) (value : Int32) (target : TaskId) (label : String)
  | tick
  /-- The memory for stacks changes: some came back, or others took some. -/
  | restock (arena : Arena)
  deriving DecidableEq

/-- The answer to an operation that succeeded. -/
inductive Answer where
  | unit
  /-- The task that was created or selected. -/
  | task (id : TaskId)
  /-- The task to resume, if it is another one. -/
  | next (id : Option TaskId)
  /-- The switch to carry out, if there is one. -/
  | switch (switch : Option Switch)
  | message (message : Option Message)
  | receipt (receipt : Dispatcher.Receipt)
  | wait (outcome : Dispatcher.Awaited)
  /-- Whether the scheduler has to decide who runs. -/
  | due (due : Bool)
  deriving DecidableEq

/-- Carry out one operation. -/
def perform (s : Scheduler) : Operation → Result Answer
  | .create => (s.onTasks (·.create)).map .task
  | .prepare id start => (s.onTasks (·.prepare id start)).map fun () => .unit
  | .prepareWith id start stackBytes =>
    (s.onTasks (·.prepareWith id start stackBytes)).map fun () => .unit
  | .editContext id edits =>
    match s.tasks.find? id with
    | none => .stop s (.refused .noSuchTask)
    | some task =>
      let task := { task with context := task.context.edit edits }
      .done { s with tasks := s.tasks.store id task } .unit
  | .launch entry data level => (s.onTasks (·.launch entry data level)).map .task
  | .wake id level => (s.onTasks (·.wake id level)).map fun () => .unit
  | .suspend id => (s.onTasks (·.suspend id)).map .switch
  | .preempt saved =>
    let (next, tasks) := s.tasks.preempt saved
    .done { s with tasks } (.next next)
  | .send id message => (s.onTasks (·.send id message)).map fun () => .unit
  | .receive id => (s.onTasks (·.receive id)).map .message
  | .receiveOrSuspend => (s.onTasks (·.receiveOrSuspend)).map .receipt
  | .exit code => (s.onTasks (·.exit code)).map .task
  | .awaitExit waiter target => (s.onTasks (·.awaitExit waiter target)).map .wait
  | .startSchedule => (s.onTimers (·.startSchedule)).map fun () => .unit
  | .armAt timeout value target label =>
    (s.onTimers (·.armAt timeout value target label)).map fun () => .unit
  | .armAfter delay value target label =>
    (s.onTimers (·.armAfter delay value target label)).map fun () => .unit
  | .tick => s.tick.map .due
  | .restock arena => .done { s with tasks := { s.tasks with arena } } .unit

/-- The state after a history of operations, whether they succeeded or not. -/
def run (s : Scheduler) (history : List Operation) : Scheduler :=
  history.foldl (fun s operation => (s.perform operation).state) s

/-- A state that a history of operations leads to from a fresh start. -/
def Reachable (s : Scheduler) : Prop :=
  ∃ config platform arena history, (start config platform arena).run history = s

end Scheduler

end TaskKernel
