import TaskKernel.Dispatcher.Basic

/-!
# Becoming runnable, falling asleep, taking turns

Waking a task never moves the processor. Only the executing task's own sleep and its turn being over
select another task.
-/

namespace TaskKernel.Dispatcher

/-! ## Waking -/

/-- A sleeping task becomes runnable behind the others of the level. -/
def makeRunnable (d : Dispatcher) (id : TaskId) (task : Task) (level : Level) : Dispatcher :=
  { d.store id { task with level, running := true } with
    queues := d.queues.pushBack level id
    reselect := d.reselect || decide (d.active < level) }

/-- Where a runnable task that does not execute enters its new level. Nobody gets in front of the
executing task. -/
def enqueue (d : Dispatcher) (queues : RunQueues) (level : Level) (id : TaskId) : RunQueues :=
  match d.config.requeuePolicy with
  | .back => queues.pushBack level id
  | .front => if level = d.active then queues.pushSecond level id else queues.pushFront level id

/-- A runnable task changes its level. The executing task takes the active level along and keeps the
processor; any other task joins the queue of its new level. -/
def changeLevel (d : Dispatcher) (id : TaskId) (task : Task) (level : Level) : Dispatcher :=
  if level = task.level then d
  else
    let moved := d.store id { task with level }
    if d.executing? = some id then
      { moved with
        queues := (d.queues.dropHead d.active).pushFront level id
        active := level
        reselect := d.reselect || decide (level < d.active) }
    else
      { moved with
        queues := d.enqueue (d.queues.erase task.level id) level id
        reselect := d.reselect || decide (d.active < level) }

/-- Make a task runnable at a level, or at its own if none is given. For a task that is runnable
this is a change of level. -/
def wakeAt (d : Dispatcher) (id : TaskId) (level : Option Level) : Except Refusal Dispatcher :=
  match d.tasks[id]? with
  | none => .error .noSuchTask
  | some task =>
    let level := level.getD task.level
    .ok (if task.running then d.changeLevel id task level else d.makeRunnable id task level)

/-- Make a task runnable; the level is as the configuration allows. -/
def wake (d : Dispatcher) (id : TaskId) (level : Option Nat) : Result Unit :=
  match d.config.grantLevel? level with
  | .error cause => d.refuse cause
  | .ok level =>
    match d.wakeAt id level with
    | .error cause => d.refuse cause
    | .ok woken => .done woken ()

/-- Wake several tasks in turn; those that are gone are passed over. -/
def wakeAll (d : Dispatcher) (ids : List TaskId) : Dispatcher :=
  ids.foldl (fun d id => (d.wakeAt id none).toOption.getD d) d

/-! ## Sleeping and taking turns -/

/-- Take a task out of the run queues. If it is the executing task, another one is selected and the
answer is the switch to carry out; a task that sleeps already stays as it is. -/
def suspend (d : Dispatcher) (id : TaskId) : Result (Option Switch) :=
  let d := d.release
  match d.tasks[id]? with
  | none => d.refuse .noSuchTask
  | some task =>
    if !task.running then .done d none
    else
      let asleep := d.store id { task with running := false }
      if d.executing? = some id then
        let rotated := asleep.rotate false
        rotated.withCurrent fun next => .done rotated (some { next, current := id })
      else
        .done { asleep with queues := d.queues.erase task.level id } none

/-- The executing task's turn is over: keep the context in which it was interrupted, and select the
next task. The answer is that task if it is another one. -/
def preempt (d : Dispatcher) (saved : Context) : Option TaskId × Dispatcher :=
  match d.executing? with
  | none => (none, d)
  | some current =>
    let rotated := (d.modifyTask current ({ · with context := saved })).rotate true
    (rotated.executing?.filter (· ≠ current), rotated)

/-- The same number of turns, with the same context kept each time. -/
def preemptTimes (d : Dispatcher) (saved : Context) : Nat → List (Option TaskId) × Dispatcher
  | 0 => ([], d)
  | n + 1 =>
    let (next, d) := d.preempt saved
    let (rest, d) := d.preemptTimes saved n
    (next :: rest, d)

end TaskKernel.Dispatcher
