import TaskKernel.Notice
import TaskKernel.Outcome
import TaskKernel.RunQueues
import TaskKernel.Task
import Std.Data.ExtTreeMap

/-!
# The dispatcher

The dispatcher owns every task and decides which one runs. Its operations only keep the books: one
that needs the processor to move to another task says so in its answer, and the caller carries it
out.

This module holds the state, the questions that can be asked about it, and the changes to it that
cannot fail. In every state

* the *executing* task is the first one of the active level;
* a change of level that may call for another active level is noted in `reselect` and takes
  effect when the executing task next gives way.
-/

namespace TaskKernel

/-- A context switch on which the dispatcher decided. -/
structure Switch where
  /-- The task to go on with. -/
  next : TaskId
  /-- The task that gives way. -/
  current : TaskId
  deriving DecidableEq, Repr

/-- The state of the dispatcher. -/
structure Dispatcher where
  config : Config
  platform : Platform
  /-- Where stacks come from. -/
  arena : Arena
  /-- The live tasks. -/
  tasks : Std.ExtTreeMap TaskId Task
  /-- The number of the newest task. -/
  newest : Nat
  queues : RunQueues
  /-- The active level. -/
  active : Level
  /-- Whether the active level has to be chosen anew when the executing task gives way. -/
  reselect : Bool
  /-- How the finished tasks ended of whom nobody has asked yet. -/
  exitCodes : Std.ExtTreeMap TaskId Int32
  /-- Who waits for a task to end, in the order of asking. -/
  waiters : Std.ExtTreeMap TaskId (List TaskId)
  /-- Finished tasks whose stacks may still be in use. -/
  retired : List Task

namespace Dispatcher

/-- How an operation of the dispatcher ends. -/
abbrev Result (α : Type) := Outcome Stop Notice Dispatcher α

/-- A request is refused. -/
def refuse {α : Type} (d : Dispatcher) (cause : Refusal) : Result α := .stop d (.refused cause)

/-- An operation stops on a fault. -/
def fail {α : Type} (d : Dispatcher) (cause : Fault) : Result α := .stop d (.fault cause)

@[simp] theorem answer_refuse {α : Type} (d : Dispatcher) (cause : Refusal) :
    (d.refuse cause : Result α).answer = .error (.refused cause) := rfl

@[simp] theorem state_refuse {α : Type} (d : Dispatcher) (cause : Refusal) :
    (d.refuse cause : Result α).state = d := rfl

@[simp] theorem answer_fail {α : Type} (d : Dispatcher) (cause : Fault) :
    (d.fail cause : Result α).answer = .error (.fault cause) := rfl

@[simp] theorem state_fail {α : Type} (d : Dispatcher) (cause : Fault) :
    (d.fail cause : Result α).state = d := rfl

/-- A dispatcher whose only task is number one, the flow of execution that asks for it. -/
def start (config : Config) (platform : Platform) (arena : Arena) : Dispatcher where
  config
  platform
  arena
  tasks := Std.ExtTreeMap.empty.insert 1 { id := 1, level := Level.highest, running := true }
  newest := 1
  queues := RunQueues.empty.pushBack Level.highest 1
  active := Level.highest
  reselect := false
  exitCodes := Std.ExtTreeMap.empty
  waiters := Std.ExtTreeMap.empty
  retired := []

/-! ## Questions -/

/-- A live task. -/
def find? (d : Dispatcher) (id : TaskId) : Option Task := d.tasks[id]?

/-- The first task of the active level. -/
def executing? (d : Dispatcher) : Option TaskId := d.queues.head? d.active

/-- The executing task. There is none only if the active level is empty, which is a fault. -/
def current (d : Dispatcher) : Except Fault TaskId :=
  match d.executing? with
  | some id => .ok id
  | none => .error (.emptyQueue d.active)

/-- Go on with the executing task. -/
def withCurrent {α : Type} (d : Dispatcher) (act : TaskId → Result α) : Result α :=
  match d.current with
  | .ok id => act id
  | .error cause => d.fail cause

/-- The runnable tasks of a level in the order of their turns. A level that does not exist has none.
-/
def runnable (d : Dispatcher) (level : Nat) : List TaskId :=
  if h : level < 4 then d.queues.get ⟨level, h⟩ else []

/-- The saved context of a task that is live or has just finished. -/
def context? (d : Dispatcher) (id : TaskId) : Option Context :=
  match d.tasks[id]? with
  | some task => some task.context
  | none => (d.retired.find? (·.id = id)).map (·.context)

/-- A task, if it has a context with which the processor can go on. -/
def resumable? (d : Dispatcher) (id : TaskId) : Option TaskId := (d.context? id).map fun _ => id

/-! ## Changes that cannot fail -/

/-- Keep a task under its number. -/
def store (d : Dispatcher) (id : TaskId) (task : Task) : Dispatcher :=
  { d with tasks := d.tasks.insert id task }

/-- Change a live task. -/
def modifyTask (d : Dispatcher) (id : TaskId) (f : Task → Task) : Dispatcher :=
  match d.tasks[id]? with
  | some task => d.store id (f task)
  | none => d

/-- Release the finished tasks. Nobody executes on their stacks any more. -/
def release (d : Dispatcher) : Dispatcher := { d with retired := [] }

/-- The executing task gives way: it goes behind the others of its level, or out of the queue if it
does not `stay`. Then the active level is chosen anew if that is due or its queue ran empty. -/
def rotate (d : Dispatcher) (stay : Bool) : Dispatcher :=
  if d.executing?.isNone then d
  else
    let queues := if stay then d.queues.rotate d.active else d.queues.dropHead d.active
    if d.reselect || (queues.get d.active).isEmpty then
      { d with
        queues
        reselect := false
        active := queues.highest?.getD d.active }
    else
      { d with queues }

end Dispatcher

end TaskKernel
