import TaskKernel.Config
import TaskKernel.Context
import TaskKernel.Mailbox
import TaskKernel.Stack

/-!
# Tasks

A task owns its stack, its saved context and its mailbox. Everything else refers to it by its
number.
-/

namespace TaskKernel

/-- What the scheduler keeps of a task. -/
structure Task where
  id : TaskId
  stack : Stack := Stack.empty
  context : Context := Context.zero
  mailbox : Mailbox := Mailbox.empty
  level : Level := Level.standard
  /-- Whether the task stands in a run queue. -/
  running : Bool := false
  deriving DecidableEq

namespace Task

/-- The place and arguments at which a task starts. -/
structure Start where
  entry : UInt64
  first : UInt64
  second : UInt64
  deriving DecidableEq, Repr

/-- Give the task a new stack in `block`, the address of room for a stack of `stackBytes` bytes, and
a context that starts there. A running task is left alone, and so is one for which there is no room.
-/
def prepare (task : Task) (start : Start) (stackBytes : Nat) (platform : Platform)
    (block : Option Nat) : Except Stop Task :=
  if task.running then .error (.refused .alreadyRunning)
  else match block with
    | none => .error (.refused .noStack)
    | some bottom =>
      match Stack.prepare bottom (Stack.wordsFor stackBytes) platform.taskReturn with
      | .error cause => .error (.fault cause)
      | .ok (stack, pointer) =>
        let context :=
          Context.entering platform start.entry start.first start.second (UInt64.ofNat pointer)
        .ok { task with stack, context }

/-- The stack pointer of the saved context. -/
def stackPointer (task : Task) : Nat := (task.context.get .rsp).toNat

/-- Whether the stack pointer lies on the stack and is aligned as after a call. -/
def isAligned (task : Task) : Bool :=
  task.stack.holds task.stackPointer && (task.stackPointer + 8) % 16 == 0

/-- Whether the word at the stack pointer is the platform's return address. -/
def returnsTo (task : Task) (platform : Platform) : Bool :=
  task.stack.holds task.stackPointer &&
    task.stack.read? task.stackPointer == some platform.taskReturn

/-- The form in which diagnostics show a task. -/
def describe (task : Task) : String :=
  "Task \x7b id: TaskId(" ++ toString (task.id : Nat) ++ "), level: " ++ toString task.level.val ++
    ", running: " ++ toString task.running ++
    ", messages: " ++ toString task.mailbox.size ++ " \x7d"

end Task

end TaskKernel
