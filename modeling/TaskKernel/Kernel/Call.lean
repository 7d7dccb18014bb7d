import TaskKernel.Kernel.Methods

/-!
# Calls as data

Everything that can be asked of the kernel from outside, one call at a time, and the uses of its
parts within which further calls are made. Between two calls, and within a use, the rest of the
program may take memory and give it back, which is a call here, too.
-/

namespace TaskKernel.Kernel

/-- A call of one of the kernel's methods. -/
inductive Call where
  | create
  | prepare (id : TaskId) (start : Task.Start)
  | launch (entry data : UInt64) (level : Option Nat)
  | wake (id : TaskId) (level : Option Nat)
  | suspend (id : TaskId)
  | suspendCurrent
  | current
  | exit (code : Int32)
  | awaitExit (target : TaskId)
  | send (id : TaskId) (message : Message)
  | receive (id : TaskId)
  | awaitMessage
  | armAt (timeout : Nat) (value : Int32) (target : TaskId) (label : String)
  | armAfter (delay : Nat) (value : Int32) (target : TaskId) (label : String)
  | now
  | tick
  | preempt (saved : Context)
  | giveFocus (id : Option TaskId)
  | focused
  | restock (arena : Arena)
  deriving DecidableEq

/-- The value that a call returns. -/
inductive Answer where
  | unit
  | task (id : TaskId)
  | taken (message : Option Message)
  | message (message : Message)
  | code (code : Int32)
  | tick (tick : Nat)
  /-- Whether the scheduler has to decide who runs. -/
  | due (due : Bool)
  | focus (id : Option TaskId)
  deriving DecidableEq

/-- Carry out a call. -/
def Call.perform : Call → Method Answer
  | .create => .task <$> Kernel.create
  | .prepare id start => (fun () => .unit) <$> Kernel.prepare id start
  | .launch entry data level => .task <$> Kernel.launch entry data level
  | .wake id level => (fun () => .unit) <$> Kernel.wake id level
  | .suspend id => (fun () => .unit) <$> Kernel.suspend id
  | .suspendCurrent => (fun () => .unit) <$> Kernel.suspendCurrent
  | .current => .task <$> Kernel.current
  | .exit code => (fun never => nomatch never) <$> Kernel.exit code
  | .awaitExit target => .code <$> Kernel.awaitExit target
  | .send id message => (fun () => .unit) <$> Kernel.send id message
  | .receive id => .taken <$> Kernel.receive id
  | .awaitMessage => .message <$> Kernel.awaitMessage
  | .armAt timeout value target label =>
    (fun () => .unit) <$> Kernel.armAt timeout value target label
  | .armAfter delay value target label =>
    (fun () => .unit) <$> Kernel.armAfter delay value target label
  | .now => .tick <$> Kernel.now
  | .tick => .due <$> Kernel.tick
  | .preempt saved => (fun () => .unit) <$> Kernel.preempt saved
  | .giveFocus id => (fun () => .unit) <$> Kernel.giveFocus id
  | .focused => .focus <$> Kernel.focused
  | .restock arena => (fun () => .unit) <$> Kernel.restock arena

/-- Calls, in order, and what is done while a part of the kernel is in use. -/
inductive Script where
  | call (call : Call)
  /-- The answer is that of the second part. -/
  | andThen (first second : Script)
  /-- Everything inside happens while the part is in use and interrupts are off. -/
  | within (part : Part) (inside : Script)
  deriving DecidableEq

/-- Carry out a script. -/
def Script.perform : Script → Method Answer
  | .call c => c.perform
  | .andThen first second => do
    let _ ← first.perform
    second.perform
  | .within part inside => masked (use part inside.perform)

end TaskKernel.Kernel
