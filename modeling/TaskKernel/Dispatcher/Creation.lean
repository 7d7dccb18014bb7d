import TaskKernel.Dispatcher.Runnable

/-!
# New tasks and their contexts

A task is created asleep and without a stack. It can run once it has a context to start from.
-/

namespace TaskKernel.Dispatcher

/-- A new sleeping task. Finished tasks are released first. -/
def create (d : Dispatcher) : Result TaskId :=
  let d := d.release
  match Word.add d.newest 1 with
  | .error cause => d.fail cause
  | .ok id => .done ({ d with newest := id }.store id { id }) id

/-- Give a task a stack of a certain size and a context that starts there. -/
def prepareWith (d : Dispatcher) (id : TaskId) (start : Task.Start) (stackBytes : Nat) :
    Result Unit :=
  match d.tasks[id]? with
  | none => d.refuse .noSuchTask
  | some task =>
    let room := d.arena.reserve (Stack.wordsFor stackBytes)
    match task.prepare start stackBytes d.platform (room.map (·.1)) with
    | .error cause => .stop d cause
    | .ok task => .done ({ d with arena := room.elim d.arena (·.2) }.store id task) ()

/-- Give a task a stack of the configured size and a context that starts there. -/
def prepare (d : Dispatcher) (id : TaskId) (start : Task.Start) : Result Unit :=
  d.prepareWith id start d.config.stackBytes

/-- Create a task that runs `entry` with its own number and `data`, and make it runnable. A task
for which there is no stack is given up again; its number stays used. -/
def launch (d : Dispatcher) (entry data : UInt64) (level : Option Nat) : Result TaskId :=
  match d.config.grantLevel? level with
  | .error cause => d.refuse cause
  | .ok level =>
    d.create.bind fun id d =>
      let ready := d.prepare id { entry, first := UInt64.ofNat id, second := data }
      match ready.answer with
      | .error (.refused cause) =>
        ({ ready.state with tasks := ready.state.tasks.erase id } : Dispatcher).refuse cause
      | .error (.fault cause) => ready.state.fail cause
      | .ok () =>
        match ready.state.wakeAt id level with
        | .error cause => ready.state.refuse cause
        | .ok d =>
          let level := (d.find? id).elim Level.standard (·.level)
          .after [.launched id level] (.done d id)

end TaskKernel.Dispatcher
