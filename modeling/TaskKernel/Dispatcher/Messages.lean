import TaskKernel.Dispatcher.Runnable

/-!
# Messages between tasks

Sending wakes the receiver. A receiver that finds no message can fall asleep in the same step, so
that no message comes in between.
-/

namespace TaskKernel.Dispatcher

/-- Put a message into a task's mailbox and make the task runnable. -/
def send (d : Dispatcher) (id : TaskId) (message : Message) : Result Unit :=
  match d.tasks[id]? with
  | none => d.refuse .noSuchTask
  | some task =>
    (d.store id { task with mailbox := task.mailbox.push message }).wake id none

/-- Take the oldest message out of a task's mailbox. -/
def receive (d : Dispatcher) (id : TaskId) : Result (Option Message) :=
  match d.tasks[id]? with
  | none => d.refuse .noSuchTask
  | some task =>
    let (message, mailbox) := task.mailbox.pop
    .done (d.store id { task with mailbox }) message

/-- What the executing task finds when it wants a message. -/
inductive Receipt where
  /-- The oldest message. -/
  | message (message : Message)
  /-- There was none, and the task fell asleep. -/
  | asleep (switch : Option Switch)
  deriving DecidableEq

/-- The executing task takes its oldest message, or falls asleep if there is none. -/
def receiveOrSuspend (d : Dispatcher) : Result Receipt :=
  d.withCurrent fun current =>
    let received := d.receive current
    match received.answer with
    | .ok (some message) => .done received.state (.message message)
    | _ =>
      let slept := received.state.suspend current
      match slept.answer with
      | .ok switch => .done slept.state (.asleep switch)
      | .error (.refused _) => .done slept.state (.asleep none)
      | .error (.fault cause) => slept.state.fail cause

end TaskKernel.Dispatcher
