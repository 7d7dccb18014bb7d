import TaskKernel.Dispatcher.Messages
import TaskKernel.Timers

/-!
# The passing of time

At each tick every timer whose time has come expires, in order. A timer of a task becomes a message
to it; the scheduler's timer arms itself again and tells the caller that a decision is due.
-/

namespace TaskKernel

/-- The dispatcher and the timers. -/
structure Scheduler where
  tasks : Dispatcher
  timers : Timers

namespace Scheduler

/-- How an operation on both ends. -/
abbrev Result (α : Type) := Outcome Stop Notice Scheduler α

/-- One task and no timer. -/
def start (config : Config) (platform : Platform) (arena : Arena) : Scheduler where
  tasks := Dispatcher.start config platform arena
  timers := Timers.start config

/-- Do something to the tasks alone. -/
def onTasks {α : Type} (s : Scheduler) (act : Dispatcher → Dispatcher.Result α) : Result α :=
  (act s.tasks).mapState fun tasks => { s with tasks }

/-- Do something to the timers alone. -/
def onTimers (s : Scheduler) (act : Timers → Except Fault Timers) : Result Unit :=
  match act s.timers with
  | .ok timers => .done { s with timers } ()
  | .error cause => .stop s (.fault cause)

/-- A timer that was armed expires. The answer is whether it was the scheduler's. -/
def expire (s : Scheduler) (timer : Timer) : Result Bool :=
  match timer.purpose with
  | .schedule => (s.onTimers (·.armSchedule timer.target timer.label)).map fun () => true
  | .user value =>
    let message : Message := { payload := .timeout timer.timeout value timer.label }
    let sent := s.onTasks (·.send timer.target message)
    match sent.answer with
    | .ok () => .done sent.state false
    | .error (.refused cause) =>
      .after [.timerDropped timer.label timer.target cause] (.done sent.state false)
    | .error (.fault cause) => .stop sent.state (.fault cause)

/-- The first `n` armed timers expire in order. -/
def expireFirst (s : Scheduler) : (n : Nat) → Result Bool
  | 0 => .done s false
  | n + 1 =>
    match s.timers.armed with
    | [] => .done s false
    | timer :: rest =>
      ({ s with timers := { s.timers with armed := rest } }.expire timer).bind fun first s =>
        (s.expireFirst n).map (first || ·)

/-- One tick passes. The answer is whether the scheduler has to decide who runs. -/
def tick (s : Scheduler) : Result Bool :=
  match Word.add s.timers.now 1 with
  | .error cause => .stop s (.fault cause)
  | .ok now =>
    let s := { s with timers := { s.timers with now } }
    s.expireFirst s.timers.dueCount

/-- Several ticks pass. The answer is the list of those at which a decision was due. -/
def ticks (s : Scheduler) : (n : Nat) → Result (List Nat)
  | 0 => .done s []
  | n + 1 =>
    s.tick.bind fun due s =>
      (s.ticks n).map fun later => if due then s.timers.now :: later else later

end Scheduler

end TaskKernel
