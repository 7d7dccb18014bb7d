import TaskKernel.Proofs.TaskByTask

/-!
# What a tick does to the tasks

When a timer expires, its task is told, or the console is told that the task is gone; the
scheduler's timer arms itself again, and nobody is told (`expire_eq`). None of this makes the other
depend on it:

* which timers expire in a tick can be told from the timers alone (`Timers.elapsing`);
* a tick tells the tasks of just these, in order, and the console of those whose tasks are gone
  (`tasks_tick`);
* so each task hears in one go what is for it (`getElem?_tick`).
-/

namespace TaskKernel

/-- The message that tells a task that its timer expired. Of the scheduler's timer nobody is told.
-/
def Timer.message? (timer : Timer) : Option Message :=
  match timer.purpose with
  | .schedule => none
  | .user value => some { payload := .timeout timer.timeout value timer.label }

/-- Whether the timer is the scheduler's. -/
def Timer.periodic (timer : Timer) : Bool :=
  match timer.purpose with
  | .schedule => true
  | .user _ => false

theorem Timer.isSome_message? (timer : Timer) : timer.message?.isSome = !timer.periodic := by
  unfold Timer.message? Timer.periodic
  cases timer.purpose with
  | schedule => rfl
  | user value => rfl

/-- The messages for one task when some timers expire in order. -/
def Timer.mailFor (id : TaskId) (timers : List Timer) : List Message :=
  (timers.filter (·.target = id)).filterMap Timer.message?

theorem Timer.mailFor_cons (id : TaskId) (timer : Timer) (rest : List Timer) :
    Timer.mailFor id (timer :: rest) =
      (if timer.target = id then timer.message?.toList else []) ++ Timer.mailFor id rest := by
  unfold Timer.mailFor
  by_cases hid : timer.target = id
  · cases hmessage : timer.message? with
    | none => simp [hid, hmessage]
    | some message => simp [hid, hmessage]
  · simp [hid]

namespace Timers

/-- A timer that has expired arms itself again if it is the scheduler's. -/
def renew (t : Timers) (timer : Timer) : Except Fault Timers :=
  match timer.purpose with
  | .schedule => t.armSchedule timer.target timer.label
  | .user _ => .ok t

/-- The timers that expire when the first `n` armed ones do, in order. None follows one that cannot
be armed again. -/
def expiring (t : Timers) : (n : Nat) → List Timer
  | 0 => []
  | n + 1 =>
    match t.armed with
    | [] => []
    | timer :: rest =>
      timer :: match { t with armed := rest }.renew timer with
        | .ok t => t.expiring n
        | .error _ => []

/-- The timers that expire in a tick, in order. -/
def elapsing (t : Timers) : List Timer :=
  match Word.add t.now 1 with
  | .ok now => { t with now }.expiring { t with now }.dueCount
  | .error _ => []

end Timers

namespace Dispatcher

variable {d : Dispatcher} {id : TaskId} {message : Message} {task : Task}

/-! ## One timer -/

theorem send_of_live (hlive : d.tasks[id]? = some task) (message : Message) :
    ∃ d', d.send id message = .done d' () := by
  unfold send
  simp only [hlive]
  unfold wake wakeAt
  simp only [Config.grantLevel?, getElem?_store, if_true]
  exact ⟨_, rfl⟩

theorem send_of_gone (hgone : d.tasks[id]? = none) (message : Message) :
    d.send id message = d.refuse .noSuchTask := by
  unfold send
  simp only [hgone]

theorem send_of_error {cause : Stop} (h : (d.send id message).answer = .error cause) :
    d.send id message = d.refuse .noSuchTask := by
  cases hid : d.tasks[id]? with
  | none => exact send_of_gone hid message
  | some task =>
      obtain ⟨d', hsent⟩ := send_of_live hid message
      rw [hsent] at h
      exact nomatch h

/-- The task of a timer that expires is told, if it is live. -/
def remind (d : Dispatcher) (timer : Timer) : Dispatcher :=
  match timer.message? with
  | none => d
  | some message => (d.send timer.target message).state

/-- What the console is told of a timer that expires: that its task is gone, if it is. -/
def unheard (d : Dispatcher) (timer : Timer) : List Notice :=
  if timer.periodic = false ∧ timer.target ∉ d.tasks then
    [.timerDropped timer.label timer.target .noSuchTask]
  else []

theorem getElem?_remind (d : Dispatcher) (timer : Timer) (x : TaskId) :
    (d.remind timer).tasks[x]? = d.tasks[x]?.map (·.hear (Timer.mailFor x [timer])) := by
  unfold remind
  rw [Timer.mailFor_cons]
  cases hmessage : timer.message? with
  | none => simp [Timer.mailFor]
  | some message =>
      simp only
      rw [getElem?_send]
      by_cases hx : timer.target = x
      · simp [hx, Timer.mailFor]
      · simp [hx, Timer.mailFor]

/-- The scheduler's timer tells nobody, and one whose task is gone cannot. -/
theorem remind_of_idle {timer : Timer} (hidle : timer.periodic = true ∨ timer.target ∉ d.tasks) :
    d.remind timer = d := by
  unfold remind
  cases hmessage : timer.message? with
  | none => rfl
  | some message =>
      have huser : timer.periodic = false := by
        rw [← Bool.not_eq_true', ← Timer.isSome_message?, hmessage]
        rfl
      have hgone := hidle.resolve_left (by simp [huser])
      simp only
      rw [send_of_gone (Std.ExtTreeMap.getElem?_eq_none hgone), state_refuse]

/-! ## Several timers -/

/-- Each task hears what is for it. -/
theorem getElem?_remindAll (d : Dispatcher) (timers : List Timer) (x : TaskId) :
    (timers.foldl remind d).tasks[x]? = d.tasks[x]?.map (·.hear (Timer.mailFor x timers)) := by
  induction timers generalizing d with
  | nil => simp [Timer.mailFor]
  | cons timer rest ih =>
      have hsplit : Timer.mailFor x (timer :: rest) =
          Timer.mailFor x [timer] ++ Timer.mailFor x rest := by
        rw [Timer.mailFor_cons, Timer.mailFor_cons x timer []]
        simp [Timer.mailFor]
      rw [List.foldl_cons, ih, getElem?_remind, Option.map_map, hsplit]
      refine congrArg (Option.map · d.tasks[x]?) (funext fun task => ?_)
      exact (task.hear_append _ _).symm

theorem remindAll_of_idle {timers : List Timer}
    (hidle : ∀ timer ∈ timers, timer.periodic = true ∨ timer.target ∉ d.tasks) :
    timers.foldl remind d = d := by
  induction timers with
  | nil => rfl
  | cons timer rest ih =>
      obtain ⟨hfirst, hrest⟩ := List.forall_mem_cons.mp hidle
      rw [List.foldl_cons, remind_of_idle hfirst]
      exact ih hrest

/-- Tasks are told of their own timers only. -/
theorem remindAll_filter (d : Dispatcher) (timers : List Timer) :
    (timers.filter (!·.periodic)).foldl remind d = timers.foldl remind d := by
  rw [List.foldl_filter]
  refine congrArg (List.foldl · d timers) (funext fun d => funext fun timer => ?_)
  by_cases hperiodic : timer.periodic = true
  · rw [if_neg (by simp [hperiodic]), remind_of_idle (.inl hperiodic)]
  · rw [if_pos (by simp [hperiodic])]

theorem mem_remind (timer : Timer) : id ∈ (d.remind timer).tasks ↔ id ∈ d.tasks := by
  simp only [mem_tasks_iff, getElem?_remind, Option.map_eq_some_iff]
  constructor
  · rintro ⟨_, task, hlive, _⟩
    exact ⟨task, hlive⟩
  · rintro ⟨task, hlive⟩
    exact ⟨_, task, hlive, rfl⟩

theorem unheard_remind (d : Dispatcher) (timer other : Timer) :
    (d.remind timer).unheard other = d.unheard other := by
  unfold unheard
  simp only [mem_remind]

end Dispatcher

namespace Scheduler

open Dispatcher

/-- What becomes of a timer that expires. -/
theorem expire_eq (s : Scheduler) (timer : Timer) :
    s.expire timer =
      { answer := ((s.timers.renew timer).map fun _ => timer.periodic).mapError .fault
        state := {
          tasks := s.tasks.remind timer
          timers := (s.timers.renew timer).toOption.getD s.timers }
        events := s.tasks.unheard timer } := by
  unfold expire Timers.renew remind unheard Timer.message? Timer.periodic
  cases timer.purpose with
  | schedule =>
      unfold onTimers
      simp only
      cases s.timers.armSchedule timer.target timer.label with
      | error cause => rfl
      | ok timers => rfl
  | user value =>
      simp only
      cases htarget : s.tasks.tasks[timer.target]? with
      | none =>
          have hgone : timer.target ∉ s.tasks.tasks := by simp [mem_tasks_iff, htarget]
          simp only [onTasks, send_of_gone htarget]
          rw [if_pos ⟨trivial, hgone⟩]
          rfl
      | some task =>
          obtain ⟨d', hsent⟩ := send_of_live htarget
            { payload := .timeout timer.timeout value timer.label }
          have hlive : timer.target ∈ s.tasks.tasks := mem_tasks_iff.mpr ⟨task, htarget⟩
          simp only [onTasks, hsent]
          rw [if_neg fun h => h.2 hlive]
          rfl

/-- The first timer expires, and then the others do. -/
theorem expireFirst_succ {s : Scheduler} {timer : Timer} {rest : List Timer} {timers : Timers}
    (harmed : s.timers.armed = timer :: rest)
    (hrenewed : ({ s.timers with armed := rest } : Timers).renew timer = .ok timers) (n : Nat) :
    s.expireFirst (n + 1) =
      .after (s.tasks.unheard timer)
        ((({ tasks := s.tasks.remind timer, timers } : Scheduler).expireFirst n).map
          (timer.periodic || ·)) := by
  rw [expireFirst]
  simp only [harmed]
  rw [expire_eq]
  simp only [hrenewed, Except.map, Except.mapError, Except.toOption, Option.getD_some, Outcome.bind]
  rfl

theorem expiring_succ {t timers : Timers} {timer : Timer} {rest : List Timer}
    (harmed : t.armed = timer :: rest)
    (hrenewed : ({ t with armed := rest } : Timers).renew timer = .ok timers) (n : Nat) :
    t.expiring (n + 1) = timer :: timers.expiring n := by
  rw [Timers.expiring]
  simp only [harmed, hrenewed]

/-- The first timers expire: their tasks are told, in order, and the console of those that are gone.
-/
theorem tasks_expireFirst (s : Scheduler) (n : Nat) :
    (s.expireFirst n).state.tasks = (s.timers.expiring n).foldl remind s.tasks ∧
      (s.expireFirst n).events = (s.timers.expiring n).flatMap s.tasks.unheard := by
  induction n generalizing s with
  | zero => exact ⟨rfl, rfl⟩
  | succ n ih =>
      cases harmed : s.timers.armed with
      | nil =>
          rw [expireFirst, Timers.expiring]
          simp only [harmed]
          exact ⟨rfl, rfl⟩
      | cons timer rest =>
          cases hrenewed : ({ s.timers with armed := rest } : Timers).renew timer with
          | error cause =>
              rw [expireFirst, Timers.expiring]
              simp only [harmed]
              rw [expire_eq]
              simp [hrenewed, Outcome.bind, Except.map, Except.mapError]
          | ok timers =>
              obtain ⟨htasks, hevents⟩ := ih { tasks := s.tasks.remind timer, timers }
              rw [expireFirst_succ harmed hrenewed, expiring_succ harmed hrenewed,
                List.foldl_cons, List.flatMap_cons]
              -- Telling one task does not decide whether another one is live.
              refine ⟨htasks, congrArg _ (hevents.trans ?_)⟩
              rw [funext (unheard_remind s.tasks timer)]

/-- The timers that expire in an operation. -/
def expired (s : Scheduler) : Operation → List Timer
  | .tick => s.timers.elapsing
  | _ => []

theorem tasks_tick (s : Scheduler) :
    s.tick.state.tasks = s.timers.elapsing.foldl remind s.tasks ∧
      s.tick.events = s.timers.elapsing.flatMap s.tasks.unheard := by
  unfold tick Timers.elapsing
  cases Word.add s.timers.now 1 with
  | error cause => exact ⟨rfl, rfl⟩
  | ok now => exact tasks_expireFirst { s with timers := { s.timers with now } } _

/-- In a tick each task hears what is for it. -/
theorem getElem?_tick (s : Scheduler) (x : TaskId) :
    s.tick.state.tasks.tasks[x]? =
      s.tasks.tasks[x]?.map (·.hear (Timer.mailFor x s.timers.elapsing)) := by
  rw [(tasks_tick s).1, getElem?_remindAll]

end Scheduler

end TaskKernel
