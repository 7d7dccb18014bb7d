import TaskKernel.Proofs.Expiry
import Mathlib.Data.List.Induction

/-!
# No message is lost

A message that a task is sent, or that a timer brings it, is `accepted` for it; one that it gets out
of its mailbox is `received` by it. Each operation obeys the law of a queue (`mail_perform`):

    received ++ mailbox afterwards = mailbox before ++ accepted

unless it ends the task. So what was accepted over a whole history is, in this order, what was
received and what still waits (`conserved_run`): nothing is lost, doubled or overtaken, whoever
sends, whatever else is done, and whether or not operations stop on faults.
-/

namespace TaskKernel

namespace Dispatcher

variable {d d' : Dispatcher} {id x : TaskId} {task : Task}

/-- The messages that wait for a task. None do for a task that is not live. -/
def mail (d : Dispatcher) (id : TaskId) : List Message :=
  d.tasks[id]?.elim [] (·.mailbox.messages)

theorem mail_of_live (h : d.tasks[x]? = some task) : d.mail x = task.mailbox.messages := by
  rw [mail, h, Option.elim_some]

theorem mail_of_gone (h : d.tasks[x]? = none) : d.mail x = [] := by
  rw [mail, h, Option.elim_none]

/-! ## Operations that leave the mailboxes alone -/

/-- A change to the task, if it is live, that does not concern its mailbox. -/
theorem mail_of_map {f : Task → Task} (h : d'.tasks[x]? = d.tasks[x]?.map f)
    (hmailbox : ∀ task, (f task).mailbox = task.mailbox) : d'.mail x = d.mail x := by
  rw [mail, mail, h]
  cases d.tasks[x]? with
  | none => rfl
  | some task => exact congrArg Mailbox.messages (hmailbox task)

theorem mail_of_ite {p : Prop} [Decidable p] {f : Task → Task}
    (h : d'.tasks[x]? = if p then d.tasks[x]?.map f else d.tasks[x]?)
    (hmailbox : ∀ task, (f task).mailbox = task.mailbox) : d'.mail x = d.mail x := by
  by_cases hp : p
  · rw [if_pos hp] at h
    exact mail_of_map h hmailbox
  · rw [if_neg hp] at h
    rw [mail, h, mail]

theorem Plainly.mail (h : d.Plainly d') (haccounted : d.Accounted) (x : TaskId) :
    d'.mail x = d.mail x := by
  cases hx : d.tasks[x]? with
  | some task =>
      obtain ⟨kept, hkept, hmailbox, _⟩ := h.keeps haccounted hx
      rw [mail_of_live hx, mail_of_live hkept, hmailbox]
  | none =>
      rw [mail_of_gone hx]
      have hgone : x ∉ d.tasks := by simp [mem_tasks_iff, hx]
      -- Either it is still not live, or it has come to live with an empty mailbox.
      cases hx' : d'.tasks[x]? with
      | none => exact mail_of_gone hx'
      | some task =>
          rw [mail_of_live hx', h.born haccounted hgone hx']
          rfl

theorem mail_suspend (d : Dispatcher) (id x : TaskId) : (d.suspend id).state.mail x = d.mail x :=
  mail_of_ite (getElem?_suspend d id x) fun _ => rfl

theorem mail_awaitExit (d : Dispatcher) (waiter target x : TaskId) :
    (d.awaitExit waiter target).state.mail x = d.mail x :=
  mail_of_ite (getElem?_awaitExit d waiter target x) fun _ => rfl

theorem mail_preempt (d : Dispatcher) (saved : Context) (x : TaskId) :
    (d.preempt saved).2.mail x = d.mail x :=
  mail_of_ite (getElem?_preempt d saved x) fun _ => rfl

/-- The end of another task. -/
theorem mail_exit (hx : d.executing? ≠ some x) (code : Int32) :
    (d.exit code).state.mail x = d.mail x := by
  cases hexecuting : d.executing? with
  | none =>
      rw [exit_of_none hexecuting]
      rfl
  | some id =>
      have hother : id ≠ x := fun h => hx (h ▸ hexecuting)
      have hrecord := getElem?_exit hexecuting code x
      rw [if_neg hother] at hrecord
      exact mail_of_ite hrecord fun _ => rfl

/-! ## Operations on messages -/

theorem mail_of_hear {messages : List Message}
    (h : d'.tasks[x]? = d.tasks[x]?.map (·.hear messages)) :
    d'.mail x = d.mail x ++ if x ∈ d.tasks then messages else [] := by
  rw [mail, mail, h]
  cases hx : d.tasks[x]? with
  | none =>
      have hgone : x ∉ d.tasks := by simp [mem_tasks_iff, hx]
      rw [if_neg hgone]
      rfl
  | some task =>
      rw [if_pos (mem_tasks_iff.mpr ⟨task, hx⟩)]
      rfl

theorem mail_send (d : Dispatcher) (id : TaskId) (message : Message) (x : TaskId) :
    (d.send id message).state.mail x =
      d.mail x ++ if id = x ∧ x ∈ d.tasks then [message] else [] := by
  have hrecord := getElem?_send d id message x
  by_cases hid : id = x
  · rw [if_pos hid] at hrecord
    rw [mail_of_hear hrecord]
    simp only [hid, true_and]
  · rw [if_neg hid] at hrecord
    rw [if_neg fun h => hid h.1, List.append_nil, mail, hrecord, mail]

theorem answer_send (d : Dispatcher) (id : TaskId) (message : Message) :
    (d.send id message).answer =
      if id ∈ d.tasks then .ok () else .error (.refused .noSuchTask) := by
  cases hlive : d.tasks[id]? with
  | none =>
      rw [send_of_gone hlive, if_neg (by simp [mem_tasks_iff, hlive])]
      rfl
  | some task =>
      obtain ⟨d', hsent⟩ := send_of_live hlive message
      rw [hsent, if_pos (mem_tasks_iff.mpr ⟨task, hlive⟩)]
      rfl

/-- The answer to the request for a message. -/
theorem answer_receive (d : Dispatcher) (id : TaskId) :
    (d.receive id).answer =
      if id ∈ d.tasks then .ok (d.mail id).head? else .error (.refused .noSuchTask) := by
  unfold receive
  cases hlive : d.tasks[id]? with
  | none => rw [if_neg (by simp [mem_tasks_iff, hlive])]; rfl
  | some task =>
      rw [if_pos (mem_tasks_iff.mpr ⟨task, hlive⟩), mail_of_live hlive]
      rfl

theorem mail_receive (d : Dispatcher) (id x : TaskId) :
    (d.receive id).state.mail x = if id = x then (d.mail x).tail else d.mail x := by
  have hrecord := getElem?_receive d id x
  by_cases hid : id = x
  · rw [if_pos hid] at hrecord ⊢
    rw [mail, mail, hrecord]
    cases d.tasks[x]? with
    | none => rfl
    | some task => rfl
  · rw [if_neg hid] at hrecord ⊢
    rw [mail, hrecord, mail]

theorem mail_receiveOrSuspend (d : Dispatcher) (x : TaskId) :
    d.receiveOrSuspend.state.mail x =
      if d.executing? = some x then (d.mail x).tail else d.mail x := by
  have hrecord := getElem?_receiveOrSuspend d x
  by_cases hx : d.executing? = some x
  · rw [if_pos hx] at hrecord ⊢
    rw [mail, mail, hrecord]
    cases d.tasks[x]? with
    | none => rfl
    | some task => rfl
  · rw [if_neg hx] at hrecord ⊢
    rw [mail, hrecord, mail]

/-- The message in a receipt. -/
def Receipt.message? : Receipt → Option Message
  | .message taken => some taken
  | .asleep _ => none

/-- The executing task gets the oldest message that waits for it, if any does. -/
theorem message?_receiveOrSuspend (hx : d.executing? = some x) :
    d.receiveOrSuspend.answer.toOption.bind Receipt.message? = (d.mail x).head? := by
  have h := served d
  generalize d.receiveOrSuspend = outcome at h
  cases h with
  | stranded hnone => exact absurd (hnone.symm.trans hx) (by simp)
  | message hid hlive hmessage =>
      have hself := Option.some.inj (hid.symm.trans hx)
      rw [← hself, mail_of_live hlive]
      exact hmessage.symm
  | gone hid hgone =>
      have hself := Option.some.inj (hid.symm.trans hx)
      rw [← hself, mail_of_gone hgone]
      rfl
  | @slept _ _ outcome hid hlive hmessage =>
      have hself := Option.some.inj (hid.symm.trans hx)
      rw [← hself, mail_of_live hlive, Outcome.answer_map]
      refine Eq.trans ?_ hmessage.symm
      cases outcome.answer with
      | error cause => rfl
      | ok switch => rfl

end Dispatcher

namespace Scheduler

open Dispatcher

variable {s : Scheduler} {operation : Operation} {history : List Operation} {id : TaskId}

/-- The messages that an operation puts into a task's mailbox: one that it is sent, or those of its
timers that expire while it is live. -/
def accepted (id : TaskId) (s : Scheduler) : Operation → List Message
  | .send target message =>
    if target = id ∧ (s.perform (.send target message)).answer = .ok .unit then [message] else []
  | .tick => if id ∈ s.tasks.tasks then Timer.mailFor id (s.expired .tick) else []
  | _ => []

/-- The message in an answer. -/
def Answer.message? : Answer → Option Message
  | .message taken => taken
  | .receipt given => given.message?
  | _ => none

/-- The messages that an operation gets out of a task's mailbox. -/
def received (id : TaskId) (s : Scheduler) : Operation → List Message
  | .receive target =>
    if target = id then ((s.perform (.receive target)).answer.toOption.bind (·.message?)).toList
    else []
  | .receiveOrSuspend =>
    if s.tasks.executing? = some id then
      ((s.perform .receiveOrSuspend).answer.toOption.bind (·.message?)).toList
    else []
  | _ => []

/-! ## One operation -/

theorem mail_perform_of_silent (haccepted : s.accepted id operation = [])
    (hreceived : s.received id operation = [])
    (hsame : (s.perform operation).state.tasks.mail id = s.tasks.mail id) :
    s.received id operation ++ (s.perform operation).state.tasks.mail id =
      s.tasks.mail id ++ s.accepted id operation := by
  rw [haccepted, hreceived, hsame, List.nil_append, List.append_nil]

theorem accepted_send (s : Scheduler) (id target : TaskId) (message : Message) :
    s.accepted id (.send target message) =
      if target = id ∧ id ∈ s.tasks.tasks then [message] else [] := by
  have hanswer : (s.perform (.send target message)).answer =
      (s.tasks.send target message).answer.map fun () => .unit := rfl
  have hlive : (s.perform (.send target message)).answer = .ok .unit ↔ target ∈ s.tasks.tasks := by
    rw [hanswer, answer_send]
    by_cases htarget : target ∈ s.tasks.tasks
    · simp [htarget, Except.map]
    · simp [htarget, Except.map]
  simp only [accepted, hlive]
  by_cases hid : target = id
  · rw [hid]
  · rw [if_neg fun h => hid h.1, if_neg fun h => hid h.1]

theorem received_receive (s : Scheduler) (id target : TaskId) :
    s.received id (.receive target) =
      if target = id then (s.tasks.mail id).head?.toList else [] := by
  have hanswer : (s.perform (.receive target)).answer =
      (s.tasks.receive target).answer.map .message := rfl
  show (if target = id then (Option.bind (Except.toOption _) _).toList else []) = _
  rw [hanswer, answer_receive]
  by_cases hid : target = id
  · rw [if_pos hid, if_pos hid, ← hid]
    by_cases htarget : target ∈ s.tasks.tasks
    · rw [if_pos htarget]
      rfl
    · rw [if_neg htarget, mail_of_gone (Std.ExtTreeMap.getElem?_eq_none htarget)]
      rfl
  · rw [if_neg hid, if_neg hid]

theorem received_receiveOrSuspend (s : Scheduler) (id : TaskId) :
    s.received id .receiveOrSuspend =
      if s.tasks.executing? = some id then (s.tasks.mail id).head?.toList else [] := by
  have hanswer : (s.perform .receiveOrSuspend).answer =
      s.tasks.receiveOrSuspend.answer.map .receipt := rfl
  show (if s.tasks.executing? = some id then (Option.bind (Except.toOption _) _).toList else []) = _
  by_cases hx : s.tasks.executing? = some id
  · rw [if_pos hx, if_pos hx, hanswer, ← message?_receiveOrSuspend hx]
    cases s.tasks.receiveOrSuspend.answer with
    | error cause => rfl
    | ok receipt => rfl
  · rw [if_neg hx, if_neg hx]

/-- What an operation puts into the mailbox of a task comes behind what is there, and what it gets
out comes from the front, unless the task ends. -/
theorem mail_perform (haccounted : s.tasks.Accounted)
    (hlasts : ∀ code, operation = .exit code → s.tasks.executing? ≠ some id) :
    s.received id operation ++ (s.perform operation).state.tasks.mail id =
      s.tasks.mail id ++ s.accepted id operation := by
  cases operation with
  | create | prepare | prepareWith | editContext | launch | wake | startSchedule | armAt
  | armAfter | restock =>
      exact mail_perform_of_silent rfl rfl
        (Plainly.mail (plain_perform s (by trivial)) haccounted id)
  | suspend target => exact mail_perform_of_silent rfl rfl (mail_suspend _ target id)
  | preempt saved => exact mail_perform_of_silent rfl rfl (mail_preempt _ saved id)
  | awaitExit waiter target =>
      exact mail_perform_of_silent rfl rfl (mail_awaitExit _ waiter target id)
  | exit code => exact mail_perform_of_silent rfl rfl (mail_exit (hlasts code rfl) code)
  | send target message =>
      rw [accepted_send]
      exact mail_send s.tasks target message id
  | receive target =>
      show _ ++ (s.tasks.receive target).state.mail id = _ ++ []
      rw [received_receive, mail_receive, List.append_nil]
      by_cases hid : target = id
      · rw [if_pos hid, if_pos hid]
        cases s.tasks.mail id with
        | nil => rfl
        | cons message rest => rfl
      · rw [if_neg hid, if_neg hid, List.nil_append]
  | receiveOrSuspend =>
      show _ ++ s.tasks.receiveOrSuspend.state.mail id = _ ++ []
      rw [received_receiveOrSuspend, mail_receiveOrSuspend, List.append_nil]
      by_cases hx : s.tasks.executing? = some id
      · rw [if_pos hx, if_pos hx]
        cases s.tasks.mail id with
        | nil => rfl
        | cons message rest => rfl
      · rw [if_neg hx, if_neg hx, List.nil_append]
  | tick => exact mail_of_hear (getElem?_tick s id)

/-- A live task stays live, unless the operation ends it. -/
theorem mem_perform (haccounted : s.tasks.Accounted) (hlive : id ∈ s.tasks.tasks)
    (hlasts : ∀ code, operation = .exit code → s.tasks.executing? ≠ some id) :
    id ∈ (s.perform operation).state.tasks.tasks := by
  cases operation with
  | create | prepare | prepareWith | editContext | launch | wake | startSchedule | armAt
  | armAfter | restock =>
      exact Plainly.mem (plain_perform s (by trivial)) haccounted hlive
  | suspend target => exact mem_of_ite (getElem?_suspend _ target id) hlive
  | preempt saved => exact mem_of_ite (getElem?_preempt _ saved id) hlive
  | awaitExit waiter target => exact mem_of_ite (getElem?_awaitExit _ waiter target id) hlive
  | send target message => exact mem_of_ite (getElem?_send _ target message id) hlive
  | receive target => exact mem_of_ite (getElem?_receive _ target id) hlive
  | receiveOrSuspend => exact mem_of_ite (getElem?_receiveOrSuspend _ id) hlive
  | tick => exact mem_of_map (getElem?_tick s id) hlive
  | exit code =>
      show id ∈ (s.tasks.exit code).state.tasks
      cases hexecuting : s.tasks.executing? with
      | none =>
          rw [exit_of_none hexecuting]
          exact hlive
      | some ended =>
          have hother : ended ≠ id := fun h => hlasts code rfl (h ▸ hexecuting)
          have hrecord := getElem?_exit hexecuting code id
          rw [if_neg hother] at hrecord
          exact mem_of_ite hrecord hlive

/-! ## Histories -/

/-- What was accepted for a task that has not ended was received or still waits. -/
theorem conserved_run (haccounted : s.tasks.Accounted) (hnone : s.tasks.mail id = [])
    (hlasts : ¬ (s.run history).tasks.Past id) :
    s.gather (accepted id) history =
      s.gather (received id) history ++ (s.run history).tasks.mail id := by
  induction history using List.reverseRecOn with
  | nil => simp [gather, run_nil, hnone]
  | append_singleton history operation ih =>
      have hkept : (s.run history).tasks.Accounted := haccounted.run history
      rw [run_concat] at hlasts ⊢
      have hbefore : ¬ (s.run history).tasks.Past id := fun hpast => hlasts (hpast.run [operation])
      have hstep : (s.run history).received id operation ++
          ((s.run history).perform operation).state.tasks.mail id =
            (s.run history).tasks.mail id ++ (s.run history).accepted id operation := by
        refine mail_perform hkept ?_
        rintro code rfl hx
        exact hlasts (past_exit hkept hx code)
      rw [gather_concat, gather_concat, ih hbefore, List.append_assoc, List.append_assoc, hstep]

/-- The mailbox of a task is a queue that loses nothing, as long as the task lives. -/
structure Lossless (s : Scheduler) (history : List Operation) (id : TaskId) : Prop where
  /-- What was accepted for the task is what it received, and behind that what still waits. -/
  conserved : ∀ task, (s.run history).tasks.find? id = some task →
    s.gather (accepted id) history = s.gather (received id) history ++ task.mailbox.messages
  /-- A message that is refused is put nowhere. -/
  rejected : ∀ target message cause,
    ((s.run history).perform (.send target message)).answer = .error cause →
      ((s.run history).perform (.send target message)).state = s.run history
  /-- The mailbox changes only by what is accepted and received. -/
  untouched : ∀ operation task, (s.run history).tasks.find? id = some task →
    (∀ code, operation = .exit code → (s.run history).tasks.executing? ≠ some id) →
    (s.run history).accepted id operation = [] → (s.run history).received id operation = [] →
      ∃ task', ((s.run history).perform operation).state.tasks.find? id = some task' ∧
        task'.mailbox = task.mailbox

/-- **No message is lost, doubled or overtaken**: over any history, a live task has received what
was accepted for it, in order, but for what waits in its mailbox. -/
theorem lossless_run (config : Config) (platform : Platform) (arena : Arena)
    (history : List Operation) (id : TaskId) :
    (start config platform arena).Lossless history id := by
  have haccounted := accounted_start config platform arena
  have hkept := accounted_run config platform arena history
  have hnone : (start config platform arena).tasks.mail id = [] := by
    show (Dispatcher.start config platform arena).mail id = []
    rw [mail, getElem?_start]
    by_cases hid : 1 = id
    · rw [if_pos hid]
      rfl
    · rw [if_neg hid]
      rfl
  refine ⟨fun task hlive => ?_, fun target message cause hrefused => ?_,
    fun operation task hlive hlasts haccepted hreceived => ?_⟩
  · have hpresent : ¬ ((start config platform arena).run history).tasks.Past id :=
      fun hpast => hpast.2 (mem_tasks_iff.mpr ⟨task, hlive⟩)
    rw [conserved_run haccounted hnone hpresent, mail_of_live hlive]
  · have hsent := Outcome.answer_map_eq_error_iff.mp hrefused
    simp only [perform, onTasks, Outcome.state_map, Outcome.state_mapState, send_of_error hsent,
      state_refuse]
  · obtain ⟨task', hlive'⟩ :=
      mem_tasks_iff.mp (mem_perform hkept (mem_tasks_iff.mpr ⟨task, hlive⟩) hlasts)
    have hmail := mail_perform hkept hlasts
    rw [haccepted, hreceived, List.nil_append, List.append_nil, mail_of_live hlive,
      mail_of_live hlive'] at hmail
    exact ⟨task', hlive', congrArg Mailbox.mk hmail⟩

end Scheduler

end TaskKernel
