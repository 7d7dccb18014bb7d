import TaskKernel.Proofs.Consistency
import TaskKernel.Proofs.Expiry
import TaskKernel.Proofs.FirstStack
import TaskKernel.Proofs.Requests

/-!
# A refused request leaves no trace

An operation that is refused was refused before it did anything, with two exceptions. Before a sleep
and before a new task the finished tasks are released, and a new task for which there is no stack
has been given a number. Everything else is as it was, in every state that can be reached
(`state_perform_of_refused`).

A question how a task ended, a message and the end of a task never come to be refused after they
were noted: whom they concern was found to be live before.

For want of a stack nothing is refused for good. A history may bring other memory between two
requests, so it may answer each of them with any block or with none (`answer_prepareWith_restock`).
-/

namespace TaskKernel

namespace Dispatcher

variable {d : Dispatcher} {id x waiter target : TaskId} {cause : Refusal}

/-! ## Requests that are checked first -/

theorem state_wake_of_refused {level : Option Nat}
    (h : (d.wake id level).answer = .error (.refused cause)) : (d.wake id level).state = d := by
  have hwoken := woken d id level
  generalize d.wake id level = outcome at h hwoken ⊢
  cases hwoken with
  | refused => rfl
  | roused | moved => simp at h

theorem state_send_of_error {message : Message} {cause : Stop}
    (h : (d.send id message).answer = .error cause) : (d.send id message).state = d := by
  rw [send_of_error h]
  rfl

theorem state_receive_of_error {cause : Stop} (h : (d.receive id).answer = .error cause) :
    (d.receive id).state = d := by
  unfold receive at h ⊢
  cases hlive : d.tasks[id]? with
  | none => rfl
  | some task => simp [hlive] at h

theorem Suspended.state_of_refused {outcome : Result (Option Switch)} (h : d.Suspended id outcome)
    (hrefused : outcome.answer = .error (.refused cause)) :
    d.tasks[id]? = none ∧ outcome.state = d.release := by
  cases h with
  | gone hgone => exact ⟨hgone, rfl⟩
  | asleep | dropped | turned | stranded => simp at hrefused

/-- Who asks is live, so it is not refused to fall asleep when it has been noted. -/
theorem Inquired.state_of_refused {outcome : Result Awaited} (h : d.Inquired waiter target outcome)
    (hrefused : outcome.answer = .error (.refused cause)) : outcome.state = d := by
  cases h with
  | told => simp at hrefused
  | refused => rfl
  | blocked _ _ hwaiter hsuspended =>
      rw [Outcome.answer_map_eq_error_iff] at hrefused
      obtain ⟨hgone, _⟩ := hsuspended.state_of_refused hrefused
      obtain ⟨task, hlive⟩ := mem_tasks_iff.mp hwaiter
      exact absurd (hgone.symm.trans hlive) (by simp)

/-- A number that is still to be given out is nobody's, so taking its task away takes nobody away. -/
theorem Accounted.erase_fresh (h : d.Accounted) : d.tasks.erase (d.newest + 1) = d.tasks := by
  apply Std.ExtTreeMap.ext_getElem?
  intro x
  simp only [Std.ExtTreeMap.getElem?_erase, Nat.compare_eq_eq]
  by_cases hx : d.newest + 1 = x
  · rw [if_pos hx, ← hx, Std.ExtTreeMap.getElem?_eq_none h.fresh]
  · rw [if_neg hx]

/-- A task for which there is no stack has only used up a number. -/
theorem Launched.state_of_refused {entry data : UInt64} {level : Option Nat}
    {outcome : Result TaskId} (h : d.Launched entry data level outcome) (haccounted : d.Accounted)
    (hrefused : outcome.answer = .error (.refused cause)) :
    outcome.state = d ∨
      cause = .noStack ∧ outcome.state = { d.release with newest := d.newest + 1 } := by
  cases h with
  | denied => exact .inl rfl
  | full | broken | done => simp at hrefused
  | discarded =>
      have hcause : cause = .noStack := by
        simp only [answer_refuse, Except.error.injEq, Stop.refused.injEq] at hrefused
        exact hrefused.symm
      right
      rw [state_refuse, haccounted.erase_fresh]
      exact ⟨hcause, rfl⟩

/-! ## Operations that are never refused -/

theorem create_ne_refused (d : Dispatcher) (cause : Refusal) :
    d.create.answer ≠ .error (.refused cause) := by
  by_cases hfits : d.newest + 1 < Word.size
  · rw [create_done hfits]
    simp
  · rw [create_full hfits]
    simp

theorem Served.ne_refused {outcome : Result Receipt} (h : d.Served outcome) (cause : Refusal) :
    outcome.answer ≠ .error (.refused cause) := by
  intro hrefused
  cases h with
  | stranded | message | gone => simp at hrefused
  | @slept id task _ _ _ _ hsuspended =>
      -- Its own mailbox was searched, so it is live.
      rw [Outcome.answer_map_eq_error_iff] at hrefused
      obtain ⟨hgone, _⟩ := hsuspended.state_of_refused hrefused
      rw [getElem?_store, if_pos rfl] at hgone
      exact absurd hgone (by simp)

theorem exit_ne_refused (d : Dispatcher) (code : Int32) (cause : Refusal) :
    (d.exit code).answer ≠ .error (.refused cause) := by
  cases hx : d.executing? with
  | none =>
      rw [exit_of_none hx]
      simp
  | some id =>
      rw [exit_of_executing hx]
      cases hnext : ((d.conclude id code).wakeAll (d.awaiting id)).executing? with
      | none => simp [withCurrent_of_none hnext]
      | some next => simp [withCurrent_of_executing hnext]

end Dispatcher

namespace Scheduler

open Dispatcher

variable {s : Scheduler} {operation : Operation} {cause : Refusal}

theorem onTimers_ne_refused (s : Scheduler) (act : Timers → Except Fault Timers)
    (cause : Refusal) : (s.onTimers act).answer ≠ .error (.refused cause) := by
  unfold onTimers
  split
  · simp
  · simp

theorem expire_ne_refused (s : Scheduler) (timer : Timer) (cause : Refusal) :
    (s.expire timer).answer ≠ .error (.refused cause) := by
  rw [expire_eq]
  cases s.timers.renew timer with
  | error fault => simp [Except.map, Except.mapError]
  | ok timers => simp [Except.map, Except.mapError]

theorem tick_ne_refused (s : Scheduler) (cause : Refusal) :
    s.tick.answer ≠ .error (.refused cause) := by
  unfold tick
  cases Word.add s.timers.now 1 with
  | error fault => simp
  | ok now => exact expireFirst_ne_error (expire_ne_refused · · cause) _ _

/-- **A refused operation leaves no trace** but for finished tasks that were released, and for the
number of a task that was given up for want of a stack. -/
theorem state_perform_of_refused (hs : s.Reachable) (operation : Operation) (cause : Refusal)
    (h : (s.perform operation).answer = .error (.refused cause)) :
    (s.perform operation).state = s ∨
      (∃ id, operation = .suspend id) ∧
        (s.perform operation).state = { s with tasks := s.tasks.release } ∨
      (∃ entry data level, operation = .launch entry data level) ∧ cause = .noStack ∧
        (s.perform operation).state =
          { s with tasks := { s.tasks.release with newest := s.tasks.newest + 1 } } := by
  have restored : ∀ {tasks : Dispatcher}, tasks = s.tasks → ({ s with tasks } : Scheduler) = s := by
    rintro _ rfl
    rfl
  cases operation with
  | create => exact absurd (Outcome.answer_map_eq_error_iff.mp h) (create_ne_refused _ cause)
  | prepare target start =>
      exact .inl (restored (state_prepareWith_of_error (Outcome.answer_map_eq_error_iff.mp h)))
  | prepareWith target start stackBytes =>
      exact .inl (restored (state_prepareWith_of_error (Outcome.answer_map_eq_error_iff.mp h)))
  | editContext target edits =>
      left
      unfold perform at h ⊢
      cases hlive : s.tasks.find? target with
      | none => simp only [hlive]; rfl
      | some task => simp [hlive] at h
  | launch entry data level =>
      have hrefused := Outcome.answer_map_eq_error_iff.mp h
      rcases (launched s.tasks entry data level).state_of_refused hs.accounted hrefused with
        hsame | ⟨hcause, hused⟩
      · exact .inl (restored hsame)
      · refine .inr (.inr ⟨⟨entry, data, level, rfl⟩, hcause, ?_⟩)
        exact congrArg (fun tasks => ({ s with tasks } : Scheduler)) hused
  | wake target level =>
      exact .inl (restored (state_wake_of_refused (Outcome.answer_map_eq_error_iff.mp h)))
  | suspend target =>
      have hrefused := Outcome.answer_map_eq_error_iff.mp h
      obtain ⟨_, hreleased⟩ := (suspended s.tasks target).state_of_refused hrefused
      refine .inr (.inl ⟨⟨target, rfl⟩, ?_⟩)
      exact congrArg (fun tasks => ({ s with tasks } : Scheduler)) hreleased
  | preempt | restock => exact absurd h (by simp [perform])
  | send target message =>
      exact .inl (restored (state_send_of_error (Outcome.answer_map_eq_error_iff.mp h)))
  | receive target =>
      exact .inl (restored (state_receive_of_error (Outcome.answer_map_eq_error_iff.mp h)))
  | receiveOrSuspend =>
      exact absurd (Outcome.answer_map_eq_error_iff.mp h) ((served s.tasks).ne_refused cause)
  | exit code => exact absurd (Outcome.answer_map_eq_error_iff.mp h) (exit_ne_refused _ code cause)
  | awaitExit waiter target =>
      have hrefused := Outcome.answer_map_eq_error_iff.mp h
      exact .inl (restored ((inquired s.tasks waiter target).state_of_refused hrefused))
  | startSchedule | armAt | armAfter =>
      exact absurd (Outcome.answer_map_eq_error_iff.mp h) (onTimers_ne_refused _ _ cause)
  | tick => exact absurd (Outcome.answer_map_eq_error_iff.mp h) (tick_ne_refused s cause)

/-- A scheduler whose first task has ended. No memory has room for a stack as large as it wants. -/
def cramped : Scheduler :=
  (start { stackBytes := 0x800000000 } Platform.simulated (Arena.simulated 0)).run
    [.create, .wake 2 none, .exit 0]

/-- The task that ended is released, and the number three is used up. -/
theorem state_launch_of_noStack :
    (cramped.perform (.launch 0 0 none)).state = cramped ∨
      (∃ id, Operation.launch 0 0 none = .suspend id) ∧
        (cramped.perform (.launch 0 0 none)).state =
          { cramped with tasks := cramped.tasks.release } ∨
      (∃ entry data level, Operation.launch 0 0 none = .launch entry data level) ∧
        Refusal.noStack = .noStack ∧
        (cramped.perform (.launch 0 0 none)).state =
          { cramped with
            tasks := { cramped.tasks.release with newest := cramped.tasks.newest + 1 } } :=
  state_perform_of_refused ⟨_, _, _, _, rfl⟩ (.launch 0 0 none) .noStack (by decide)

/-! ## Memory that comes back -/

/-- Any aligned block may be the one that is free, and there may be none. -/
theorem exists_reserve {words : Nat} (hwords : 0 < words) {block : Option Nat}
    (haligned : ∀ bottom ∈ block, 16 ∣ bottom) :
    ∃ arena : Arena, (arena.reserve words).map (·.1) = block := by
  cases block with
  | none =>
      refine ⟨⟨0, 0, 0⟩, ?_⟩
      have hfull : ¬ (8 * words ≤ 0 ∧ Word.alignDown (0 + 15) 16 + 8 * words ≤ 0) := by omega
      unfold Arena.reserve
      rw [if_neg hfull]
      rfl
  | some bottom =>
      obtain ⟨place, rfl⟩ := haligned bottom rfl
      have hstart : Word.alignDown (16 * place + 15) 16 = 16 * place := by
        unfold Word.alignDown
        omega
      refine ⟨⟨16 * place, 16 * place + 8 * words, 8 * words⟩, ?_⟩
      unfold Arena.reserve
      simp only [hstart, Nat.le_refl, and_self, if_true, Option.map_some]

/-- **A history may answer a request for a stack with any block, or with none.** -/
theorem answer_prepareWith_restock {id : TaskId} {task : Task} {start : Task.Start}
    {stackBytes : Nat} {block : Option Nat} (hlive : s.tasks.find? id = some task)
    (haligned : ∀ bottom ∈ block, 16 ∣ bottom) :
    ∃ arena, ((s.run [.restock arena]).perform (.prepareWith id start stackBytes)).answer =
      (task.prepare start stackBytes s.tasks.platform block).map fun _ => .unit := by
  have hwords : 0 < Stack.wordsFor stackBytes :=
    Nat.lt_of_lt_of_le Nat.two_pos (Stack.two_le_wordsFor stackBytes)
  obtain ⟨arena, hblock⟩ := exists_reserve hwords haligned
  refine ⟨arena, ?_⟩
  have hstocked : ({ s.tasks with arena } : Dispatcher).tasks[id]? = some task := hlive
  show (({ s.tasks with arena } : Dispatcher).prepareWith id start stackBytes).answer.map _ = _
  unfold prepareWith
  simp only [hstocked, hblock]
  cases task.prepare start stackBytes s.tasks.platform block with
  | error cause => rfl
  | ok prepared => rfl

/-- A launch that was refused for want of a stack succeeds when there is memory again. -/
example :
    ((start {} Platform.simulated ⟨0, 0, 0⟩).trace
      [.launch 0 0 none, .restock (Arena.simulated 0), .launch 0 0 none]).map (·.2) =
      [.error (.refused .noStack), .ok .unit, .ok (.task 3)] := by
  decide

end Scheduler

end TaskKernel
