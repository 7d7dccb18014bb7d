import TaskKernel.Proofs.Lifetimes
import TaskKernel.Proofs.Records
import Mathlib.Data.List.Induction

/-!
# How a task ended is told once

The exit code of a task is put on record when it ends, and whoever asks first takes it along:

* the code is on record exactly while nobody has asked since the end (`getElem?_exitCodes_run`), and
  whoever asks in that time is told (`answer_awaitExit_eq_exited_iff`);
* nothing puts a code on record for a task that is gone (`getElem?_exitCodes_run_of_past`), so
  whoever asks later is refused;
* of all who ask in the course of a history one at most is told (`toldOnce_run`).
-/

namespace TaskKernel

namespace Dispatcher

variable {d : Dispatcher} {waiter target : TaskId} {code : Int32}

theorem answer_awaitExit_eq_exited_iff :
    (d.awaitExit waiter target).answer = .ok (.exited code) ↔
      d.exitCodes[target]? = some code := by
  have h := inquired d waiter target
  generalize d.awaitExit waiter target = outcome at h ⊢
  cases h with
  | told hcode =>
      rw [hcode]
      simp
  | refused hnone =>
      rw [hnone]
      simp
  | blocked hnone _ _ _ =>
      rw [hnone, Outcome.answer_map_eq_ok_iff]
      simp

/-- Who asks after a task that is gone does not fall asleep over it. -/
theorem Past.answer_awaitExit (h : d.Past target) (hnone : d.exitCodes[target]? = none) :
    (d.awaitExit waiter target).answer = .error (.refused .noSuchTask) := by
  have hinquired := inquired d waiter target
  generalize d.awaitExit waiter target = outcome at hinquired ⊢
  cases hinquired with
  | told hcode => exact absurd (hnone.symm.trans hcode) (by simp)
  | refused => rfl
  | blocked _ hlive => exact absurd hlive h.2

end Dispatcher

namespace Scheduler

open Dispatcher

variable {s : Scheduler} {operation : Operation} {history : List Operation} {waiter id : TaskId}
  {code : Int32}

/-- The operation asks how this task ended. -/
def Operation.AsksAfter (id : TaskId) : Operation → Prop
  | .awaitExit _ target => target = id
  | _ => False

instance (id : TaskId) (operation : Operation) : Decidable (operation.AsksAfter id) :=
  match operation with
  | .awaitExit _ target => inferInstanceAs (Decidable (target = id))
  | .create | .prepare _ _ | .prepareWith _ _ _ | .editContext _ _ | .launch _ _ _ | .wake _ _
  | .suspend _ | .preempt _ | .send _ _ | .receive _ | .receiveOrSuspend | .exit _ | .startSchedule
  | .armAt _ _ _ _ | .armAfter _ _ _ _ | .tick | .restock _ => inferInstanceAs (Decidable False)

theorem answer_perform_eq_exited_iff :
    (s.perform (.awaitExit waiter id)).answer = .ok (.wait (.exited code)) ↔
      s.tasks.exitCodes[id]? = some code :=
  answer_perform_awaitExit.trans answer_awaitExit_eq_exited_iff

/-! ## The code on record -/

/-- A code that is on record has just come there by the end of its task, or it was there before and
nobody has just asked. -/
theorem code_perform (h : (s.perform operation).state.tasks.exitCodes[id]? = some code) :
    (operation = .exit code ∧ s.tasks.executing? = some id) ∨
      (s.tasks.exitCodes[id]? = some code ∧ ¬ operation.AsksAfter id) := by
  rw [getElem?_exitCodes_perform] at h
  cases operation with
  | exit last =>
      by_cases hx : s.tasks.executing? = some id
      · have hlast : some last = some code := (if_pos hx).symm.trans h
        exact .inl ⟨congrArg Operation.exit (Option.some.inj hlast), hx⟩
      · exact .inr ⟨(if_neg hx).symm.trans h, fun hasks => hasks⟩
  | awaitExit waiter target =>
      by_cases hid : target = id
      · exact absurd ((if_pos hid).symm.trans h) (by simp)
      · exact .inr ⟨(if_neg hid).symm.trans h, hid⟩
  | create | prepare | prepareWith | editContext | launch | wake | suspend | preempt | send
  | receive | receiveOrSuspend | startSchedule | armAt | armAfter | tick | restock =>
      exact .inr ⟨h, fun hasks => hasks⟩

theorem getElem?_exitCodes_perform_of_past (h : s.tasks.Past id) (haccounted : s.tasks.Accounted)
    (operation : Operation) :
    (s.perform operation).state.tasks.exitCodes[id]? =
      if operation.AsksAfter id then none else s.tasks.exitCodes[id]? := by
  rw [getElem?_exitCodes_perform]
  cases operation with
  -- The task that ends now is another one.
  | exit code => exact if_neg (h.not_executing haccounted)
  | awaitExit waiter target => rfl
  | create | prepare | prepareWith | editContext | launch | wake | suspend | preempt | send
  | receive | receiveOrSuspend | startSchedule | armAt | armAfter | tick | restock => rfl

/-- The code of a task that is gone is kept until somebody asks, and then no more. -/
theorem getElem?_exitCodes_run_of_past (h : s.tasks.Past id) (haccounted : s.tasks.Accounted)
    (history : List Operation) :
    (s.run history).tasks.exitCodes[id]? =
      if ∃ operation ∈ history, operation.AsksAfter id then none else s.tasks.exitCodes[id]? := by
  induction history generalizing s with
  | nil => simp [run_nil]
  | cons operation rest ih =>
      have hpast : (s.perform operation).state.tasks.Past id := h.run [operation]
      have hkept : (s.perform operation).state.tasks.Accounted := haccounted.run [operation]
      rw [run_cons, ih hpast hkept, getElem?_exitCodes_perform_of_past h haccounted]
      by_cases hasks : operation.AsksAfter id
      · simp [hasks]
      · simp [hasks]

/-- The task ended with this code in the course of the history, and nobody has asked since. -/
def Untold (s : Scheduler) (history : List Operation) (id : TaskId) (code : Int32) : Prop :=
  ∃ before between, history = before ++ .exit code :: between ∧
    (s.run before).tasks.executing? = some id ∧ ¬ ∃ operation ∈ between, operation.AsksAfter id

/-- Somebody asked after the task in the course of the history when it had ended already. -/
def Told (s : Scheduler) (history : List Operation) (id : TaskId) : Prop :=
  ∃ before waiter later, history = before ++ .awaitExit waiter id :: later ∧
    ∃ code, s.Ended before id code

theorem Untold.concat (h : s.Untold history id code) (hasks : ¬ operation.AsksAfter id) :
    s.Untold (history ++ [operation]) id code := by
  obtain ⟨before, between, rfl, hx, hnobody⟩ := h
  refine ⟨before, between ++ [operation], by simp, hx, ?_⟩
  rintro ⟨other, hmem, hother⟩
  rcases List.mem_append.mp hmem with hmem | hmem
  · exact hnobody ⟨other, hmem, hother⟩
  · exact hasks (List.mem_singleton.mp hmem ▸ hother)

theorem untold_of_code (hnone : s.tasks.exitCodes[id]? = none)
    (h : (s.run history).tasks.exitCodes[id]? = some code) : s.Untold history id code := by
  induction history using List.reverseRecOn with
  | nil => exact absurd (hnone.symm.trans h) (by simp)
  | append_singleton history operation ih =>
      rw [run_concat] at h
      -- The last operation put the code on record, or left it there.
      rcases code_perform h with ⟨rfl, hx⟩ | ⟨hcode, hasks⟩
      · exact ⟨history, [], rfl, hx, by simp⟩
      · exact (ih hcode).concat hasks

/-- The code is on record exactly while nobody has asked since the end of the task. -/
theorem getElem?_exitCodes_run (haccounted : s.tasks.Accounted)
    (hnone : s.tasks.exitCodes[id]? = none) :
    (s.run history).tasks.exitCodes[id]? = some code ↔ s.Untold history id code := by
  constructor
  · exact untold_of_code hnone
  · rintro ⟨before, between, rfl, hx, hnobody⟩
    have hbefore : (s.run before).tasks.Accounted := haccounted.run before
    have hafter : ((s.run before).perform (.exit code)).state.tasks.Accounted :=
      hbefore.run [.exit code]
    have hpast : ((s.run before).perform (.exit code)).state.tasks.Past id :=
      past_exit hbefore hx code
    rw [run_append, run_cons, getElem?_exitCodes_run_of_past hpast hafter, if_neg hnobody,
      getElem?_exitCodes_perform]
    exact if_pos hx

theorem Told.getElem?_exitCodes (h : s.Told history id) (haccounted : s.tasks.Accounted) :
    (s.run history).tasks.exitCodes[id]? = none := by
  obtain ⟨before, waiter, later, rfl, code, hended⟩ := h
  rw [run_append, getElem?_exitCodes_run_of_past (past_of_ended haccounted hended)
    (haccounted.run before)]
  exact if_pos ⟨_, List.mem_cons_self, rfl⟩

theorem Told.past (h : s.Told history id) (haccounted : s.tasks.Accounted) :
    (s.run history).tasks.Past id := by
  obtain ⟨before, waiter, later, rfl, code, hended⟩ := h
  rw [run_append]
  exact (past_of_ended haccounted hended).run _

/-! ## All who ask -/

/-- An operation that asks how the task ended, with an answer that says so. -/
def tells (id : TaskId) : Operation × Except Stop Answer → Bool
  | (.awaitExit _ target, .ok (.wait (.exited _))) => target == id
  | _ => false

theorem tells_iff {event : Operation × Except Stop Answer} :
    tells id event = true ↔
      ∃ waiter code, event = (.awaitExit waiter id, .ok (.wait (.exited code))) := by
  unfold tells
  split
  · simp
  · rename_i hother
    simp only [Bool.false_eq_true, false_iff, not_exists]
    rintro waiter code rfl
    exact hother _ _ _ rfl

theorem code_of_tells (h : tells id (operation, (s.perform operation).answer) = true) :
    operation.AsksAfter id ∧ ∃ code, s.tasks.exitCodes[id]? = some code := by
  obtain ⟨waiter, code, hevent⟩ := tells_iff.mp h
  obtain ⟨rfl, hanswer⟩ := Prod.mk.inj hevent
  exact ⟨rfl, code, answer_perform_eq_exited_iff.mp hanswer⟩

/-- Nobody is told any more when a task is gone and its code is not on record. -/
theorem countP_tells_of_past (h : s.tasks.Past id) (haccounted : s.tasks.Accounted)
    (hnone : s.tasks.exitCodes[id]? = none) (history : List Operation) :
    (s.trace history).countP (tells id) = 0 := by
  induction history generalizing s with
  | nil => rfl
  | cons operation rest ih =>
      have hsilent : ¬ tells id (operation, (s.perform operation).answer) = true := by
        intro htells
        obtain ⟨_, code, hcode⟩ := code_of_tells htells
        exact absurd (hnone.symm.trans hcode) (by simp)
      rw [trace, List.countP_cons_of_neg hsilent]
      apply ih (h.run [operation]) (haccounted.run [operation])
      show (s.perform operation).state.tasks.exitCodes[id]? = none
      rw [getElem?_exitCodes_perform_of_past h haccounted, hnone, ite_self]

theorem countP_tells_le_one (haccounted : s.tasks.Accounted)
    (hpast : ∀ code, s.tasks.exitCodes[id]? = some code → s.tasks.Past id)
    (history : List Operation) : (s.trace history).countP (tells id) ≤ 1 := by
  induction history generalizing s with
  | nil => exact Nat.zero_le 1
  | cons operation rest ih =>
      have hkept : (s.perform operation).state.tasks.Accounted := haccounted.run [operation]
      by_cases htells : tells id (operation, (s.perform operation).answer) = true
      · -- The one who is told takes the code along, and the task is gone for good.
        obtain ⟨hasks, code, hcode⟩ := code_of_tells htells
        have hgone : (s.perform operation).state.tasks.Past id := (hpast code hcode).run [operation]
        have hnone : (s.perform operation).state.tasks.exitCodes[id]? = none := by
          rw [getElem?_exitCodes_perform_of_past (hpast code hcode) haccounted]
          exact if_pos hasks
        rw [trace, List.countP_cons_of_pos htells, countP_tells_of_past hgone hkept hnone]
      · rw [trace, List.countP_cons_of_neg htells]
        refine ih hkept fun code hcode => ?_
        rcases code_perform hcode with ⟨rfl, hx⟩ | ⟨hbefore, _⟩
        · exact past_exit haccounted hx code
        · exact (hpast code hbefore).run [operation]

/-- How a task ended is told once, whoever asks and whatever else is done. -/
structure ToldOnce (s : Scheduler) (history : List Operation) (id : TaskId) : Prop where
  kept : ∀ code, (s.run history).tasks.exitCodes[id]? = some code ↔ s.Untold history id code
  told : ∀ waiter code, ((s.run history).perform (.awaitExit waiter id)).answer =
    .ok (.wait (.exited code)) ↔ s.Untold history id code
  refused : s.Told history id → ∀ waiter,
    ((s.run history).perform (.awaitExit waiter id)).answer = .error (.refused .noSuchTask)
  once : (s.trace history).countP (tells id) ≤ 1

/-- **The end of a task is told once**: from then on its code is kept, the first who asks is told
it, and all others are refused. -/
theorem toldOnce_run (config : Config) (platform : Platform) (arena : Arena)
    (history : List Operation) (id : TaskId) :
    (start config platform arena).ToldOnce history id := by
  have haccounted := accounted_start config platform arena
  have hnone : (start config platform arena).tasks.exitCodes[id]? = none := by
    simp [start, Dispatcher.start]
  have hkept : ∀ code,
      ((start config platform arena).run history).tasks.exitCodes[id]? = some code ↔
        (start config platform arena).Untold history id code :=
    fun _ => getElem?_exitCodes_run haccounted hnone
  refine ⟨hkept, fun _ code => answer_perform_eq_exited_iff.trans (hkept code), ?_, ?_⟩
  · -- The code was taken along before, and the task is not there to be waited for.
    intro htold waiter
    exact Outcome.answer_map_eq_error_iff.mpr
      ((htold.past haccounted).answer_awaitExit (htold.getElem?_exitCodes haccounted))
  · exact countP_tells_le_one haccounted (fun _ hcode => absurd (hnone.symm.trans hcode) (by simp))
      history

/-- Two tasks wait for the executing one. Both are woken when it ends, but one is told. -/
example :
    ((start {} Platform.simulated (Arena.simulated 0)).trace
      [.create, .wake 2 none, .awaitExit 2 1, .create, .wake 3 (some 3), .awaitExit 3 1, .exit 7,
        .awaitExit 3 1, .awaitExit 2 1]).map (·.2) =
      [.ok (.task 2), .ok .unit, .ok (.wait (.blocked none)), .ok (.task 3), .ok .unit,
        .ok (.wait (.blocked none)), .ok (.task 3), .ok (.wait (.exited 7)),
        .error (.refused .noSuchTask)] := by
  decide

end Scheduler

end TaskKernel
