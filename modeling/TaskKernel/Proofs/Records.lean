import TaskKernel.Proofs.Waking

/-!
# The records of ends and of waiters

Two records outlive the operation that writes them: how a task ended, until somebody is told, and
who waits for a task, until it ends. Only the end of a task and the question how one ended concern
them:

* every other operation leaves both alone (`sameRecords_perform`);
* the exit code of one task after an operation is given by `getElem?_exitCodes_perform`;
* an operation strikes nobody off a list of waiters, except the end of the task that the list
  belongs to, which strikes off all (`mem_awaiting_perform`, `waiters_exit`).
-/

namespace TaskKernel

namespace Dispatcher

variable {d d' d'' : Dispatcher} {id x waiter target : TaskId}

/-- Both records are the same. -/
structure SameRecords (d d' : Dispatcher) : Prop where
  exitCodes : d'.exitCodes = d.exitCodes
  waiters : d'.waiters = d.waiters

theorem SameRecords.refl (d : Dispatcher) : d.SameRecords d := ⟨rfl, rfl⟩

theorem SameRecords.trans (h : d.SameRecords d') (h' : d'.SameRecords d'') : d.SameRecords d'' :=
  ⟨h'.exitCodes.trans h.exitCodes, h'.waiters.trans h.waiters⟩

theorem SameRecords.awaiting (h : d.SameRecords d') (id : TaskId) :
    d'.awaiting id = d.awaiting id := by
  rw [Dispatcher.awaiting, h.waiters, Dispatcher.awaiting]

/-! ## Operations that leave the records alone -/

theorem Requeue.sameRecords (h : d.Requeue d') : d.SameRecords d' := by
  obtain ⟨_, _, _, _, rfl⟩ := h.exists_eq
  exact ⟨rfl, rfl⟩

theorem sameRecords_rotate (d : Dispatcher) (stay : Bool) : d.SameRecords (d.rotate stay) :=
  ⟨exitCodes_rotate d stay, waiters_rotate d stay⟩

theorem sameRecords_modifyTask (d : Dispatcher) (id : TaskId) (f : Task → Task) :
    d.SameRecords (d.modifyTask id f) := by
  unfold modifyTask
  split
  · exact ⟨rfl, rfl⟩
  · exact .refl d

theorem Plain.sameRecords (h : d.Plain d') : d.SameRecords d' := by
  cases h with
  | release | enlist | discard | prepare | reset | restock => exact ⟨rfl, rfl⟩
  | wake hwoken => exact (requeue_wakeAt hwoken).sameRecords

theorem Plainly.sameRecords (h : d.Plainly d') : d.SameRecords d' :=
  h.invariant (fun hsame hstep => hsame.trans hstep.sameRecords) (.refl d)

theorem sameRecords_send (d : Dispatcher) (id : TaskId) (message : Message) :
    d.SameRecords (d.send id message).state := by
  unfold send
  cases d.tasks[id]? with
  | none => exact .refl d
  | some task =>
      have hposted : d.SameRecords
          (d.store id { task with mailbox := task.mailbox.push message }) := ⟨rfl, rfl⟩
      exact hposted.trans (plain_wake _ _ _).sameRecords

theorem sameRecords_receive (d : Dispatcher) (id : TaskId) :
    d.SameRecords (d.receive id).state := by
  unfold receive
  cases d.tasks[id]? with
  | none => exact .refl d
  | some task => exact ⟨rfl, rfl⟩

theorem Suspended.sameRecords {outcome : Result (Option Switch)} (h : d.Suspended id outcome) :
    d.SameRecords outcome.state := by
  have hdoze : ∀ task, d.SameRecords (d.release.doze id task) := fun task =>
    ⟨exitCodes_rotate _ false, waiters_rotate _ false⟩
  cases h with
  | gone | asleep | dropped => exact ⟨rfl, rfl⟩
  | turned | stranded => exact hdoze _

theorem Served.sameRecords {outcome : Result Receipt} (h : d.Served outcome) :
    d.SameRecords outcome.state := by
  cases h with
  | stranded | message | gone => exact ⟨rfl, rfl⟩
  | slept _ _ _ hsuspended =>
      have hslept := hsuspended.sameRecords
      exact ⟨hslept.exitCodes, hslept.waiters⟩

theorem sameRecords_preempt (d : Dispatcher) (saved : Context) :
    d.SameRecords (d.preempt saved).2 := by
  cases hx : d.executing? with
  | none =>
      rw [preempt_of_none hx]
      exact .refl d
  | some id =>
      rw [preempt_of_executing hx]
      exact (sameRecords_modifyTask d id _).trans (sameRecords_rotate _ true)

/-! ## The end of a task -/

theorem exitCodes_exit (hx : d.executing? = some id) (code : Int32) :
    (d.exit code).state.exitCodes = d.exitCodes.insert id code := by
  rw [state_exit hx, exitCodes_wakeAll]
  simp only [conclude, retire, exitCodes_rotate]

theorem waiters_exit (hx : d.executing? = some id) (code : Int32) :
    (d.exit code).state.waiters = d.waiters.erase id := by
  rw [state_exit hx, waiters_wakeAll]
  rfl

/-! ## The question how a task ended -/

/-- Whoever is told takes the code with him; where there is none, none is kept. -/
theorem getElem?_exitCodes_awaitExit (d : Dispatcher) (waiter target id : TaskId) :
    (d.awaitExit waiter target).state.exitCodes[id]? =
      if target = id then none else d.exitCodes[id]? := by
  have hkept : d.exitCodes[target]? = none →
      d.exitCodes[id]? = if target = id then none else d.exitCodes[id]? := by
    intro hnone
    by_cases hid : target = id
    · rw [if_pos hid, ← hid, hnone]
    · rw [if_neg hid]
  have h := inquired d waiter target
  generalize d.awaitExit waiter target = outcome at h ⊢
  cases h with
  | told => simp only [Outcome.state_done, Std.ExtTreeMap.getElem?_erase, Nat.compare_eq_eq]
  | refused hnone => exact hkept hnone
  | blocked hnone _ _ hsuspended =>
      rw [Outcome.state_map, hsuspended.sameRecords.exitCodes]
      exact hkept hnone

/-- Who asks is noted behind the others, unless it is noted already. -/
theorem awaiting_register (d : Dispatcher) (waiter target id : TaskId) :
    (d.register waiter target).awaiting id =
      if target = id ∧ waiter ∉ d.awaiting id then d.awaiting id ++ [waiter]
      else d.awaiting id := by
  unfold awaiting register
  simp only [Std.ExtTreeMap.getElem?_insert, Nat.compare_eq_eq]
  by_cases hid : target = id
  · subst hid
    by_cases hmem : waiter ∈ d.waiters[target]?.getD []
    · simp only [hmem, if_true, Option.getD_some, not_true, and_false, if_false]
    · simp only [hmem, if_true, if_false, Option.getD_some, not_false_eq_true, and_self]
  · simp only [hid, if_false, false_and]

theorem mem_awaiting_register :
    x ∈ (d.register waiter target).awaiting id ↔
      x ∈ d.awaiting id ∨ target = id ∧ x = waiter := by
  rw [awaiting_register]
  by_cases hid : target = id
  · by_cases hmem : waiter ∈ d.awaiting id
    · simp only [hid, hmem, not_true, and_false, if_false, true_and, iff_self_or]
      rintro rfl
      exact hmem
    · simp only [hid, hmem, not_false_eq_true, and_self, if_true, List.mem_append,
        List.mem_singleton, true_and]
  · simp only [hid, false_and, if_false, or_false]

/-- The question strikes nobody off a list. -/
theorem mem_awaiting_awaitExit (hmem : x ∈ d.awaiting id) :
    x ∈ (d.awaitExit waiter target).state.awaiting id := by
  have h := inquired d waiter target
  generalize d.awaitExit waiter target = outcome at h ⊢
  cases h with
  | told | refused => exact hmem
  | blocked _ _ _ hsuspended =>
      rw [Outcome.state_map, hsuspended.sameRecords.awaiting]
      exact mem_awaiting_register.mpr (.inl hmem)

/-- Who falls asleep over the question is noted as waiting. -/
theorem mem_awaiting_of_blocked {switch : Option Switch}
    (hanswer : (d.awaitExit waiter target).answer = .ok (.blocked switch)) :
    waiter ∈ (d.awaitExit waiter target).state.awaiting target := by
  have h := inquired d waiter target
  generalize d.awaitExit waiter target = outcome at h hanswer ⊢
  cases h with
  | told | refused => simp at hanswer
  | blocked _ _ _ hsuspended =>
      rw [Outcome.state_map, hsuspended.sameRecords.awaiting]
      exact mem_awaiting_register.mpr (.inr ⟨rfl, rfl⟩)

end Dispatcher

/-! ## One operation -/

namespace Scheduler

open Dispatcher

variable {s : Scheduler} {operation : Operation} {id x waiter target : TaskId}

theorem sameRecords_perform (hexit : ∀ code, operation ≠ .exit code)
    (hasks : ∀ waiter target, operation ≠ .awaitExit waiter target) :
    s.tasks.SameRecords (s.perform operation).state.tasks := by
  cases operation with
  | create | prepare | prepareWith | editContext | launch | wake | startSchedule | armAt
  | armAfter | restock => exact Plainly.sameRecords (plain_perform s trivial)
  | suspend id => exact (suspended s.tasks id).sameRecords
  | preempt saved => exact sameRecords_preempt _ saved
  | send => exact sameRecords_send _ _ _
  | receive => exact sameRecords_receive _ _
  | receiveOrSuspend => exact (served s.tasks).sameRecords
  | exit code => exact absurd rfl (hexit code)
  | awaitExit waiter target => exact absurd rfl (hasks waiter target)
  | tick => exact tick_of_send .refl .trans sameRecords_send s

theorem answer_perform_awaitExit {awaited : Awaited} :
    (s.perform (.awaitExit waiter target)).answer = .ok (.wait awaited) ↔
      (s.tasks.awaitExit waiter target).answer = .ok awaited := by
  refine Outcome.answer_map_eq_ok_iff.trans ⟨?_, fun hanswer => ⟨awaited, hanswer, rfl⟩⟩
  rintro ⟨answered, hanswer, hsame⟩
  rw [← Answer.wait.inj hsame]
  exact hanswer

/-- What becomes of an exit code in an operation. -/
theorem getElem?_exitCodes_perform (s : Scheduler) (operation : Operation) (id : TaskId) :
    (s.perform operation).state.tasks.exitCodes[id]? =
      match operation with
      | .exit code => if s.tasks.executing? = some id then some code else s.tasks.exitCodes[id]?
      | .awaitExit _ target => if target = id then none else s.tasks.exitCodes[id]?
      | _ => s.tasks.exitCodes[id]? := by
  cases operation with
  | exit code =>
      show (s.tasks.exit code).state.exitCodes[id]? = _
      cases hx : s.tasks.executing? with
      | none =>
          rw [exit_of_none hx]
          rfl
      | some ended =>
          rw [exitCodes_exit hx]
          simp only [Std.ExtTreeMap.getElem?_insert, Nat.compare_eq_eq, Option.some.injEq]
  | awaitExit waiter target => exact getElem?_exitCodes_awaitExit s.tasks waiter target id
  | create | prepare | prepareWith | editContext | launch | wake | suspend | preempt | send
  | receive | receiveOrSuspend | startSchedule | armAt | armAfter | tick | restock =>
      rw [(sameRecords_perform (by simp) (by simp)).exitCodes]

/-- Who waits for a task goes on waiting as long as that does not end. -/
theorem mem_awaiting_perform (hmem : x ∈ s.tasks.awaiting id)
    (hlasts : ∀ code, operation = .exit code → s.tasks.executing? ≠ some id) :
    x ∈ (s.perform operation).state.tasks.awaiting id := by
  cases operation with
  | exit code =>
      show x ∈ (s.tasks.exit code).state.awaiting id
      cases hx : s.tasks.executing? with
      | none =>
          rw [exit_of_none hx]
          exact hmem
      | some ended =>
          have hne : ended ≠ id := fun h => hlasts code rfl (h ▸ hx)
          rw [awaiting, waiters_exit hx]
          simp only [Std.ExtTreeMap.getElem?_erase, Nat.compare_eq_eq, if_neg hne]
          exact hmem
  | awaitExit waiter target => exact mem_awaiting_awaitExit hmem
  | create | prepare | prepareWith | editContext | launch | wake | suspend | preempt | send
  | receive | receiveOrSuspend | startSchedule | armAt | armAfter | tick | restock =>
      rw [(sameRecords_perform (by simp) (by simp)).awaiting]
      exact hmem

end Scheduler

end TaskKernel
