import TaskKernel.Proofs.Consistency

/-!
# Waking those who wait

When a task ends, the tasks on its list of waiters are woken in turn, each at its own level. This
module says what becomes of the dispatcher when a whole list is woken:

* **tasks** — who is on the list and live runs afterwards, and nobody else changes
  (`getElem?_wakeAll`);
* **the choice of level** — none comes due unless a sleeper stood above the active level
  (`reselect_wakeAll`);
* **the rest** — only tasks, queues and that note are touched (`exists_wakeAll`).

Whom the end of the executing task wakes can be told beforehand: `Awakens`.
-/

namespace TaskKernel.Dispatcher

variable {d : Dispatcher} {id x waiter : TaskId} {task : Task} {ids : List TaskId}

/-- The task is live and asleep. -/
def Sleeps (d : Dispatcher) (id : TaskId) (task : Task) : Prop :=
  d.tasks[id]? = some task ∧ task.running = false

/-- Make one task runnable at its own level, if it is live. -/
def rouse (d : Dispatcher) (id : TaskId) : Dispatcher := (d.wakeAt id none).toOption.getD d

theorem wakeAll_nil (d : Dispatcher) : d.wakeAll [] = d := rfl

theorem wakeAll_cons (d : Dispatcher) (id : TaskId) (rest : List TaskId) :
    d.wakeAll (id :: rest) = (d.rouse id).wakeAll rest := rfl

/-! ## One task -/

theorem rouse_of_sleeps (h : d.Sleeps id task) :
    d.rouse id = d.makeRunnable id task task.level := by
  unfold rouse wakeAt
  simp only [h.1, h.2, Option.getD_none, Bool.false_eq_true, if_false]
  rfl

theorem running_of_not_sleeps (h : ∀ task, ¬ d.Sleeps id task) (htask : d.tasks[id]? = some task) :
    task.running = true := by
  by_contra hasleep
  exact h task ⟨htask, Bool.not_eq_true _ ▸ hasleep⟩

/-- Only a sleeper takes notice: a runnable task is at its own level already. -/
theorem rouse_of_not_sleeps (h : ∀ task, ¬ d.Sleeps id task) : d.rouse id = d := by
  unfold rouse wakeAt
  cases htask : d.tasks[id]? with
  | none => rfl
  | some task =>
      simp only [running_of_not_sleeps h htask, Option.getD_none, if_true, Dispatcher.changeLevel]
      rfl

theorem exists_rouse (d : Dispatcher) (id : TaskId) :
    ∃ tasks queues reselect, d.rouse id = { d with tasks, queues, reselect } := by
  by_cases h : ∃ task, d.Sleeps id task
  · obtain ⟨task, hsleeps⟩ := h
    exact ⟨_, _, _, rouse_of_sleeps hsleeps⟩
  · exact ⟨_, _, _, rouse_of_not_sleeps (not_exists.mp h)⟩

theorem getElem?_rouse (d : Dispatcher) (id x : TaskId) :
    (d.rouse id).tasks[x]? =
      if id = x then d.tasks[x]?.map ({ · with running := true }) else d.tasks[x]? := by
  by_cases h : ∃ task, d.Sleeps id task
  · obtain ⟨task, hsleeps⟩ := h
    rw [rouse_of_sleeps hsleeps, makeRunnable]
    show (d.store id { task with running := true }).tasks[x]? = _
    rw [getElem?_store]
    by_cases hx : id = x
    · rw [if_pos hx, if_pos hx, ← hx, hsleeps.1]
      rfl
    · rw [if_neg hx, if_neg hx]
  · rw [rouse_of_not_sleeps (not_exists.mp h)]
    by_cases hx : id = x
    · subst hx
      rw [if_pos rfl]
      cases htask : d.tasks[id]? with
      | none => rfl
      | some task => rw [Option.map_some, ← running_of_not_sleeps (not_exists.mp h) htask]
    · rw [if_neg hx]

/-- Rousing puts nobody to sleep. -/
theorem sleeps_of_rouse (h : (d.rouse id).Sleeps x task) : d.Sleeps x task := by
  obtain ⟨htask, hasleep⟩ := h
  rw [getElem?_rouse] at htask
  by_cases hx : id = x
  · rw [if_pos hx] at htask
    obtain ⟨_, _, rfl⟩ := Option.map_eq_some_iff.mp htask
    exact absurd hasleep (by simp)
  · rw [if_neg hx] at htask
    exact ⟨htask, hasleep⟩

/-! ## A whole list -/

theorem exists_wakeAll (d : Dispatcher) (ids : List TaskId) :
    ∃ tasks queues reselect, d.wakeAll ids = { d with tasks, queues, reselect } := by
  induction ids generalizing d with
  | nil => exact ⟨_, _, _, wakeAll_nil d⟩
  | cons id rest ih =>
      obtain ⟨_, _, _, hroused⟩ := exists_rouse d id
      obtain ⟨_, _, _, hrest⟩ := ih (d.rouse id)
      rw [wakeAll_cons, hrest, hroused]
      exact ⟨_, _, _, rfl⟩

@[simp] theorem active_wakeAll (d : Dispatcher) (ids : List TaskId) :
    (d.wakeAll ids).active = d.active := by
  obtain ⟨_, _, _, h⟩ := exists_wakeAll d ids
  rw [h]

@[simp] theorem exitCodes_wakeAll (d : Dispatcher) (ids : List TaskId) :
    (d.wakeAll ids).exitCodes = d.exitCodes := by
  obtain ⟨_, _, _, h⟩ := exists_wakeAll d ids
  rw [h]

@[simp] theorem waiters_wakeAll (d : Dispatcher) (ids : List TaskId) :
    (d.wakeAll ids).waiters = d.waiters := by
  obtain ⟨_, _, _, h⟩ := exists_wakeAll d ids
  rw [h]

/-- Who is on the list runs afterwards, if it is live. -/
theorem getElem?_wakeAll (d : Dispatcher) (ids : List TaskId) (x : TaskId) :
    (d.wakeAll ids).tasks[x]? =
      if x ∈ ids then d.tasks[x]?.map ({ · with running := true }) else d.tasks[x]? := by
  induction ids generalizing d with
  | nil => rfl
  | cons id rest ih =>
      rw [wakeAll_cons, ih, getElem?_rouse]
      by_cases hid : id = x
      · rw [if_pos hid, if_pos (List.mem_cons.mpr (.inl hid.symm)), Option.map_map]
        exact ite_self _
      · have hmem : x ∈ id :: rest ↔ x ∈ rest :=
          ⟨fun h => (List.mem_cons.mp h).resolve_left (Ne.symm hid), List.mem_cons_of_mem _⟩
        simp only [if_neg hid, hmem]

/-- A list without sleepers changes nothing. -/
theorem wakeAll_of_not_sleeps (h : ∀ waiter ∈ ids, ∀ task, ¬ d.Sleeps waiter task) :
    d.wakeAll ids = d := by
  induction ids with
  | nil => rfl
  | cons id rest ih =>
      rw [wakeAll_cons, rouse_of_not_sleeps (h id List.mem_cons_self)]
      exact ih fun waiter hmem => h waiter (List.mem_cons_of_mem _ hmem)

theorem reselect_rouse (hnone : d.reselect = false)
    (hbelow : ∀ task, d.Sleeps id task → task.level ≤ d.active) :
    (d.rouse id).reselect = false := by
  by_cases h : ∃ task, d.Sleeps id task
  · obtain ⟨task, hsleeps⟩ := h
    rw [rouse_of_sleeps hsleeps]
    show (d.reselect || decide (d.active < task.level)) = false
    rw [hnone, Bool.false_or, decide_eq_false_iff_not]
    exact not_lt.mpr (hbelow task hsleeps)
  · rw [rouse_of_not_sleeps (not_exists.mp h)]
    exact hnone

/-- A choice of level comes due only if a sleeper is woken above the active level. -/
theorem reselect_wakeAll (hnone : d.reselect = false)
    (hbelow : ∀ waiter ∈ ids, ∀ task, d.Sleeps waiter task → task.level ≤ d.active) :
    (d.wakeAll ids).reselect = false := by
  induction ids generalizing d with
  | nil => exact hnone
  | cons id rest ih =>
      obtain ⟨_, _, _, hroused⟩ := exists_rouse d id
      have hactive : (d.rouse id).active = d.active := by rw [hroused]
      rw [wakeAll_cons]
      have hfirst : (d.rouse id).reselect = false :=
        reselect_rouse hnone (hbelow id List.mem_cons_self)
      refine ih hfirst fun waiter hmem task hsleeps => ?_
      rw [hactive]
      exact hbelow waiter (List.mem_cons_of_mem _ hmem) task (sleeps_of_rouse hsleeps)

/-- A sleeper that is woken occupies its level. -/
theorem occupied_wakeAll (haccounted : (d.wakeAll ids).Accounted) (hmem : waiter ∈ ids)
    (hsleeps : d.Sleeps waiter task) : (d.wakeAll ids).queues.get task.level ≠ [] := by
  have hawake : (d.wakeAll ids).tasks[waiter]? = some { task with running := true } := by
    rw [getElem?_wakeAll, if_pos hmem, hsleeps.1]
    rfl
  have hplace : (d.wakeAll ids).place? waiter = some task.level := by
    rw [place?_of_running hawake rfl]
  exact List.ne_nil_of_mem (haccounted.mem_iff.mpr hplace)

/-! ## The end of a task -/

/-- The end of the executing task wakes this sleeper, which is noted as waiting for it. -/
def Awakens (d : Dispatcher) (waiter : TaskId) (task : Task) : Prop :=
  ∃ id, d.executing? = some id ∧ waiter ∈ d.awaiting id ∧ d.Sleeps waiter task

theorem awakens_iff (hx : d.executing? = some id) :
    d.Awakens waiter task ↔ waiter ∈ d.awaiting id ∧ d.Sleeps waiter task := by
  unfold Awakens
  rw [hx]
  simp only [Option.some.injEq, exists_eq_left']

/-- The task that ends was awake, so the same tasks sleep when it is gone. -/
theorem sleeps_conclude (haccounted : d.Accounted) (hx : d.executing? = some id) (code : Int32) :
    (d.conclude id code).Sleeps x task ↔ d.Sleeps x task := by
  unfold Sleeps
  rw [getElem?_conclude]
  by_cases hid : id = x
  · subst hid
    obtain ⟨live, hlive, hrunning, _⟩ := haccounted.executing_live hx
    rw [if_pos rfl, hlive]
    simp only [reduceCtorEq, false_and, Option.some.injEq, false_iff, not_and]
    rintro rfl hasleep
    exact absurd (hrunning.symm.trans hasleep) (by decide)
  · rw [if_neg hid]

end TaskKernel.Dispatcher
