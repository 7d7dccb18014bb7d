import TaskKernel.Proofs.Decisions
import TaskKernel.Proofs.Executing
import TaskKernel.Proofs.Waking

/-!
# Who goes on when the executing task leaves

A task that sleeps leaves the queues as they are, and the choice of its successor is made among all
who are runnable. A task that ends chooses first and wakes its waiters afterwards, so the choice and
the state that it is reported with may disagree:

* the successor is the first task of the highest occupied level exactly if no sleeper was woken
  above it (`foremost_exit_iff`; one that is passed over: `exit_passes_over_sleeper`);
* an operation that stops for want of a task leaves all queues empty, unless it is an end that woke
  somebody: the processor then stands still with a task to run (`deserted_of_emptyQueue_iff`;
  one that is left behind: `exit_strands_sleeper`).
-/

namespace TaskKernel

namespace Dispatcher

variable {d : Dispatcher} {id x next : TaskId} {code : Int32}

/-- The first task of the highest level at which one is runnable. -/
def foremost? (d : Dispatcher) : Option TaskId := d.queues.highest?.bind d.queues.head?

/-- No task is runnable. -/
def Deserted (d : Dispatcher) : Prop := ∀ level, d.queues.get level = []

instance (d : Dispatcher) : Decidable d.Deserted :=
  inferInstanceAs (Decidable (∀ level, d.queues.get level = []))

/-- The executing task is the foremost one exactly if no level above the active one is occupied. -/
theorem Accounted.foremost?_iff (h : d.Accounted) (hx : d.executing? = some x) :
    d.foremost? = some x ↔ d.active ∈ upperBounds {level | d.queues.get level ≠ []} := by
  constructor
  · intro hforemost
    obtain ⟨level, hhighest, hhead⟩ := Option.bind_eq_some_iff.mp hforemost
    -- It stands in one queue only, so the level that was found is the active one.
    have hplace : d.place? x = some level := h.mem_iff.mp (RunQueues.mem_of_head? hhead)
    have hlevel : d.active = level := Option.some.inj ((h.place?_executing hx).symm.trans hplace)
    rw [hlevel]
    exact (RunQueues.isGreatest_of_highest? hhighest).2
  · intro hbound
    have hhighest : d.queues.highest? = some d.active :=
      RunQueues.highest?_eq_some_iff.mpr ⟨executing_iff_occupied.mp ⟨x, hx⟩, hbound⟩
    rw [foremost?, hhighest]
    exact hx

/-- Where the executing task gave way and nobody was selected, nobody was left. -/
theorem deserted_rotate (hx : d.executing? = some x) {stay : Bool}
    (hnone : (d.rotate stay).executing? = none) : (d.rotate stay).Deserted := by
  intro level
  by_contra hlevel
  obtain ⟨y, hy⟩ := executing_iff_occupied.mpr (occupied_rotate hx stay ⟨level, hlevel⟩)
  exact absurd (hnone.symm.trans hy) (by simp)

/-! ## The end of the executing task -/

theorem Vigilant.exit (h : d.Vigilant) (hx : d.executing? = some id) (code : Int32) :
    (d.exit code).state.Vigilant := by
  rw [state_exit hx]
  exact (books_wakeAll _ _).invariant Vigilant.quiet Vigilant.requeue (h.turn (.finish code hx))

/-- A sleeper that the end of a task wakes occupies its level afterwards. -/
theorem Awakens.occupied {waiter : TaskId} {task : Task} (h : d.Awakens waiter task)
    (haccounted : d.Accounted) (hx : d.executing? = some id) (code : Int32) :
    (d.exit code).state.queues.get task.level ≠ [] := by
  obtain ⟨hmem, hsleeps⟩ := (awakens_iff hx).mp h
  have haccounted' := (exit_decides haccounted hx code).1
  rw [state_exit hx] at haccounted' ⊢
  exact occupied_wakeAll haccounted' hmem ((sleeps_conclude haccounted hx code).mpr hsleeps)

/-- The choice that an end made stands as long as it wakes nobody above the active level. -/
theorem reselect_exit (haccounted : d.Accounted) (hx : d.executing? = some id)
    (hbelow : ∀ waiter task, d.Awakens waiter task → task.level ≤ (d.exit code).state.active) :
    (d.exit code).state.reselect = false := by
  rw [state_exit hx] at hbelow ⊢
  refine reselect_wakeAll (reselect_rotate hx false) fun waiter hmem task hsleeps => ?_
  rw [active_wakeAll] at hbelow
  exact hbelow waiter task
    ((awakens_iff hx).mpr ⟨hmem, (sleeps_conclude haccounted hx code).mp hsleeps⟩)

theorem executing_of_exit (h : (d.exit code).answer = .ok next) : ∃ id, d.executing? = some id := by
  rw [← Option.ne_none_iff_exists']
  intro hnone
  rw [exit_of_none hnone] at h
  exact absurd h (by simp)

theorem foremost_exit (haccounted : d.Accounted) (hvigilant : d.Vigilant)
    (h : (d.exit code).answer = .ok next) :
    (d.exit code).state.Accounted ∧ (d.exit code).state.executing? = some next ∧
      ((d.exit code).state.foremost? = some next ↔
        ∀ waiter task, d.Awakens waiter task → task.level ≤ (d.exit code).state.active) := by
  obtain ⟨id, hx⟩ := executing_of_exit h
  obtain ⟨haccounted', ⟨_, hempty⟩ | ⟨selected, hselected, hnext, _⟩⟩ :=
    exit_decides haccounted hx code
  · exact absurd (hempty.symm.trans h) (by simp)
  have hsame : selected = next := Except.ok.inj (hselected.symm.trans h)
  rw [hsame] at hnext
  refine ⟨haccounted', hnext, ?_⟩
  rw [haccounted'.foremost?_iff hnext]
  constructor
  · intro hbound waiter task hawakens
    exact hbound (hawakens.occupied haccounted hx code)
  · intro hbelow
    exact hvigilant.exit hx code (reselect_exit haccounted hx hbelow)

/-- An end that stops for want of a task has left nobody behind exactly if it woke nobody. -/
theorem deserted_exit_iff (haccounted : d.Accounted) (hx : d.executing? = some id)
    (hnone : (d.exit code).state.executing? = none) :
    (d.exit code).state.Deserted ↔ ∀ waiter task, ¬ d.Awakens waiter task := by
  constructor
  · intro hdeserted waiter task hawakens
    exact hawakens.occupied haccounted hx code (hdeserted task.level)
  · intro hnobody
    have hasleep : ∀ waiter ∈ d.awaiting id, ∀ task,
        ¬ (d.conclude id code).Sleeps waiter task := fun waiter hmem task hsleeps =>
      hnobody waiter task
        ((awakens_iff hx).mpr ⟨hmem, (sleeps_conclude haccounted hx code).mp hsleeps⟩)
    rw [state_exit hx, wakeAll_of_not_sleeps hasleep] at hnone ⊢
    exact deserted_rotate hx hnone

/-! ## Stopping for want of a task -/

theorem Suspended.deserted {outcome : Result (Option Switch)} {level : Level}
    (h : d.Suspended id outcome) (hanswer : outcome.answer = .error (.fault (.emptyQueue level))) :
    outcome.state.Deserted := by
  cases h with
  | gone | asleep | dropped | turned => simp at hanswer
  | @stranded task _ _ hx hnone =>
      have hasleep : (d.release.store id { task with running := false }).executing? = some id := hx
      exact deserted_rotate hasleep hnone

theorem Inquired.deserted {waiter target : TaskId} {outcome : Result Awaited} {level : Level}
    (h : d.Inquired waiter target outcome)
    (hanswer : outcome.answer = .error (.fault (.emptyQueue level))) : outcome.state.Deserted := by
  cases h with
  | told | refused => simp at hanswer
  | blocked _ _ _ hsuspended =>
      exact hsuspended.deserted (Outcome.answer_map_eq_error_iff.mp hanswer)

theorem Served.deserted {outcome : Result Receipt} {level : Level} (h : d.Served outcome)
    (hx : d.executing? = some x)
    (hanswer : outcome.answer = .error (.fault (.emptyQueue level))) : outcome.state.Deserted := by
  cases h with
  | stranded hnone => exact absurd (hnone.symm.trans hx) (by simp)
  | message | gone => simp at hanswer
  | slept _ _ _ hsuspended =>
      exact hsuspended.deserted (Outcome.answer_map_eq_error_iff.mp hanswer)

/-- An answer that does not stop for want of a task comes with somebody who executes. -/
theorem Decided.executing {α : Type} {settled : α → Prop} {told : Switch → α}
    {outcome : Result α} (h : d.Decided x settled told outcome)
    (hanswer : ∀ level, outcome.answer ≠ .error (.fault (.emptyQueue level))) :
    ∃ y, outcome.state.executing? = some y := by
  cases h with
  | stays _ _ hy => exact ⟨_, hy⟩
  | moves _ hy => exact ⟨_, hy⟩
  | refused _ hy => exact ⟨_, hy⟩
  | exhausted hempty => exact absurd hempty (hanswer _)

end Dispatcher

namespace Scheduler

open Dispatcher

variable {s : Scheduler} {operation : Operation} {x : TaskId} {level : Level}

/-! ## Histories without a fault -/

/-- As long as operations complete, there is a task that executes. -/
theorem executing_of_completes (haccounted : s.tasks.Accounted) (hx : s.tasks.executing? = some x)
    (h : s.Completes operation) : ∃ y, (s.perform operation).state.tasks.executing? = some y := by
  by_cases hyields : operation.Yields s.tasks
  · cases operation with
    | preempt saved =>
        obtain ⟨_, y, hy, _⟩ := preempt_decides haccounted hx saved
        exact ⟨y, hy⟩
    | suspend id =>
        exact (suspend_decides haccounted hx id).executing fun level hempty =>
          h _ (Outcome.answer_map_eq_error_iff.mpr hempty)
    | exit code =>
        obtain ⟨_, ⟨level, hempty⟩ | ⟨y, _, hy, _⟩⟩ := exit_decides haccounted hx code
        · exact absurd (Outcome.answer_map_eq_error_iff.mpr hempty) (h _)
        · exact ⟨y, hy⟩
    | awaitExit waiter target =>
        have hself : waiter = x := Option.some.inj (hyields.1.symm.trans hx)
        subst hself
        exact (awaitExit_decides haccounted hx target).executing fun level hempty =>
          h _ (Outcome.answer_map_eq_error_iff.mpr hempty)
    | receiveOrSuspend =>
        exact (receiveOrSuspend_decides haccounted hx).executing fun level hempty =>
          h _ (Outcome.answer_map_eq_error_iff.mpr hempty)
    | create | prepare | prepareWith | editContext | launch | wake | send | receive
    | startSchedule | armAt | armAfter | tick | restock => exact hyields.elim
  · exact ⟨x, executing_perform hx hyields⟩

theorem executing_run {history : List Operation} (haccounted : s.tasks.Accounted)
    (hx : ∃ x, s.tasks.executing? = some x) (h : s.Faultless history) :
    ∃ x, (s.run history).tasks.executing? = some x := by
  induction history generalizing s with
  | nil => exact hx
  | cons operation rest ih =>
      obtain ⟨x, hx⟩ := hx
      obtain ⟨hcompletes, hrest⟩ := h
      exact ih (haccounted.run [operation]) (executing_of_completes haccounted hx hcompletes) hrest

theorem Undisturbed.executing (h : s.Undisturbed) : ∃ x, s.tasks.executing? = some x := by
  obtain ⟨config, platform, arena, history, hfaultless, rfl⟩ := h
  exact executing_run (accounted_start config platform arena)
    (settled_start config platform arena).executing hfaultless

/-! ## The successor of a task that ends -/

theorem answer_exit_eq_ok {code : Int32} {next : TaskId}
    (h : (s.perform (.exit code)).answer = .ok (.task next)) :
    (s.tasks.exit code).answer = .ok next := by
  obtain ⟨selected, hselected, hsame⟩ := Outcome.answer_map_eq_ok_iff.mp h
  rw [← Answer.task.inj hsame]
  exact hselected

/-- **The successor of a task that ends** is the first task of the highest occupied level exactly if
no sleeper that the end wakes has a level above the successor's. -/
theorem foremost_exit_iff (hs : s.Reachable) (code : Int32) (next : TaskId)
    (h : (s.perform (.exit code)).answer = .ok (.task next)) :
    ∃ successor, (s.perform (.exit code)).state.tasks.find? next = some successor ∧
      ((s.perform (.exit code)).state.tasks.foremost? = some next ↔
        ∀ waiter task, s.tasks.Awakens waiter task → task.level ≤ successor.level) := by
  obtain ⟨haccounted, hnext, hforemost⟩ :=
    foremost_exit hs.accounted hs.vigilant (answer_exit_eq_ok h)
  obtain ⟨successor, hlive, _, hlevel⟩ := haccounted.executing_live hnext
  exact ⟨successor, hlive, hlevel ▸ hforemost⟩

/-- Two tasks besides the executing one, at given levels. The third waits for the first to end. -/
def thirdAwaitsFirst (second third : Nat) : Scheduler :=
  (start {} Platform.simulated (Arena.simulated 0)).run
    [.create, .create, .wake 2 (some second), .wake 3 (some third), .awaitExit 3 1]

/-- The second task goes on when the first ends, and the third is woken at a lower level. -/
theorem foremost_exit_sleeper_below :
    ∃ successor, ((thirdAwaitsFirst 2 1).perform (.exit 0)).state.tasks.find? 2 = some successor ∧
      (((thirdAwaitsFirst 2 1).perform (.exit 0)).state.tasks.foremost? = some 2 ↔
        ∀ waiter task, (thirdAwaitsFirst 2 1).tasks.Awakens waiter task →
          task.level ≤ successor.level) :=
  foremost_exit_iff ⟨_, _, _, _, rfl⟩ 0 2 (by decide)

/-- The third task is woken at a higher level than the second, and is passed over. -/
theorem exit_passes_over_sleeper :
    (thirdAwaitsFirst 1 2).Reachable ∧
      ((thirdAwaitsFirst 1 2).perform (.exit 0)).answer = .ok (.task 2) ∧
      ((thirdAwaitsFirst 1 2).perform (.exit 0)).state.tasks.foremost? = some 3 :=
  ⟨⟨_, _, _, _, rfl⟩, by decide, by decide⟩

/-! ## Stopping for want of a task -/

/-- **An operation that stops for want of a task** after a history without a fault leaves every
queue empty, unless it is the end of a task that wakes a sleeper. -/
theorem deserted_of_emptyQueue_iff (hs : s.Undisturbed) (operation : Operation) (level : Level)
    (h : (s.perform operation).answer = .error (.fault (.emptyQueue level))) :
    (s.perform operation).state.tasks.Deserted ↔
      ∀ code, operation = .exit code → ∀ waiter task, ¬ s.tasks.Awakens waiter task := by
  have haccounted := hs.reachable.accounted
  obtain ⟨x, hx⟩ := hs.executing
  have hnone := executing_of_emptyQueue h
  by_cases hyields : operation.Yields s.tasks
  · cases operation with
    | exit code =>
        have hstate : (s.perform (.exit code)).state.tasks = (s.tasks.exit code).state := rfl
        rw [hstate] at hnone ⊢
        rw [deserted_exit_iff haccounted hx hnone]
        exact ⟨fun hnobody _ _ => hnobody, fun hnobody => hnobody code rfl⟩
    | preempt saved => exact absurd h (by simp [perform])
    | suspend id =>
        refine iff_of_true ?_ fun _ hexit => absurd hexit (by simp)
        exact (suspended s.tasks id).deserted (Outcome.answer_map_eq_error_iff.mp h)
    | awaitExit waiter target =>
        refine iff_of_true ?_ fun _ hexit => absurd hexit (by simp)
        exact (inquired s.tasks waiter target).deserted (Outcome.answer_map_eq_error_iff.mp h)
    | receiveOrSuspend =>
        refine iff_of_true ?_ fun _ hexit => absurd hexit (by simp)
        exact (served s.tasks).deserted hx (Outcome.answer_map_eq_error_iff.mp h)
    | create | prepare | prepareWith | editContext | launch | wake | send | receive
    | startSchedule | armAt | armAfter | tick | restock => exact hyields.elim
  · exact absurd (hnone.symm.trans (executing_perform hx hyields)) (by simp)

/-- The first task waits for the end of a task that nobody has woken, and nobody is left to run. -/
theorem deserted_awaitExit :
    (((start {} Platform.simulated (Arena.simulated 0)).run [.create]).perform
      (.awaitExit 1 2)).state.tasks.Deserted ↔
      ∀ code, Operation.awaitExit 1 2 = .exit code → ∀ waiter task,
        ¬ ((start {} Platform.simulated (Arena.simulated 0)).run [.create]).tasks.Awakens
          waiter task :=
  deserted_of_emptyQueue_iff ⟨_, _, _, [.create], by decide, rfl⟩ (.awaitExit 1 2) 3 (by decide)

/-- Of two tasks the second has been woken and waits for the first to end. -/
def secondAwaitsFirst : Scheduler :=
  (start {} Platform.simulated (Arena.simulated 0)).run [.create, .wake 2 none, .awaitExit 2 1]

/-- The second task is runnable when the first has ended, and yet the processor stops for want of a
task. -/
theorem exit_strands_sleeper :
    secondAwaitsFirst.Undisturbed ∧
      (secondAwaitsFirst.perform (.exit 0)).answer = .error (.fault (.emptyQueue 3)) ∧
      (secondAwaitsFirst.perform (.exit 0)).state.tasks.queues.get 1 = [2] ∧
      ¬ (secondAwaitsFirst.perform (.exit 0)).state.tasks.Deserted :=
  ⟨⟨_, _, _, [.create, .wake 2 none, .awaitExit 2 1], by decide, rfl⟩, by decide, by decide,
    by decide⟩

end Scheduler

end TaskKernel
