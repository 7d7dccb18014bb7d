import TaskKernel.Proofs.ActiveLevel

/-!
# What the dispatcher decides

The dispatcher only says who is to go on; its caller moves the processor. For the caller it matters
that the answer and the state that comes with it agree. `Decided` says so of an operation that may
put the executing task to sleep:

* it decides on no switch and the executing task is the same, or
* it decides on a switch from the executing task to another live one, which executes now, or
* it is refused, and the executing task is the same, or
* it stops for want of a task.

A switch that is decided on takes one task out of the run queues, so that a row of them ends
(`length_toList_dropHead`). The end of a turn and of a task have specifications of their own
(`preempt_decides`, `exit_decides`).
-/

namespace TaskKernel

/-! ## The number of runnable tasks -/

namespace RunQueues

variable {q : RunQueues} {level : Level} {id : TaskId}

theorem length_toList (q : RunQueues) :
    q.toList.length =
      (q.get 3).length + (q.get 2).length + (q.get 1).length + (q.get 0).length := by
  simp only [toList, Level.descending, List.flatMap_cons, List.flatMap_nil, List.length_append,
    List.length_nil]
  omega

theorem length_toList_dropHead (h : q.head? level = some id) :
    (q.dropHead level).toList.length + 1 = q.toList.length := by
  obtain ⟨rest, hrest⟩ := head?_eq_some_iff.mp h
  have htail : ∀ other, ((q.dropHead level).get other).length + (if level = other then 1 else 0) =
      (q.get other).length := by
    intro other
    rw [dropHead, get_set]
    by_cases hlevel : level = other
    · subst hlevel
      rw [if_pos rfl, if_pos rfl, hrest, List.tail_cons, List.length_cons]
    · rw [if_neg hlevel, if_neg hlevel, Nat.add_zero]
  have hone : ∀ level : Level, (if level = 3 then 1 else 0) + (if level = 2 then 1 else 0) +
      (if level = 1 then 1 else 0) + (if level = 0 then 1 else 0) = 1 := by decide
  have hlevel := hone level
  rw [length_toList, length_toList, ← htail 3, ← htail 2, ← htail 1, ← htail 0]
  omega

end RunQueues

namespace Dispatcher

variable {d d' : Dispatcher} {id cpu : TaskId} {task : Task}

/-- Bookkeeping keeps the invariant of the run queues. -/
theorem Accounted.books (h : d.Accounted) (hsteps : d.Books d') : d'.Accounted :=
  hsteps.invariant Accounted.quiet Accounted.requeue h

/-- The executing task can be resumed. -/
theorem Accounted.resumable (h : d.Accounted) (hx : d.executing? = some cpu) :
    d.resumable? cpu = some cpu := by
  obtain ⟨task, hlive, _⟩ := h.executing_live hx
  rw [resumable?, context?, hlive]
  rfl

/-! ## Sleep -/

/-- The answer and the state of an operation agree on who goes on. An answer that is `settled` asks
for nothing; `told` is the answer that asks for a switch. -/
inductive Decided {α : Type} (d : Dispatcher) (cpu : TaskId) (settled : α → Prop)
    (told : Switch → α) (outcome : Result α) : Prop
  | stays {value : α} : outcome.answer = .ok value → settled value →
      outcome.state.executing? = some cpu → Decided d cpu settled told outcome
  | moves {next : TaskId} : outcome.answer = .ok (told { next, current := cpu }) →
      outcome.state.executing? = some next → next ≠ cpu →
      outcome.state.queues.toList.length + 1 = d.queues.toList.length →
      Decided d cpu settled told outcome
  | refused {cause : Refusal} : outcome.answer = .error (.refused cause) →
      outcome.state.executing? = some cpu → Decided d cpu settled told outcome
  | exhausted {level : Level} : outcome.answer = .error (.fault (.emptyQueue level)) →
      Decided d cpu settled told outcome

theorem Decided.imp {α : Type} {settled settled' : α → Prop} {told : Switch → α}
    {outcome : Result α} (h : d.Decided cpu settled told outcome)
    (himp : ∀ value, settled value → settled' value) : d.Decided cpu settled' told outcome := by
  cases h with
  | stays hanswer hsettled hx => exact .stays hanswer (himp _ hsettled) hx
  | moves hanswer hx hne hlength => exact .moves hanswer hx hne hlength
  | refused hanswer hx => exact .refused hanswer hx
  | exhausted hanswer => exact .exhausted hanswer

/-- A sleep that is the last part of another operation. -/
theorem Decided.map {α β : Type} {settled : β → Prop} {told : Switch → α} {outcome : Result α}
    (h : d'.Decided cpu (fun _ => False) told outcome) (hqueues : d'.queues = d.queues)
    (f : α → β) : d.Decided cpu settled (fun switch => f (told switch)) (outcome.map f) := by
  cases h with
  | stays _ hfalse _ => exact hfalse.elim
  | moves hanswer hx hne hlength =>
      exact .moves (by rw [Outcome.answer_map, hanswer]; rfl) hx hne (hqueues ▸ hlength)
  | refused hanswer hx => exact .refused (by rw [Outcome.answer_map, hanswer]; rfl) hx
  | exhausted hanswer => exact .exhausted (by rw [Outcome.answer_map, hanswer]; rfl)

/-- An operation that neither creates nor ends a task, and after which the run queues are as they
should be. -/
structure Orderly {α : Type} (d : Dispatcher) (outcome : Result α) : Prop where
  live : ∀ x, x ∈ outcome.state.tasks ↔ x ∈ d.tasks
  accounted : outcome.state.Accounted

/-- A task that falls asleep is not selected. -/
theorem Accounted.executing_doze (h : d.Accounted) (hx : d.executing? = some id)
    (hlive : d.tasks[id]? = some task) : (d.doze id task).executing? ≠ some id := by
  intro hselected
  have hplace := (h.doze hx hlive).place?_executing hselected
  rw [Dispatcher.doze, place?_rotate, place?_store_self] at hplace
  exact absurd hplace (by simp)

theorem mem_doze (hlive : d.tasks[id]? = some task) {x : TaskId} :
    x ∈ (d.doze id task).tasks ↔ x ∈ d.tasks := by
  rw [doze, tasks_rotate]
  exact mem_store_of_live hlive

theorem length_doze (hx : d.executing? = some id) (task : Task) :
    (d.doze id task).queues.toList.length + 1 = d.queues.toList.length := by
  have hx' : (d.store id { task with running := false }).executing? = some id := hx
  rw [doze, queues_rotate hx', if_neg (by decide)]
  exact RunQueues.length_toList_dropHead hx

theorem Suspended.orderly {outcome : Result (Option Switch)} (h : d.Suspended id outcome)
    (haccounted : d.Accounted) : d.Orderly outcome := by
  have hreleased : d.release.Accounted := haccounted.quiet .release
  cases h with
  | gone => exact ⟨fun _ => .rfl, hreleased⟩
  | asleep => exact ⟨fun _ => .rfl, hreleased⟩
  | dropped hlive hrunning =>
      exact ⟨fun _ => mem_store_of_live hlive, hreleased.dropOut hlive hrunning⟩
  | turned hlive _ hx => exact ⟨fun _ => mem_doze (d := d.release) hlive, hreleased.doze hx hlive⟩
  | stranded hlive _ hx =>
      exact ⟨fun _ => mem_doze (d := d.release) hlive, hreleased.doze hx hlive⟩

/-- The executing task does not sleep yet, so its own sleep leads to a switch or strands. -/
theorem Suspended.decided_self {outcome : Result (Option Switch)} (h : d.Suspended cpu outcome)
    (haccounted : d.Accounted) (hx : d.executing? = some cpu) :
    d.Decided cpu (fun _ => False) some outcome := by
  have hreleased : d.release.Accounted := haccounted.quiet .release
  obtain ⟨task, hlive, ⟨next, hnext, rfl⟩ | ⟨hnone, rfl⟩⟩ := h.of_executing haccounted hx
  · refine .moves rfl hnext ?_ (length_doze (d := d.release) hx task)
    rintro rfl
    exact hreleased.executing_doze hx hlive hnext
  · exact .exhausted rfl

/-- The executing task is not refused its sleep. -/
theorem suspend_ne_refused (haccounted : d.Accounted) (hx : d.executing? = some cpu)
    (cause : Refusal) : (d.suspend cpu).answer ≠ .error (.refused cause) := by
  obtain ⟨task, _, ⟨next, _, hdone⟩ | ⟨_, hfail⟩⟩ :=
    (suspended d cpu).of_executing haccounted hx
  · rw [hdone]
    simp
  · rw [hfail]
    simp

theorem suspend_decides (haccounted : d.Accounted) (hx : d.executing? = some cpu) (id : TaskId) :
    d.Decided cpu (· = none) some (d.suspend id) := by
  have h := suspended d id
  by_cases hself : id = cpu
  · subst hself
    exact (h.decided_self haccounted hx).imp fun _ hfalse => hfalse.elim
  · have hother : d.executing? ≠ some id := fun h => hself (Option.some.inj (h.symm.trans hx))
    have hbooks : d.Books (d.suspend id).state := by
      rcases h.steps with hbooks | ⟨hexecuting, _⟩
      · exact hbooks
      · exact absurd hexecuting hother
    have hstays := hbooks.executing hx
    generalize d.suspend id = outcome at h hstays
    cases h with
    | gone => exact .refused rfl hstays
    | asleep => exact .stays rfl rfl hstays
    | dropped => exact .stays rfl rfl hstays
    | turned _ _ hexecuting => exact absurd hexecuting hother
    | stranded _ _ hexecuting => exact absurd hexecuting hother

theorem suspend_orderly (haccounted : d.Accounted) (id : TaskId) : d.Orderly (d.suspend id) :=
  (suspended d id).orderly haccounted

/-! ## Waiting for an exit -/

theorem awaitExit_decides (haccounted : d.Accounted) (hx : d.executing? = some cpu)
    (target : TaskId) :
    d.Decided cpu (fun awaited => ∃ code, awaited = .exited code)
      (fun switch => .blocked (some switch)) (d.awaitExit cpu target) := by
  have h := inquired d cpu target
  generalize d.awaitExit cpu target = outcome at h
  cases h with
  | told => exact .stays rfl ⟨_, rfl⟩ hx
  | refused => exact .refused rfl hx
  | blocked _ htarget hwaiter hsuspended =>
      have hregister : d.Quiet (d.register cpu target) := .register htarget hwaiter
      have hslept := hsuspended.decided_self (haccounted.quiet hregister) hx
      exact Decided.map (d := d) hslept rfl Awaited.blocked

theorem awaitExit_orderly (haccounted : d.Accounted) (waiter target : TaskId) :
    d.Orderly (d.awaitExit waiter target) := by
  have h := inquired d waiter target
  generalize d.awaitExit waiter target = outcome at h
  cases h with
  | told hcode => exact ⟨fun _ => .rfl, haccounted.quiet (.tell hcode)⟩
  | refused => exact ⟨fun _ => .rfl, haccounted⟩
  | blocked _ htarget hwaiter hsuspended =>
      obtain ⟨hlive, hkept⟩ := hsuspended.orderly (haccounted.quiet (.register htarget hwaiter))
      exact ⟨hlive, hkept⟩

/-! ## Waiting for a message -/

theorem receiveOrSuspend_decides (haccounted : d.Accounted) (hx : d.executing? = some cpu) :
    d.Decided cpu (fun receipt => ∃ message, receipt = .message message)
      (fun switch => .asleep (some switch)) d.receiveOrSuspend := by
  have h := served d
  generalize d.receiveOrSuspend = outcome at h
  cases h with
  | stranded hnone => exact absurd (hnone.symm.trans hx) (by simp)
  | message => exact .stays rfl ⟨_, rfl⟩ hx
  | gone hid hgone =>
      obtain ⟨task, hlive, _⟩ := haccounted.executing_live hid
      exact absurd (hgone.symm.trans hlive) (by simp)
  | slept hid hlive _ hsuspended =>
      have hself := Option.some.inj (hid.symm.trans hx)
      subst hself
      have hcollected := haccounted.quiet (.update hlive .collect)
      have hslept := hsuspended.decided_self hcollected hx
      exact Decided.map (d := d) hslept rfl Receipt.asleep

theorem receiveOrSuspend_orderly (haccounted : d.Accounted) : d.Orderly d.receiveOrSuspend := by
  have h := served d
  generalize d.receiveOrSuspend = outcome at h
  cases h with
  | stranded => exact ⟨fun _ => .rfl, haccounted⟩
  | message _ hlive =>
      exact ⟨fun _ => mem_store_of_live hlive, haccounted.quiet (.update hlive .collect)⟩
  | gone => exact ⟨fun _ => .rfl, haccounted.quiet .release⟩
  | slept _ hlive _ hsuspended =>
      obtain ⟨hsame, hkept⟩ :=
        hsuspended.orderly (haccounted.quiet (.update hlive .collect))
      exact ⟨fun x => (hsame x).trans (mem_store_of_live hlive), hkept⟩

/-! ## The end of a turn and of a task -/

/-- The end of a turn decides on a task to resume exactly if that is another one. -/
theorem preempt_decides (haccounted : d.Accounted) (hx : d.executing? = some cpu)
    (saved : Context) :
    (d.preempt saved).2.Accounted ∧ ∃ next, (d.preempt saved).2.executing? = some next ∧
      (d.preempt saved).1.bind (d.preempt saved).2.resumable? =
        if next = cpu then none else some next := by
  have hturned : d.Turn (d.preempt saved).2 := by
    rw [preempt_of_executing hx]
    exact .elapse saved hx
  have haccounted' := haccounted.turn hturned
  have hx' := (executing_modifyTask d cpu ({ · with context := saved })).trans hx
  -- The task goes to the back of its own queue, so there is somebody to select.
  obtain ⟨next, hnext⟩ :=
    executing_iff_occupied.mpr (occupied_rotate hx' true ⟨_, occupied_rotate_true hx'⟩)
  rw [preempt_of_executing hx] at haccounted' ⊢
  refine ⟨haccounted', next, hnext, ?_⟩
  simp only [hnext, Option.filter_some]
  by_cases hsame : next = cpu
  · simp [hsame]
  · simp [hsame, haccounted'.resumable hnext]

/-- The end of the executing task strands, or decides on a task that can be resumed. -/
theorem exit_decides (haccounted : d.Accounted) (hx : d.executing? = some cpu) (code : Int32) :
    (d.exit code).state.Accounted ∧
      ((∃ level, (d.exit code).answer = .error (.fault (.emptyQueue level))) ∨
        ∃ next, (d.exit code).answer = .ok next ∧ (d.exit code).state.executing? = some next ∧
          (d.exit code).state.resumable? next = some next) := by
  have haccounted' : (d.exit code).state.Accounted := by
    rw [state_exit hx]
    exact (haccounted.turn (.finish code hx)).books (books_wakeAll _ _)
  refine ⟨haccounted', ?_⟩
  rw [exit_of_executing hx] at haccounted' ⊢
  -- Who executes is asked only when those who waited are awake.
  generalize (d.conclude cpu code).wakeAll (d.awaiting cpu) = woken at haccounted' ⊢
  simp only [Outcome.answer_after, Outcome.state_after, state_withCurrent_done] at haccounted' ⊢
  cases hnext : woken.executing? with
  | none =>
      rw [withCurrent_of_none hnext]
      exact .inl ⟨_, rfl⟩
  | some next =>
      rw [withCurrent_of_executing hnext]
      exact .inr ⟨next, rfl, rfl, haccounted'.resumable hnext⟩

end Dispatcher

end TaskKernel
