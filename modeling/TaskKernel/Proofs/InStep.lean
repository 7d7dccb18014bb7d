import TaskKernel.Proofs.Histories
import TaskKernel.Proofs.Switching

/-!
# The processor runs the task that executes

A call of the kernel either keeps the books (`Keeps`), may put the executing task to sleep
(`Switching`), or ends the turn or the life of the executing task. In each case the processor and
the dispatcher agree afterwards on who runs (`agrees_perform`), and by induction they do after any
number of calls (`inStep_run`), unless one stopped for want of a task.
-/

namespace TaskKernel

namespace Kernel

variable {α β : Type} {k : Kernel} {cpu : TaskId}

/-! ## Any method -/

theorem answer_fmap_eq_error {method : Method α} {cause : Exit} (f : α → β) :
    ((f <$> method) k).answer = .error cause ↔ (method k).answer = .error cause := by
  rw [Act.map_apply]
  exact Outcome.answer_map_eq_error_iff

/-- What the value of a method is used for does not matter. -/
theorem Agrees.fmap {method : Method α} (h : Agrees k cpu (method k)) (f : α → β) :
    Agrees k cpu ((f <$> method) k) := by
  have hsame : Exhausted ((f <$> method) k) ↔ Exhausted (method k) :=
    exists_congr fun _ => answer_fmap_eq_error f
  have hspinning := (not_congr (answer_fmap_eq_error f)).mpr h.ne_spinning
  have hattuned := h.attuned
  rw [← hsame] at hattuned
  rw [Act.map_apply] at hattuned hspinning ⊢
  exact ⟨h.faithful, h.live, hattuned, hspinning⟩

theorem Agrees.maskedUntilResumed {body : Method α}
    (h : Agrees { k with interrupts := false } cpu (body { k with interrupts := false })) :
    Agrees k cpu (Kernel.maskedUntilResumed body k) := by
  unfold Kernel.maskedUntilResumed
  simp only [Mask.acquire]
  split
  · exact ⟨h.faithful, h.live, h.attuned, h.ne_spinning⟩
  · exact Agrees.masked h

/-- A method that keeps the books is not noticed by the processor. -/
structure Keeps (k : Kernel) (outcome : Outcome Exit Event Kernel α) : Prop where
  silent : ∀ event ∈ outcome.events, event.Silent
  books : k.tasks.value.Books outcome.state.tasks.value
  tasks_use : outcome.state.tasks.borrowed = k.tasks.borrowed
  timers_use : outcome.state.timers.borrowed = k.timers.borrowed
  ne_spinning : outcome.answer ≠ .error .spinning

theorem Keeps.agrees {outcome : Outcome Exit Event Kernel α} (h : Keeps k outcome)
    (hattuned : k.Attuned cpu) : Agrees k cpu outcome := by
  refine agrees_of_silent h.silent (.inr ?_) h.ne_spinning
  exact ⟨h.tasks_use.trans hattuned.tasks_free, h.timers_use.trans hattuned.timers_free,
    hattuned.accounted.books h.books, h.books.executing hattuned.executing⟩

theorem Keeps.masked {body : Method α}
    (h : Keeps { k with interrupts := false } (body { k with interrupts := false })) :
    Keeps k (Kernel.masked body k) :=
  ⟨h.silent, h.books, h.tasks_use, h.timers_use, h.ne_spinning⟩

theorem Keeps.usingTasks {body : Method α} (hfree : k.tasks.borrowed = false)
    (h : Keeps { k with tasks := { k.tasks with borrowed := true } }
      (body { k with tasks := { k.tasks with borrowed := true } })) :
    Keeps k (Kernel.usingTasks body k) := by
  unfold Kernel.usingTasks
  simp only [Cell.borrow, hfree, Bool.false_eq_true, if_false]
  exact ⟨List.forall_mem_cons.mpr ⟨trivial, h.silent⟩, h.books, hfree.symm, h.timers_use,
    h.ne_spinning⟩

theorem Keeps.usingTimers {body : Method α} (hfree : k.timers.borrowed = false)
    (h : Keeps { k with timers := { k.timers with borrowed := true } }
      (body { k with timers := { k.timers with borrowed := true } })) :
    Keeps k (Kernel.usingTimers body k) := by
  unfold Kernel.usingTimers
  simp only [Cell.borrow, hfree, Bool.false_eq_true, if_false]
  exact ⟨List.forall_mem_cons.mpr ⟨trivial, h.silent⟩, h.books, h.tasks_use, hfree.symm,
    h.ne_spinning⟩

theorem mapError_ne_spinning (answer : Except Stop α) :
    answer.mapError Exit.stop ≠ .error .spinning := by
  cases answer with
  | error cause => simp [Except.mapError]
  | ok value => simp [Except.mapError]

theorem keeps_onTasks {operation : Dispatcher → Dispatcher.Result α}
    (hfree : k.tasks.borrowed = false)
    (hbooks : k.tasks.value.Books (operation k.tasks.value).state) :
    Keeps k (Kernel.masked (onTasks operation) k) :=
  Keeps.masked (Keeps.usingTasks hfree
    ⟨silent_notices _, hbooks, rfl, rfl, mapError_ne_spinning _⟩)

theorem keeps_onTimers (hfree : k.timers.borrowed = false)
    (operation : Timers → Except Fault Timers) :
    Keeps k (Kernel.masked (onTimers operation) k) := by
  refine Keeps.masked (Keeps.usingTimers hfree ?_)
  simp only
  split
  · exact ⟨silent_nil, .refl, rfl, rfl, by simp⟩
  · exact ⟨silent_nil, .refl, rfl, rfl, by simp⟩

theorem keeps_onBoth {operation : Scheduler → Scheduler.Result α}
    (hbooks : ∀ s : Scheduler, s.tasks.Books (operation s).state.tasks) (k : Kernel) :
    Keeps k (onBoth operation k) :=
  ⟨silent_notices _, hbooks { tasks := k.tasks.value, timers := k.timers.value }, rfl, rfl,
    mapError_ne_spinning _⟩

theorem keeps_tick (htasks : k.tasks.borrowed = false) (htimers : k.timers.borrowed = false) :
    Keeps k (tick k) :=
  Keeps.masked (Keeps.usingTimers htimers (Keeps.usingTasks htasks
    (keeps_onBoth Scheduler.books_tick _)))

theorem keeps_now (hfree : k.timers.borrowed = false) : Keeps k (now k) :=
  Keeps.masked (Keeps.usingTimers hfree
    ⟨silent_nil, .refl, rfl, rfl, by simp⟩)

/-! ## Going on for good -/

theorem agrees_resume {k' : Kernel} {next : TaskId} {events : List Event}
    (hsilent : ∀ event ∈ events, event.Silent) (hattuned : k'.Attuned next) :
    Agrees k cpu (.after events ((resume next : Method α) k')) := by
  constructor
  · exact faithful_append.mpr ⟨faithful_of_silent hsilent, trivial, trivial⟩
  · intro switch view hmem
    rcases List.mem_append.mp hmem with hmem | hmem
    · exact absurd (hsilent _ hmem) id
    · simp [resume, Outcome.after, Outcome.stop] at hmem
  · show Exhausted _ ∨ k'.Attuned (processor cpu (events ++ _))
    rw [processor_append]
    exact .inr hattuned
  · simp [resume]

/-- How a method ends is not changed by masking interrupts. -/
theorem Agrees.maskedUntilResumed_ends {body : Method α} (Ends : Except Exit α → Prop)
    (h : Agrees { k with interrupts := false } cpu (body { k with interrupts := false }) ∧
      Ends (body { k with interrupts := false }).answer) :
    Agrees k cpu (Kernel.maskedUntilResumed body k) ∧
      Ends (Kernel.maskedUntilResumed body k).answer := by
  refine ⟨h.1.maskedUntilResumed, ?_⟩
  unfold Kernel.maskedUntilResumed
  simp only [Mask.acquire]
  split
  · exact h.2
  · exact h.2

/-- The end of the executing task: another one is resumed, unless there is none. -/
theorem agrees_exit (h : k.Attuned cpu) (code : Int32) :
    Agrees k cpu (exit code k) ∧
      (Exhausted (exit code k) ∨ ∃ next, (exit code k).answer = .error (.resumed next)) := by
  obtain ⟨haccounted, hdecided⟩ := Dispatcher.exit_decides h.accounted h.executing code
  refine Agrees.maskedUntilResumed_ends (fun answer =>
    (∃ level, answer = .error (.stop (.fault (.emptyQueue level)))) ∨
      ∃ next, answer = .error (.resumed next)) ?_
  rw [Act.bind_apply, onTasks_apply (h.mask false).tasks_free]
  rcases hdecided with ⟨level, hempty⟩ | ⟨next, hanswer, hx, hresumable⟩
  · simp only [Outcome.bind, hempty, Except.mapError]
    exact ⟨agrees_of_silent (silent_entered _ _) (.inl ⟨level, rfl⟩) (by simp), .inl ⟨level, rfl⟩⟩
  · simp only [Outcome.bind, hanswer, Except.mapError, Outcome.done, hresumable]
    exact ⟨agrees_resume (silent_entered _ _) ⟨rfl, h.timers_free, haccounted, hx⟩,
      .inr ⟨next, rfl⟩⟩

theorem agrees_preempt (h : k.Attuned cpu) (saved : Context) :
    Agrees k cpu (preempt saved k) := by
  obtain ⟨haccounted, next, hnext, hanswer⟩ :=
    Dispatcher.preempt_decides h.accounted h.executing saved
  refine Agrees.maskedUntilResumed ?_
  rw [Act.bind_apply, onTasks_apply (h.mask false).tasks_free]
  have hattuned : ({ k with
      tasks := Cell.new (k.tasks.value.preempt saved).2
      interrupts := false } : Kernel).Attuned next :=
    ⟨rfl, h.timers_free, haccounted, hnext⟩
  -- The dispatcher names a task exactly if the processor does not run it already.
  simp only [Outcome.answer_done, hanswer, Except.mapError, Outcome.bind]
  by_cases hsame : next = cpu
  · subst hsame
    simp only [if_true, Act.pure_apply, Outcome.done, List.append_nil]
    exact agrees_of_silent (silent_entered _ _) (.inr hattuned) (by simp)
  · simp only [if_neg hsame]
    exact agrees_resume (silent_entered _ _) hattuned

/-! ## Calls -/

theorem agrees_perform (h : k.Attuned cpu) (call : Call) : Agrees k cpu (call.perform k) := by
  have hfree := h.tasks_free
  have htimers := h.timers_free
  cases call with
  | create =>
      exact ((keeps_onTasks hfree (Dispatcher.plain_create _).books).agrees h).fmap _
  | prepare id start =>
      exact ((keeps_onTasks hfree (Dispatcher.plain_prepareWith _ _ _ _).books).agrees h).fmap _
  | launch entry data level =>
      exact ((keeps_onTasks hfree (Dispatcher.plain_launch _ _ _ _).books).agrees h).fmap _
  | wake id level =>
      exact ((keeps_onTasks hfree (Dispatcher.plain_wake _ _ _).books).agrees h).fmap _
  | suspend id => exact (switching_suspend h id).toAgrees.fmap _
  | suspendCurrent => exact (switching_suspendCurrent h).toAgrees.fmap _
  | current =>
      have hbooks : k.tasks.value.Books
          (k.tasks.value.withCurrent (.done k.tasks.value)).state := by
        rw [Dispatcher.state_withCurrent_done]
      exact ((keeps_onTasks hfree hbooks).agrees h).fmap _
  | exit code => exact (agrees_exit h code).1.fmap _
  | awaitExit target => exact (switching_awaitExit h target).toAgrees.fmap _
  | send id message =>
      exact ((keeps_onTasks hfree (Dispatcher.books_send _ _ _)).agrees h).fmap _
  | receive id =>
      have hbooks := Dispatcher.books_of_quiet (Dispatcher.books_receive k.tasks.value id)
      exact ((keeps_onTasks hfree hbooks).agrees h).fmap _
  | awaitMessage => exact (switching_awaitMessage h).toAgrees.fmap _
  | armAt | armAfter => exact ((keeps_onTimers htimers _).agrees h).fmap _
  | now => exact ((keeps_now htimers).agrees h).fmap _
  | tick => exact ((keeps_tick hfree htimers).agrees h).fmap _
  | preempt saved => exact (agrees_preempt h saved).fmap _
  | giveFocus id =>
      have hattuned : ({ k with focus := id.filter (· ≠ TaskId.kernel) } : Kernel).Attuned cpu :=
        ⟨hfree, htimers, h.accounted, h.executing⟩
      exact Agrees.fmap (agrees_of_silent silent_nil
        (.inr hattuned) (by simp [giveFocus, Act.modify])) _
  | focused =>
      exact Agrees.fmap (agrees_of_silent silent_nil
        (.inr h) (by simp [focused])) _
  | restock arena =>
      have haccounted := h.accounted.quiet (.restock arena)
      exact Agrees.fmap (agrees_of_silent silent_nil
        (.inr ⟨hfree, htimers, haccounted, h.executing⟩) (by simp [restock, Act.modify])) _

/-- The kernel after some calls, however they ended. -/
def run (k : Kernel) (calls : List Call) : Kernel :=
  calls.foldl (fun k call => (call.perform k).state) k

/-- What is observed of some calls. -/
def trace (k : Kernel) : List Call → List Event
  | [] => []
  | call :: rest => (call.perform k).events ++ trace (call.perform k).state rest

/-- None of some calls stops for want of a task. -/
def Lasting (k : Kernel) : List Call → Prop
  | [] => True
  | call :: rest => ¬ Exhausted (call.perform k) ∧ Lasting (call.perform k).state rest

theorem attuned_start {config : Config} {platform : Platform} {arena : Arena} {interrupts : Bool}
    (h : start config platform arena interrupts = .ok k) : k.Attuned 1 := by
  unfold start at h
  cases htimers : (Timers.start config).startSchedule with
  | error cause =>
      rw [htimers] at h
      exact absurd h (by simp [bind, Except.bind])
  | ok timers =>
      rw [htimers] at h
      cases h
      exact ⟨rfl, rfl, Dispatcher.accounted_start config platform arena, rfl⟩

theorem attuned_run {calls : List Call} (h : k.Attuned cpu) (hlasting : k.Lasting calls) :
    Faithful cpu (k.trace calls) ∧ (k.run calls).Attuned (processor cpu (k.trace calls)) := by
  induction calls generalizing k cpu with
  | nil => exact ⟨trivial, h⟩
  | cons call rest ih =>
      obtain ⟨hcall, hrest⟩ := hlasting
      have hagrees := agrees_perform h call
      -- The rest starts with whatever task the first call left the processor to.
      obtain ⟨hfaithful, hattuned⟩ := ih (hagrees.attuned.resolve_left hcall) hrest
      refine ⟨faithful_append.mpr ⟨hagrees.faithful, hfaithful⟩, ?_⟩
      show Attuned _ (processor cpu ((call.perform k).events ++ _))
      rw [processor_append]
      exact hattuned

end Kernel

end TaskKernel
