import TaskKernel.Proofs.Composition
import TaskKernel.Proofs.Steps

/-!
# How the kernel's methods conduct themselves

Whatever a method does to tasks and timers, it has to leave the interrupt flag and the use of the
kernel's parts as it found them, and it must not be interrupted on the way. Two facts, each kept by
every way to build a method from others:

* `Proper` — flag and parts are as before, and what is entered, and every departure of the
  processor, is seen with interrupts off. Only a method at whose end the processor went on with
  another task for good leaves interrupts off.
* `Orderly` — besides, the processor departs in the midst of the uses in which the method was called,
  and of no others.
-/

namespace TaskKernel.Kernel

variable {α β : Type} {k : Kernel}

/-- How the kernel stood at an event. -/
def Event.view? : Event → Option View
  | .notice _ => none
  | .entered _ view | .switched _ view | .resumed _ view => some view

/-- How the kernel stood when the processor went on with another task. -/
def Event.departure? : Event → Option View
  | .notice _ | .entered _ _ => none
  | .switched _ view | .resumed _ view => some view

/-! ## Parts in use -/

/-- Whether a part is in use. -/
def uses (k : Kernel) : Part → Bool
  | .tasks => k.tasks.borrowed
  | .timers => k.timers.borrowed

/-- A part comes into use. -/
def take (k : Kernel) : Part → Kernel
  | .tasks => { k with tasks := { k.tasks with borrowed := true } }
  | .timers => { k with timers := { k.timers with borrowed := true } }

/-- A part is free again. -/
def giveBack (k : Kernel) : Part → Kernel
  | .tasks => { k with tasks := k.tasks.giveBack }
  | .timers => { k with timers := k.timers.giveBack }

@[simp] theorem uses_mask (k : Kernel) (interrupts : Bool) (part : Part) :
    ({ k with interrupts } : Kernel).uses part = k.uses part := by
  cases part <;> rfl

@[simp] theorem uses_take (k : Kernel) (part other : Part) :
    (k.take part).uses other = (k.uses other || part == other) := by
  cases part <;> cases other <;> simp [take, uses]

@[simp] theorem uses_giveBack (k : Kernel) (part other : Part) :
    (k.giveBack part).uses other = (k.uses other && part != other) := by
  cases part <;> cases other <;> simp [giveBack, uses, Cell.giveBack]

@[simp] theorem interrupts_take (k : Kernel) (part : Part) :
    (k.take part).interrupts = k.interrupts := by
  cases part <;> rfl

@[simp] theorem interrupts_giveBack (k : Kernel) (part : Part) :
    (k.giveBack part).interrupts = k.interrupts := by
  cases part <;> rfl

/-- To take a part and give it back changes nothing if it was free. -/
theorem giveBack_take {part : Part} (hfree : k.uses part = false) :
    (k.take part).giveBack part = k := by
  obtain ⟨⟨_, _⟩, ⟨_, _⟩, _, _⟩ := k
  cases part <;> cases hfree <;> rfl

theorem idle_iff : k.Idle ↔ ∀ part, k.uses part = false :=
  ⟨fun h part => by cases part with
    | tasks => exact h.tasks_free
    | timers => exact h.timers_free, fun h => ⟨h .tasks, h .timers⟩⟩

/-- A use of a part in one equation. -/
theorem use_apply (part : Part) (body : Method α) (k : Kernel) :
    use part body k =
      if k.uses part then .stop k (.stop (.fault .reentrantAccess))
      else ((body (k.take part)).after [.entered part (k.take part).view]).mapState
        (·.giveBack part) := by
  cases part with
  | tasks =>
      show usingTasks body k = _
      unfold usingTasks Cell.borrow
      cases h : k.tasks.borrowed with
      | true => simp [uses, h]
      | false =>
          simp only [uses, h, Bool.false_eq_true, if_false]
          rfl
  | timers =>
      show usingTimers body k = _
      unfold usingTimers Cell.borrow
      cases h : k.timers.borrowed with
      | true => simp [uses, h]
      | false =>
          simp only [uses, h, Bool.false_eq_true, if_false]
          rfl

/-! ## Flag and parts -/

/-- What happens to the interrupt flag and to the use of the parts. -/
structure Proper (k : Kernel) (outcome : Outcome Exit Event Kernel α) : Prop where
  uses_eq : ∀ part, outcome.state.uses part = k.uses part
  /-- Nothing can be interrupted. -/
  shielded : ∀ event ∈ outcome.events, ∀ view, event.view? = some view → view.interrupts = false
  /-- It is known when the processor went on with another task for good. -/
  announced : ∀ next,
    outcome.answer = .error (.resumed next) ↔ ∃ view, .resumed next view ∈ outcome.events
  flag : outcome.state.interrupts = k.interrupts ∨
    (∃ next, outcome.answer = .error (.resumed next)) ∧ outcome.state.interrupts = false

theorem proper_done (k : Kernel) (value : α) : Proper k (.done k value) where
  uses_eq := fun _ => rfl
  shielded := by simp [Outcome.done]
  announced := by simp [Outcome.done]
  flag := .inl rfl

theorem proper_stop (k : Kernel) {cause : Exit} (h : ∀ next, cause ≠ .resumed next) :
    Proper k (.stop k cause : Outcome Exit Event Kernel α) where
  uses_eq := fun _ => rfl
  shielded := by simp [Outcome.stop]
  announced := by simp [Outcome.stop, h]
  flag := .inl rfl

theorem Proper.flag_of_ok {outcome : Outcome Exit Event Kernel α} {value : α}
    (h : Proper k outcome) (hanswer : outcome.answer = .ok value) :
    outcome.state.interrupts = k.interrupts := by
  rcases h.flag with hflag | ⟨⟨id, hresumed⟩, _⟩
  · exact hflag
  · exact absurd (hanswer.symm.trans hresumed) (by simp)

/-- One method after another. -/
theorem Proper.bind {first : Outcome Exit Event Kernel α}
    {next : α → Kernel → Outcome Exit Event Kernel β} (hfirst : Proper k first)
    (hnext : ∀ value, first.answer = .ok value → first.state.interrupts = k.interrupts →
      Proper first.state (next value first.state)) :
    Proper k (first.bind next) := by
  cases hanswer : first.answer with
  | error cause =>
      have hannounced := hfirst.announced
      have hflag := hfirst.flag
      rw [hanswer] at hannounced hflag
      unfold Outcome.bind
      rw [hanswer]
      refine ⟨hfirst.uses_eq, hfirst.shielded, fun id => ?_, ?_⟩
      · rw [← hannounced id]
        simp only [Except.error.injEq]
      · simpa only [Except.error.injEq] using hflag
  | ok value =>
      have hflag := hfirst.flag_of_ok hanswer
      have hsecond := hnext value hanswer hflag
      -- It went on, so the processor has not gone on with another task.
      have hsilent : ∀ id view, .resumed id view ∉ first.events := by
        intro id view hmem
        exact absurd (hanswer.symm.trans ((hfirst.announced id).mpr ⟨view, hmem⟩)) (by simp)
      unfold Outcome.bind
      rw [hanswer]
      refine ⟨fun part => (hsecond.uses_eq part).trans (hfirst.uses_eq part),
        fun event hmem => ?_, fun id => ?_, hflag ▸ hsecond.flag⟩
      · rcases List.mem_append.mp hmem with hmem | hmem
        · exact hfirst.shielded event hmem
        · exact hsecond.shielded event hmem
      · simp only [hsecond.announced id, List.mem_append, hsilent, false_or]

/-- What follows from an answer does not matter if it is no use of the kernel. -/
theorem Proper.of_answer {outcome : Outcome Exit Event Kernel α} {answer : Except Exit β}
    (h : Proper k outcome)
    (hsame : ∀ next, answer = .error (.resumed next) ↔ outcome.answer = .error (.resumed next)) :
    Proper k { outcome with answer } where
  uses_eq := h.uses_eq
  shielded := h.shielded
  announced := fun next => (hsame next).trans (h.announced next)
  flag := h.flag.imp id fun ⟨hresumed, hoff⟩ => ⟨(exists_congr hsame).mpr hresumed, hoff⟩

theorem Proper.fmap {method : Method α} (h : Proper k (method k)) (f : α → β) :
    Proper k ((f <$> method) k) := by
  rw [Act.map_apply]
  exact h.of_answer fun next => Outcome.answer_map_eq_error_iff

theorem Proper.attempt {method : Method α} (h : Proper k (method k)) :
    Proper k (Kernel.attempt method k) := by
  refine h.of_answer fun next => ?_
  split <;> simp_all

/-- Under a mask the flag is off, and afterwards it is as before. -/
theorem Proper.masked {body : Method α}
    (h : Proper { k with interrupts := false } (body { k with interrupts := false })) :
    Proper k (Kernel.masked body k) ∧ (Kernel.masked body k).state.interrupts = k.interrupts := by
  have hoff : (body { k with interrupts := false }).state.interrupts = false :=
    h.flag.elim id fun hresumed => hresumed.2
  have hflag : (Kernel.masked body k).state.interrupts = k.interrupts := by
    rw [masked_apply]
    show (_ || k.interrupts) = k.interrupts
    rw [hoff, Bool.false_or]
  exact ⟨⟨h.uses_eq, h.shielded, h.announced, .inl hflag⟩, hflag⟩

/-- Interrupts stay off if the processor went on with another task for good. -/
def DarkIfResumed (outcome : Outcome Exit Event Kernel α) : Prop :=
  ∀ next, outcome.answer = .error (.resumed next) → outcome.state.interrupts = false

/-- The same, but for a method at whose end the processor went on with another task. -/
theorem Proper.maskedUntilResumed {body : Method α}
    (h : Proper { k with interrupts := false } (body { k with interrupts := false })) :
    Proper k (Kernel.maskedUntilResumed body k) ∧
      DarkIfResumed (Kernel.maskedUntilResumed body k) := by
  have hoff : (body { k with interrupts := false }).state.interrupts = false :=
    h.flag.elim id fun hresumed => hresumed.2
  unfold Kernel.maskedUntilResumed
  simp only [Mask.acquire]
  -- The mask is lost on one of the two ways out, and released on the other.
  split
  · rename_i id hanswer
    exact ⟨⟨h.uses_eq, h.shielded, h.announced, .inr ⟨⟨id, hanswer⟩, hoff⟩⟩,
      fun _ _ => hoff⟩
  · rename_i hother
    refine ⟨⟨h.uses_eq, h.shielded, h.announced, .inl ?_⟩, ?_⟩
    · show (_ || k.interrupts) = k.interrupts
      rw [hoff, Bool.false_or]
    · exact fun next hresumed => absurd hresumed (hother next)

theorem proper_lift {σ : Type} {state : σ → Kernel} (outcome : Outcome Stop Notice σ α)
    (huses : ∀ part, (state outcome.state).uses part = k.uses part)
    (hflag : (state outcome.state).interrupts = k.interrupts) :
    Proper k (lift outcome state) where
  uses_eq := huses
  shielded := by simp [lift, Event.view?]
  announced := by
    intro next
    cases h : outcome.answer <;> simp [lift, h, Except.mapError]
  flag := .inl hflag

/-- While a part is used it is in use, and afterwards it is free again. A part in use is not used
again. -/
theorem Proper.use {body : Method α} (hoff : k.interrupts = false) (part : Part)
    (h : k.uses part = false → Proper (k.take part) (body (k.take part))) :
    Proper k (Kernel.use part body k) := by
  rw [use_apply]
  by_cases hfree : k.uses part = true
  · rw [if_pos hfree]
    exact proper_stop k (by simp)
  · rw [Bool.not_eq_true] at hfree
    rw [hfree, if_neg Bool.false_ne_true]
    specialize h hfree
    constructor
    · intro other
      show ((body (k.take part)).state.giveBack part).uses other = k.uses other
      rw [uses_giveBack, h.uses_eq, uses_take]
      by_cases hsame : part = other
      · simp [← hsame, hfree]
      · simp only [beq_false_of_ne hsame, bne, Bool.or_false, Bool.not_false, Bool.and_true]
    · intro event hmem view hview
      rcases List.mem_cons.mp hmem with rfl | hmem
      · cases hview
        exact (interrupts_take k part).trans hoff
      · exact h.shielded event hmem view hview
    · intro next
      show (body (k.take part)).answer = _ ↔ ∃ view, _ ∈ _ :: (body (k.take part)).events
      simp only [h.announced next, List.mem_cons, reduceCtorEq, false_or]
    · have hflag := h.flag
      rw [interrupts_take] at hflag
      refine Or.imp (fun hsame => ?_) (fun hresumed => ⟨hresumed.1, ?_⟩) hflag
      · exact (interrupts_giveBack _ part).trans hsame
      · exact (interrupts_giveBack _ part).trans hresumed.2

/-! ## Departures -/

/-- Which parts are in use. -/
def View.uses (view : View) : Part → Bool
  | .tasks => view.tasksInUse
  | .timers => view.timersInUse

@[simp] theorem uses_view (k : Kernel) (part : Part) : k.view.uses part = k.uses part := by
  cases part <;> rfl

/-- What a method does for which no part is taken but within the method's own steps. When the
processor departs, the parts in use are those in whose use the method was called. -/
structure Orderly (k : Kernel) (outcome : Outcome Exit Event Kernel α) : Prop
    extends Proper k outcome where
  departs : ∀ event ∈ outcome.events, ∀ view, event.departure? = some view →
    ∀ part, view.uses part = k.uses part

theorem Proper.orderly {outcome : Outcome Exit Event Kernel α} (h : Proper k outcome)
    (hstays : ∀ event ∈ outcome.events, event.departure? = none) : Orderly k outcome where
  toProper := h
  departs := by
    intro event hmem view hview
    exact absurd ((hstays event hmem).symm.trans hview) (by simp)

theorem Orderly.bind {first : Outcome Exit Event Kernel α}
    {next : α → Kernel → Outcome Exit Event Kernel β} (hfirst : Orderly k first)
    (hnext : ∀ value, first.answer = .ok value → first.state.interrupts = k.interrupts →
      Orderly first.state (next value first.state)) :
    Orderly k (first.bind next) := by
  refine ⟨hfirst.toProper.bind fun value hanswer hflag => (hnext value hanswer hflag).toProper, ?_⟩
  unfold Outcome.bind
  split
  · exact hfirst.departs
  · rename_i value hanswer
    have hsecond := hnext value hanswer (hfirst.flag_of_ok hanswer)
    intro event hmem view hview part
    rcases List.mem_append.mp hmem with hmem | hmem
    · exact hfirst.departs event hmem view hview part
    · exact (hsecond.departs event hmem view hview part).trans (hfirst.uses_eq part)

theorem Orderly.fmap {method : Method α} (h : Orderly k (method k)) (f : α → β) :
    Orderly k ((f <$> method) k) where
  toProper := h.toProper.fmap f
  departs := by
    rw [Act.map_apply]
    exact h.departs

theorem Orderly.attempt {method : Method α} (h : Orderly k (method k)) :
    Orderly k (Kernel.attempt method k) := ⟨h.toProper.attempt, h.departs⟩

theorem Orderly.masked {body : Method α}
    (h : Orderly { k with interrupts := false } (body { k with interrupts := false })) :
    Orderly k (Kernel.masked body k) := ⟨h.toProper.masked.1, h.departs⟩

theorem Orderly.maskedUntilResumed {body : Method α}
    (h : Orderly { k with interrupts := false } (body { k with interrupts := false })) :
    Orderly k (Kernel.maskedUntilResumed body k) ∧
      DarkIfResumed (Kernel.maskedUntilResumed body k) := by
  refine ⟨⟨h.toProper.maskedUntilResumed.1, ?_⟩, h.toProper.maskedUntilResumed.2⟩
  unfold Kernel.maskedUntilResumed
  simp only [Mask.acquire]
  split
  · exact h.departs
  · exact h.departs

theorem orderly_done (k : Kernel) (value : α) : Orderly k (.done k value) :=
  (proper_done k value).orderly (by simp [Outcome.done])

theorem stays_lift {σ : Type} (outcome : Outcome Stop Notice σ α) (state : σ → Kernel) :
    ∀ event ∈ (lift outcome state).events, event.departure? = none := by
  simp [lift, Event.departure?]

theorem stays_use {body : Method α} (h : ∀ k, ∀ event ∈ (body k).events, event.departure? = none)
    (part : Part) (k : Kernel) : ∀ event ∈ (use part body k).events, event.departure? = none := by
  rw [use_apply]
  split
  · simp [Outcome.stop]
  · exact List.forall_mem_cons.mpr ⟨rfl, h _⟩

/-- An operation of the dispatcher. -/
theorem orderly_onTasks (hoff : k.interrupts = false)
    (operation : Dispatcher → Dispatcher.Result α) : Orderly k (onTasks operation k) := by
  refine Proper.orderly (Proper.use hoff .tasks fun _ => ?_) (stays_use (fun _ => ?_) .tasks k)
  · exact proper_lift _ (fun part => by cases part <;> rfl) rfl
  · exact stays_lift _ _

theorem proper_onBoth (operation : Scheduler → Scheduler.Result α) (k : Kernel) :
    Proper k (onBoth operation k) :=
  proper_lift _ (fun part => by cases part <;> rfl) rfl

theorem stays_onTimers (operation : Timers → Except Fault Timers) (k : Kernel) :
    ∀ event ∈ (onTimers operation k).events, event.departure? = none := by
  refine stays_use (fun k => ?_) .timers k
  simp only
  split <;> simp [Outcome.done, Outcome.stop]

theorem orderly_onTimers (hoff : k.interrupts = false)
    (operation : Timers → Except Fault Timers) : Orderly k (onTimers operation k) := by
  refine Proper.orderly (Proper.use hoff .timers fun _ => ?_) (stays_onTimers operation k)
  simp only
  split
  · refine ⟨fun part => by cases part <;> rfl, ?_, ?_, .inl rfl⟩ <;> simp [Outcome.done]
  · exact proper_stop _ (by simp)

theorem orderly_tick (hoff : k.interrupts = false) :
    Orderly k (usingTimers (usingTasks (onBoth (·.tick))) k) := by
  refine Proper.orderly (Proper.use hoff .timers fun _ => ?_)
    (stays_use (stays_use (fun _ => stays_lift _ _) .tasks) .timers k)
  exact Proper.use ((interrupts_take k .timers).trans hoff) .tasks fun _ => proper_onBoth _ _

theorem stays_now (k : Kernel) :
    ∀ event ∈ (use .timers (fun k => .done k k.timers.value.now) k).events,
      event.departure? = none :=
  stays_use (fun _ => by simp [Outcome.done]) .timers k

theorem orderly_now (hoff : k.interrupts = false) :
    Orderly k (use .timers (fun k => .done k k.timers.value.now) k) := by
  refine Proper.orderly (Proper.use hoff .timers fun _ => ?_) (stays_now k)
  exact proper_done _ _

/-- The processor departs for good. -/
theorem orderly_resume (hoff : k.interrupts = false) (next : TaskId) :
    Orderly k ((resume next : Method α) k) := by
  refine ⟨⟨fun _ => rfl, ?_, ?_, .inl rfl⟩, ?_⟩
  · intro event hmem view hview
    cases List.mem_singleton.mp hmem
    cases hview
    exact hoff
  · intro id
    simp [resume, Outcome.after, Outcome.stop, eq_comm]
  · intro event hmem view hview part
    cases List.mem_singleton.mp hmem
    cases hview
    exact uses_view k part

theorem orderly_switched (hoff : k.interrupts = false) (switch : Switch) :
    Orderly k (.after [.switched switch k.view] (.done k ())) := by
  refine ⟨⟨fun _ => rfl, ?_, by simp [Outcome.after, Outcome.done], .inl rfl⟩, ?_⟩
  · intro event hmem view hview
    cases List.mem_singleton.mp hmem
    cases hview
    exact hoff
  · intro event hmem view hview part
    cases List.mem_singleton.mp hmem
    cases hview
    exact uses_view k part

/-! ## Calls -/

theorem orderly_masked (k : Kernel) (operation : Dispatcher → Dispatcher.Result α) :
    Orderly k (masked (onTasks operation) k) := (orderly_onTasks rfl operation).masked

/-- What is done with interrupts off is orderly, and so is what takes the mask, however interrupts
are. -/
theorem compositional_orderly : Compositional
    (fun method => ∀ k : Kernel, k.interrupts = false → Orderly k (method k))
    (fun method => ∀ k, Orderly k (method k)) where
  inner_pure := fun value k _ => orderly_done k value
  inner_bind := fun hfirst hnext k hoff =>
    (hfirst k hoff).bind fun value _ hflag => hnext value _ (hflag.trans hoff)
  onTasks := fun operation _ hoff => orderly_onTasks hoff operation
  attempt := fun h k hoff => (h k hoff).attempt
  switched := fun switch _ hoff => orderly_switched hoff switch
  masked := fun h _ => (h _ rfl).masked
  outer_pure := fun value k => orderly_done k value
  outer_bind := fun hfirst hnext k => (hfirst k).bind fun value _ _ => hnext value _
  spinning := fun k => (proper_stop k (by simp)).orderly (by simp [Outcome.stop])

theorem orderly_exit (k : Kernel) (code : Int32) :
    Orderly k (exit code k) ∧ DarkIfResumed (exit code k) := by
  refine Orderly.maskedUntilResumed ((orderly_onTasks rfl _).bind fun next _ hflag => ?_)
  cases next with
  | none => exact (proper_stop _ (by simp)).orderly (by simp [Outcome.stop])
  | some next => exact orderly_resume hflag next

theorem orderly_preempt (k : Kernel) (saved : Context) :
    Orderly k (preempt saved k) ∧ DarkIfResumed (preempt saved k) := by
  refine Orderly.maskedUntilResumed ((orderly_onTasks rfl _).bind fun next _ hflag => ?_)
  cases next with
  | none => exact orderly_done _ ()
  | some next => exact orderly_resume hflag next

/-- **Every call is orderly.** -/
theorem orderly_perform (k : Kernel) (call : Call) : Orderly k (call.perform k) := by
  cases call with
  | create => exact (orderly_masked k (·.create)).fmap _
  | prepare id start => exact (orderly_masked k (·.prepare id start)).fmap _
  | launch entry data level => exact (orderly_masked k (·.launch entry data level)).fmap _
  | wake id level => exact (orderly_masked k (·.wake id level)).fmap _
  | suspend id => exact (compositional_orderly.suspend id k).fmap _
  | suspendCurrent => exact (compositional_orderly.suspendCurrent k).fmap _
  | current => exact (orderly_masked k fun d => d.withCurrent (.done d)).fmap _
  | exit code => exact (orderly_exit k code).1.fmap _
  | awaitExit target => exact (compositional_orderly.exitAttempts target _ k).fmap _
  | send id message => exact (orderly_masked k (·.send id message)).fmap _
  | receive id => exact (orderly_masked k (·.receive id)).fmap _
  | awaitMessage => exact (compositional_orderly.messageAttempts _ k).fmap _
  | armAt timeout value target label => exact ((orderly_onTimers rfl _).masked).fmap _
  | armAfter delay value target label => exact ((orderly_onTimers rfl _).masked).fmap _
  | now => exact ((orderly_now rfl).masked).fmap _
  | tick => exact ((orderly_tick rfl).masked).fmap _
  | preempt saved => exact (orderly_preempt k saved).1.fmap _
  | giveFocus | restock =>
      refine Orderly.fmap (Proper.orderly ⟨fun part => ?_, ?_, ?_, .inl rfl⟩ ?_) _
      · cases part <;> rfl
      all_goals simp [Kernel.giveFocus, Kernel.restock, Act.modify, Outcome.done]
  | focused => exact (orderly_done k k.focus).fmap _

end TaskKernel.Kernel
