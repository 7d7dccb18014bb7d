import TaskKernel.Proofs.Clients
import TaskKernel.Proofs.InStep

/-!
# The interrupt flag

Masks nest, are taken anew in each round of a loop, and are lost on purpose where the processor goes
on with another task for good. Main statement (`flagKept_perform`): nothing is entered and the
processor never departs with interrupts on, and the flag is as before however a method ends, unless
it is an exit or the end of a turn at which another task went on for good; then the flag stays off.
-/

namespace TaskKernel.Kernel

variable {α β : Type} {k : Kernel}

/-- The processor went on with another task for good. -/
def Resumed (outcome : Outcome Exit Event Kernel α) : Prop :=
  ∃ next, outcome.answer = .error (.resumed next)

/-! ## Methods that come back -/

/-- The processor comes back from a method. -/
def Returns (method : Method α) : Prop := ∀ k, ¬ Resumed (method k)

theorem returns_pure (value : α) : Returns (pure value : Method α) := by
  rintro k ⟨next, hresumed⟩
  cases hresumed

theorem Returns.bind {first : Method α} {body : α → Method β} (hfirst : Returns first)
    (hbody : ∀ value, Returns (body value)) : Returns (first >>= body) := by
  rintro k ⟨next, hresumed⟩
  cases hanswer : (first k).answer with
  | error cause =>
      have hcause := (Outcome.answer_bind_of_error hanswer body).symm.trans hresumed
      exact hfirst k ⟨next, hanswer.trans (congrArg Except.error (Except.error.inj hcause))⟩
  | ok value =>
      exact hbody value _ ⟨next, (Outcome.answer_bind_of_ok hanswer body).symm.trans hresumed⟩

theorem Returns.fmap {method : Method α} (h : Returns method) (f : α → β) :
    Returns (f <$> method) :=
  fun k ⟨next, hresumed⟩ => h k ⟨next, (answer_fmap_eq_error f).mp hresumed⟩

theorem Returns.masked {body : Method α} (h : Returns body) : Returns (Kernel.masked body) :=
  fun _ hresumed => h _ hresumed

theorem Returns.attempt {method : Method α} (h : Returns method) :
    Returns (Kernel.attempt method) := by
  rintro k ⟨next, hresumed⟩
  simp only [Kernel.attempt] at hresumed
  split at hresumed
  · cases hresumed
  · cases hresumed
  · rename_i hanswer
    exact h k ⟨next, hanswer.trans (congrArg Except.error (Except.error.inj hresumed))⟩

theorem Returns.use {body : Method α} (h : Returns body) (part : Part) :
    Returns (Kernel.use part body) := by
  rintro k ⟨next, hresumed⟩
  rw [use_apply] at hresumed
  split at hresumed
  · cases hresumed
  · exact h _ ⟨next, hresumed⟩

theorem not_resumed_lift {σ : Type} (outcome : Outcome Stop Notice σ α) (state : σ → Kernel) :
    ¬ Resumed (lift outcome state) := by
  rintro ⟨next, hresumed⟩
  simp only [lift] at hresumed
  cases hanswer : outcome.answer with
  | ok value =>
      rw [hanswer] at hresumed
      cases hresumed
  | error cause =>
      rw [hanswer] at hresumed
      cases hresumed

theorem returns_onTasks (operation : Dispatcher → Dispatcher.Result α) :
    Returns (onTasks operation) :=
  Returns.use (fun _ => not_resumed_lift _ _) .tasks

theorem returns_onTimers (operation : Timers → Except Fault Timers) :
    Returns (onTimers operation) := by
  refine Returns.use (fun k => ?_) .timers
  rintro ⟨next, hresumed⟩
  simp only at hresumed
  split at hresumed
  · cases hresumed
  · cases hresumed

theorem compositional_returns : Compositional Returns Returns where
  inner_pure := returns_pure
  inner_bind := Returns.bind
  onTasks := returns_onTasks
  attempt := Returns.attempt
  switched := fun _ _ ⟨_, hresumed⟩ => nomatch hresumed
  masked := Returns.masked
  outer_pure := returns_pure
  outer_bind := Returns.bind
  spinning := fun _ ⟨_, hresumed⟩ => nomatch hresumed

/-- A call at whose end the processor may go on with another task for good. -/
def Call.HandsOver : Call → Prop
  | .exit _ | .preempt _ => True
  | _ => False

theorem returns_perform {call : Call} (h : ¬ call.HandsOver) : Returns call.perform := by
  cases call with
  | exit | preempt => exact absurd trivial h
  | create | prepare | launch | wake | current | send | receive =>
      exact (returns_onTasks _).masked.fmap _
  | suspend id => exact Returns.fmap (compositional_returns.suspend id) _
  | suspendCurrent => exact Returns.fmap compositional_returns.suspendCurrent _
  | awaitExit target =>
      exact Returns.fmap (fun k => compositional_returns.exitAttempts target k.attemptsFor k) _
  | awaitMessage =>
      exact Returns.fmap (fun k => compositional_returns.messageAttempts k.attemptsFor k) _
  | armAt | armAfter => exact (returns_onTimers _).masked.fmap _
  | now => exact (Returns.use (fun _ ⟨_, hresumed⟩ => nomatch hresumed) .timers).masked.fmap _
  | tick =>
      have hboth : Returns (onBoth fun s : Scheduler => s.tick) := fun _ => not_resumed_lift _ _
      exact ((hboth.use .tasks).use .timers).masked.fmap _
  | giveFocus | focused | restock =>
      exact Returns.fmap (fun _ ⟨_, hresumed⟩ => nomatch hresumed) _

/-! ## The flag -/

/-- How the interrupt flag fares while a method is carried out and afterwards. -/
structure FlagKept (k : Kernel) (outcome : Outcome Exit Event Kernel α) : Prop where
  /-- Parts are entered, and the processor departs, with interrupts off. -/
  shielded : ∀ event ∈ outcome.events, ∀ view, event.view? = some view → view.interrupts = false
  /-- Afterwards interrupts are on exactly if they were on before and the processor has not gone on
  with another task for good. -/
  flag : outcome.state.interrupts = true ↔ k.interrupts = true ∧ ¬ Resumed outcome
  /-- It has if such a departure is seen. -/
  resumed : Resumed outcome ↔ ∃ next view, .resumed next view ∈ outcome.events

theorem Proper.flagKept {outcome : Outcome Exit Event Kernel α} (h : Proper k outcome)
    (hdark : DarkIfResumed outcome) : FlagKept k outcome where
  shielded := h.shielded
  flag := by
    by_cases hresumed : Resumed outcome
    · obtain ⟨next, hanswer⟩ := hresumed
      simp [hdark next hanswer, show Resumed outcome from ⟨next, hanswer⟩]
    · rw [h.flag.resolve_right fun hoff => hresumed hoff.1]
      simp [hresumed]
  resumed := exists_congr h.announced

theorem Returns.dark {method : Method α} (h : Returns method) (k : Kernel) :
    DarkIfResumed (method k) := fun next hresumed => absurd ⟨next, hresumed⟩ (h k)

theorem DarkIfResumed.fmap {method : Method α} (h : DarkIfResumed (method k)) (f : α → β) :
    DarkIfResumed ((f <$> method) k) := by
  intro next hresumed
  rw [Act.map_apply]
  exact h next ((answer_fmap_eq_error f).mp hresumed)

theorem dark_perform (k : Kernel) (call : Call) : DarkIfResumed (call.perform k) := by
  by_cases h : call.HandsOver
  · cases call with
    | exit code => exact (orderly_exit k code).2.fmap _
    | preempt saved => exact (orderly_preempt k saved).2.fmap _
    | _ => exact h.elim
  · exact (returns_perform h).dark k

/-- **Interrupts stay off while they must and are on again afterwards.** Of every call, in whatever
state of the kernel and however it ends; of the methods that wait, for any number of attempts; and
of every use of a part, whatever is done in it. Only an exit and the end of a turn can end with
another task going on for good, and then interrupts stay off. -/
theorem flagKept_perform (k : Kernel) :
    (∀ call : Call, FlagKept k (call.perform k) ∧
      (Resumed (call.perform k) → call.HandsOver)) ∧
    (∀ target attempts, FlagKept k (exitAttempts target attempts k) ∧
      ¬ Resumed (exitAttempts target attempts k)) ∧
    (∀ attempts, FlagKept k (messageAttempts attempts k) ∧
      ¬ Resumed (messageAttempts attempts k)) ∧
    ∀ part (inside : Client),
      (∀ event ∈ (masked (use part inside.perform) k).events, ∀ view,
        event.view? = some view → view.interrupts = false) ∧
      (masked (use part inside.perform) k).state.interrupts = k.interrupts := by
  refine ⟨fun call => ⟨(orderly_perform k call).flagKept (dark_perform k call), ?_⟩,
    fun target attempts => ?_, fun attempts => ?_, fun part inside => ?_⟩
  · intro hresumed
    by_contra hkeeps
    exact returns_perform hkeeps k hresumed
  · have hreturns : Returns (exitAttempts target attempts) :=
      compositional_returns.exitAttempts target attempts
    have horderly := compositional_orderly.exitAttempts target attempts k
    exact ⟨horderly.flagKept (hreturns.dark k), hreturns k⟩
  · have hreturns : Returns (messageAttempts attempts) :=
      compositional_returns.messageAttempts attempts
    have horderly := compositional_orderly.messageAttempts attempts k
    exact ⟨horderly.flagKept (hreturns.dark k), hreturns k⟩
  · have huse := Proper.use (k := { k with interrupts := false }) rfl part
      fun _ => proper_client inside _
    exact ⟨huse.masked.1.shielded, huse.masked.2⟩

end TaskKernel.Kernel
