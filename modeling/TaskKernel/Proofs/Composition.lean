import TaskKernel.Proofs.Switching

/-!
# Methods made up from the dispatcher's operations

The methods that put a task to sleep are all made up in the same way. Under a mask they ask the
dispatcher for a decision and carry out the switch that it comes to, and those that wait do so again
and again. So what is kept by the ways to put methods together, and holds of the dispatcher's
operations, holds of them all.
-/

namespace TaskKernel.Kernel

/-- Two properties that the dispatcher's operations have and that are kept when methods are put
together: `inner` of what is done under a mask, `outer` of what takes the mask. -/
structure Compositional (inner outer : {α : Type} → Method α → Prop) : Prop where
  inner_pure {α : Type} (value : α) : inner (pure value : Method α)
  inner_bind {α β : Type} {first : Method α} {next : α → Method β} :
    inner first → (∀ value, inner (next value)) → inner (first >>= next)
  onTasks {α : Type} (operation : Dispatcher → Dispatcher.Result α) : inner (onTasks operation)
  attempt {α : Type} {method : Method α} : inner method → inner (Kernel.attempt method)
  switched (switch : Switch) :
    inner fun k : Kernel => .after [.switched switch k.view] (.done k ())
  masked {α : Type} {body : Method α} : inner body → outer (Kernel.masked body)
  outer_pure {α : Type} (value : α) : outer (pure value : Method α)
  outer_bind {α β : Type} {first : Method α} {next : α → Method β} :
    outer first → (∀ value, outer (next value)) → outer (first >>= next)
  spinning {α : Type} : outer (Act.throw .spinning : Method α)

namespace Compositional

variable {inner outer : {α : Type} → Method α → Prop} {α : Type}

theorem carryOut (h : Compositional inner outer) (switch : Switch) :
    inner (Kernel.carryOut switch) := by
  unfold Kernel.carryOut
  split
  · refine h.inner_bind (h.onTasks _) fun possible => ?_
    cases possible with
    | true => exact h.switched switch
    | false => exact h.inner_pure ()
  · exact h.inner_pure ()

theorem suspend (h : Compositional inner outer) (id : TaskId) : outer (Kernel.suspend id) := by
  refine h.masked (h.inner_bind (h.onTasks _) fun switch => ?_)
  cases switch with
  | none => exact h.inner_pure ()
  | some switch => exact h.carryOut switch

theorem suspendCurrent (h : Compositional inner outer) : outer Kernel.suspendCurrent := by
  refine h.masked (h.inner_bind (h.attempt (h.onTasks _)) fun slept => ?_)
  match slept with
  | .error _ | .ok none => exact h.inner_pure ()
  | .ok (some switch) => exact h.carryOut switch

/-! ## Attempts -/

theorem exitAttempt (h : Compositional inner outer) (target : TaskId) :
    outer (Kernel.exitAttempt target) := by
  refine h.masked (h.inner_bind (h.onTasks _) fun awaited => ?_)
  match awaited with
  | .exited code => exact h.inner_pure (some code)
  | .blocked (some switch) => exact h.inner_bind (h.carryOut switch) fun () => h.inner_pure none
  | .blocked none => exact h.inner_pure none

theorem messageAttempt (h : Compositional inner outer) : outer Kernel.messageAttempt := by
  refine h.masked (h.inner_bind (h.onTasks _) fun receipt => ?_)
  match receipt with
  | .message message => exact h.inner_pure (some message)
  | .asleep (some switch) => exact h.inner_bind (h.carryOut switch) fun () => h.inner_pure none
  | .asleep none => exact h.inner_pure none

/-- Any number of attempts. -/
theorem attempts (h : Compositional inner outer) {attempt : Method (Option α)}
    {attempts : Nat → Method α} (hattempt : outer attempt)
    (hzero : attempts 0 = Act.throw .spinning)
    (hnext : ∀ n, attempts (n + 1) = attempt >>= (·.elim (attempts n) pure)) (n : Nat) :
    outer (attempts n) := by
  induction n with
  | zero =>
      rw [hzero]
      exact h.spinning
  | succ n ih =>
      rw [hnext]
      refine h.outer_bind hattempt fun answer => ?_
      cases answer with
      | none => exact ih
      | some value => exact h.outer_pure value

theorem exitAttempts (h : Compositional inner outer) (target : TaskId) (n : Nat) :
    outer (Kernel.exitAttempts target n) :=
  h.attempts (h.exitAttempt target) rfl (exitAttempts_succ target) n

theorem messageAttempts (h : Compositional inner outer) (n : Nat) :
    outer (Kernel.messageAttempts n) :=
  h.attempts h.messageAttempt rfl messageAttempts_succ n

end Compositional

end TaskKernel.Kernel
