import TaskKernel.Guard.Section
import Mathlib.Data.List.Induction
import Mathlib.Data.List.Nodup

/-!
# Masks in any order

A mask remembers whether interrupts were on when it was taken, and masks may be given back in any
order. Of the masks that are held at most one remembers that interrupts were on: the *keeper*, which
switched them off. Which one it is can be told from what is done with the masks alone
(`keeperAfter`).

* `Kept` — the invariant: interrupts are on exactly if they were on at first and there is no keeper.
  Taking a mask or giving one back keeps it (`Kept.perform`), and so does every row of such steps
  (`kept_handle`);
* `keeperAfter_eq` — the mask that is held longest is the keeper, unless one that was held longest
  has been given back before the others. That left masks without a keeper
  (`keeperAfter_ne_none_iff`).

Hence interrupts are off whenever a mask is held exactly if the mask that is held longest is always
given back last, and in any order they are as at first when no mask is held any more
(`shielded_handle_iff`). Nested masks, which are given back in reverse order, keep interrupts off
(`shielded_of_nested`), and two masks that are not nested need not (`exposed_first_of_two`).
-/

namespace TaskKernel.Guard

/-! ## Rows of masks -/

/-- What is done with a mask that is kept under a name. A mask that is taken replaces the one of its
name, which is given back afterwards. -/
inductive Handling where
  | acquire (name : String)
  | release (name : String)
  deriving DecidableEq, Repr

namespace Handling

/-- The name whose mask is given back, if there is one. -/
def name : Handling → String
  | .acquire name => name
  | .release name => name

def action : Handling → Action
  | .acquire name => .acquire name
  | .release name => .release name

/-- The program that handles masks in a row. -/
def program : List Handling → Program
  | [] => .done
  | step :: rest => .act step.action false (program rest)

/-- The names of the masks that are held afterwards, in the order in which they were taken. -/
def held (names : List String) : Handling → List String
  | .acquire name => names.erase name ++ [name]
  | .release name => names.erase name

/-- The keeper afterwards. It stays the keeper until it is given back, and then the mask that is
taken next is the keeper. -/
def keeper : Option String → Handling → Option String
  | none, .acquire name => some name
  | none, .release _ => none
  | some keeper, step => if keeper = step.name then none else some keeper

/-- The mask that is held longest is not given back unless none is held afterwards. -/
def SparesEldest (names : List String) (step : Handling) : Prop :=
  names.head? = some step.name → step.held names = []

instance (names : List String) (step : Handling) : Decidable (step.SparesEldest names) :=
  inferInstanceAs (Decidable (_ → _))

/-- Masks are taken under new names, and the mask that was taken last is given back first. -/
def Nested (names : List String) : Handling → Prop
  | .acquire name => name ∉ names
  | .release name => names.getLast? = some name

/-- Every step of a row satisfies a condition on it and on the names of the masks that are held
before it. -/
def Throughout (condition : List String → Handling → Prop) (names : List String) :
    List Handling → Prop
  | [] => True
  | step :: rest => condition names step ∧ Throughout condition (step.held names) rest

instance decidableThroughout (condition : List String → Handling → Prop)
    [∀ names step, Decidable (condition names step)] (names : List String) :
    (steps : List Handling) → Decidable (Throughout condition names steps)
  | [] => isTrue trivial
  | step :: rest =>
    have := decidableThroughout condition (step.held names) rest
    inferInstanceAs (Decidable (_ ∧ _))

end Handling

/-- The names of the masks that are held after a row, the eldest first. -/
def heldAfter (steps : List Handling) : List String := steps.foldl Handling.held []

/-- The keeper after a row. -/
def keeperAfter (steps : List Handling) : Option String := steps.foldl Handling.keeper none

theorem heldAfter_concat (steps : List Handling) (step : Handling) :
    heldAfter (steps ++ [step]) = step.held (heldAfter steps) :=
  List.foldl_concat _ _ _ _

theorem keeperAfter_concat (steps : List Handling) (step : Handling) :
    keeperAfter (steps ++ [step]) = step.keeper (keeperAfter steps) :=
  List.foldl_concat _ _ _ _

namespace Handling

variable {condition : List String → Handling → Prop} {names : List String}
  {steps : List Handling} {step : Handling}

theorem throughout_concat_iff : Throughout condition names (steps ++ [step]) ↔
    Throughout condition names steps ∧ condition (steps.foldl held names) step := by
  induction steps generalizing names with
  | nil => simp [Throughout]
  | cons first rest ih => simp only [List.cons_append, Throughout, ih, List.foldl_cons, and_assoc]

theorem nodup_held (h : names.Nodup) (step : Handling) : (step.held names).Nodup := by
  cases step with
  | acquire name =>
      rw [held, ← List.concat_eq_append]
      exact (h.erase name).concat h.not_mem_erase
  | release name => exact h.erase name

theorem Throughout.mono {stronger : List String → Handling → Prop} (hnodup : names.Nodup)
    (h : Throughout stronger names steps)
    (himp : ∀ names step, names.Nodup → stronger names step → condition names step) :
    Throughout condition names steps := by
  induction steps generalizing names with
  | nil => trivial
  | cons step rest ih => exact ⟨himp names step hnodup h.1, ih (nodup_held hnodup step) h.2⟩

/-- Of nested masks the eldest is the last one that is given back. -/
theorem Nested.sparesEldest (hnodup : names.Nodup) (h : step.Nested names) :
    step.SparesEldest names := by
  intro hhead
  cases step with
  | acquire name => exact absurd (List.mem_of_head? hhead) h
  | release name =>
      obtain ⟨rest, rfl⟩ := List.head?_eq_some_iff.mp hhead
      cases rest with
      | nil => simp [held, Handling.name]
      | cons next rest =>
          have hlast : (next :: rest).getLast? = some name := h
          exact absurd (List.mem_of_getLast? hlast) (List.nodup_cons.mp hnodup).1

/-! ## Who is the keeper -/

variable {keeper : Option String} {name other : String}

theorem keeper_acquire_eq_none_iff :
    (Handling.acquire name).keeper keeper = none ↔ keeper = some name := by
  cases keeper <;> grind [Handling.keeper, Handling.name]

theorem keeper_acquire_eq_some_iff : (Handling.acquire name).keeper keeper = some other ↔
    if name = other then keeper = none else keeper = some other := by
  cases keeper <;> grind [Handling.keeper, Handling.name]

theorem keeper_release_eq_none_iff :
    (Handling.release name).keeper keeper = none ↔ keeper = none ∨ keeper = some name := by
  cases keeper <;> grind [Handling.keeper, Handling.name]

theorem keeper_release_eq_some_iff : (Handling.release name).keeper keeper = some other ↔
    name ≠ other ∧ keeper = some other := by
  cases keeper <;> grind [Handling.keeper, Handling.name]

theorem held_cons_of_ne {eldest : String} (h : eldest ≠ step.name) (rest : List String) :
    step.held (eldest :: rest) = eldest :: step.held rest := by
  have hother : ¬(eldest == step.name) = true := fun heq => h (beq_iff_eq.mp heq)
  cases step with
  | acquire name => exact congrArg (· ++ [name]) (List.erase_cons_tail hother)
  | release name => exact List.erase_cons_tail hother

/-- The mask that is held longest remains the keeper if it is spared. -/
theorem SparesEldest.keeper_head? (h : step.SparesEldest names) :
    step.keeper names.head? = (step.held names).head? := by
  cases names with
  | nil => cases step <;> rfl
  | cons eldest rest =>
      by_cases hname : eldest = step.name
      · rw [h (congrArg some hname)]
        exact if_pos hname
      · rw [held_cons_of_ne hname]
        exact if_neg hname

/-- If the mask that is held longest is the keeper, then there are masks without a keeper afterwards
exactly if that mask is given back before the others. -/
theorem sparesEldest_iff : step.SparesEldest names ↔
    (step.held names ≠ [] → step.keeper names.head? ≠ none) := by
  constructor
  · intro h hheld
    rwa [h.keeper_head?, ne_eq, List.head?_eq_none_iff]
  · intro h hhead
    by_contra hheld
    exact h hheld (hhead ▸ if_pos rfl)

end Handling

/-- **The eldest is the keeper,** as long as it is always spared. -/
theorem keeperAfter_eq {steps : List Handling}
    (h : Handling.Throughout Handling.SparesEldest [] steps) :
    keeperAfter steps = (heldAfter steps).head? := by
  induction steps using List.reverseRecOn with
  | nil => rfl
  | append_singleton steps step ih =>
      obtain ⟨hsteps, hstep⟩ := Handling.throughout_concat_iff.mp h
      rw [heldAfter_concat, keeperAfter_concat, ih hsteps]
      exact hstep.keeper_head?

/-- There is a keeper as long as a mask is held, exactly if the eldest is always spared. -/
theorem keeperAfter_ne_none_iff (steps : List Handling) :
    (∀ done, done <+: steps → heldAfter done ≠ [] → keeperAfter done ≠ none) ↔
      Handling.Throughout Handling.SparesEldest [] steps := by
  induction steps using List.reverseRecOn with
  | nil => simp [heldAfter, Handling.Throughout]
  | append_singleton steps step ih =>
      simp only [List.prefix_concat_iff, forall_eq_or_imp]
      rw [ih, Handling.throughout_concat_iff, and_comm]
      -- Up to the last step the eldest is the keeper, so all that matters is whether that step
      -- spares it.
      refine and_congr_right fun hspared => ?_
      rw [heldAfter_concat, keeperAfter_concat, keeperAfter_eq hspared]
      exact Handling.sparesEldest_iff.symm

namespace State

variable {s : State}

/-- The state after masks were handled in a row. -/
def handle (s : State) (steps : List Handling) : State := ((Handling.program steps).run s).state

/-- Interrupts are off if a mask is held. -/
def Shielded (s : State) : Prop := s.masks ≠ ∅ → s.interrupts = false

/-- There is a mask of the name, and interrupts were on when it was taken. -/
def remembers (s : State) (name : String) : Bool := s.masks[name]?.any (·.wereEnabled)

theorem remembers_of_empty (hnone : s.masks = ∅) (name : String) : s.remembers name = false := by
  simp [remembers, hnone]

/-- A report that is not raised again changes nothing. -/
theorem report_false (s : State) (report : Report) :
    s.report report false = .after [.report report s.interrupts] (.done s ()) := by
  cases report <;> rfl

theorem handle_nil (s : State) : s.handle [] = s := rfl

theorem handle_cons (s : State) (step : Handling) (rest : List Handling) :
    s.handle (step :: rest) = (step.action.perform s).2.handle rest := by
  simp only [handle, Handling.program, Program.run, report_false]
  rfl

theorem handle_concat (s : State) (steps : List Handling) (step : Handling) :
    s.handle (steps ++ [step]) = (step.action.perform (s.handle steps)).2 := by
  induction steps generalizing s with
  | nil => rw [List.nil_append, handle_cons, handle_nil, handle_nil]
  | cons first rest ih => rw [List.cons_append, handle_cons, ih, ← handle_cons]

/-! ## One mask -/

/-- The new mask switches interrupts off, and the old mask of the name switches them on again if it
remembers that. -/
theorem interrupts_acquire (s : State) (name : String) :
    ((Action.acquire name).perform s).2.interrupts = s.remembers name := by
  show (State.release _ s.masks[name]?).interrupts = _
  unfold remembers
  cases s.masks[name]? <;> rfl

theorem masks_acquire (s : State) (name : String) :
    ((Action.acquire name).perform s).2.masks = s.masks.insert name ⟨s.interrupts⟩ := by
  show (State.release _ s.masks[name]?).masks = _
  cases s.masks[name]? <;> rfl

theorem interrupts_release (s : State) (name : String) :
    ((Action.release name).perform s).2.interrupts = (s.interrupts || s.remembers name) := by
  show (State.release _ s.masks[name]?).interrupts = _
  unfold remembers
  cases s.masks[name]? with
  | none => exact (Bool.or_false _).symm
  | some mask => rfl

theorem masks_release (s : State) (name : String) :
    ((Action.release name).perform s).2.masks = s.masks.erase name := by
  show (State.release _ s.masks[name]?).masks = _
  cases s.masks[name]? <;> rfl

theorem remembers_acquire (s : State) (name other : String) :
    ((Action.acquire name).perform s).2.remembers other =
      if name = other then s.interrupts else s.remembers other := by
  rw [remembers, masks_acquire, Std.ExtTreeMap.getElem?_insert]
  simp only [Std.compare_eq_iff_eq]
  split <;> rfl

theorem remembers_release (s : State) (name other : String) :
    ((Action.release name).perform s).2.remembers other =
      if name = other then false else s.remembers other := by
  rw [remembers, masks_release, Std.ExtTreeMap.getElem?_erase]
  simp only [Std.compare_eq_iff_eq]
  split <;> rfl

theorem mem_masks_perform {names : List String} (hnodup : names.Nodup)
    (hmem : ∀ name, name ∈ s.masks ↔ name ∈ names) (step : Handling) (name : String) :
    name ∈ (step.action.perform s).2.masks ↔ name ∈ step.held names := by
  cases step with
  | acquire new =>
      rw [Handling.action, masks_acquire, Std.ExtTreeMap.mem_insert, hmem, Std.compare_eq_iff_eq]
      simp only [Handling.held, List.mem_append, List.mem_singleton, hnodup.mem_erase_iff]
      grind
  | release old =>
      rw [Handling.action, masks_release, Std.ExtTreeMap.mem_erase, hmem, ne_eq,
        Std.compare_eq_iff_eq]
      simp only [Handling.held, hnodup.mem_erase_iff, ne_eq, eq_comm]

end State

/-! ## Many masks -/

variable {s : State}

theorem nodup_heldAfter (steps : List Handling) : (heldAfter steps).Nodup := by
  induction steps using List.reverseRecOn with
  | nil => exact List.nodup_nil
  | append_singleton steps step ih => rw [heldAfter_concat]; exact Handling.nodup_held ih step

/-- The masks that are held are those of the names. -/
theorem mem_masks_handle_iff (hnone : s.masks = ∅) (steps : List Handling) (name : String) :
    name ∈ (s.handle steps).masks ↔ name ∈ heldAfter steps := by
  induction steps using List.reverseRecOn generalizing name with
  | nil => simp [State.handle_nil, hnone, heldAfter]
  | append_singleton steps step ih =>
      rw [State.handle_concat, heldAfter_concat]
      exact State.mem_masks_perform (nodup_heldAfter steps) ih step name

theorem masks_handle_eq_empty_iff (hnone : s.masks = ∅) (steps : List Handling) :
    (s.handle steps).masks = ∅ ↔ heldAfter steps = [] := by
  rw [Std.ExtTreeMap.eq_empty_iff_forall_not_mem, List.eq_nil_iff_forall_not_mem]
  exact forall_congr' fun name => not_congr (mem_masks_handle_iff hnone steps name)

section Keeper

variable {on : Bool} {keeper : Option String}

/-- Interrupts are on exactly if they were on at first and there is no keeper, and no mask but the
keeper remembers that they were. -/
structure Kept (on : Bool) (keeper : Option String) (s : State) : Prop where
  interrupts_iff : s.interrupts = true ↔ on = true ∧ keeper = none
  remembers_iff : ∀ name, s.remembers name = true ↔ on = true ∧ keeper = some name

theorem kept_of_empty (hnone : s.masks = ∅) : Kept s.interrupts none s where
  interrupts_iff := by simp
  remembers_iff := by simp [State.remembers_of_empty hnone]

theorem Kept.perform (h : Kept on keeper s) (step : Handling) :
    Kept on (step.keeper keeper) (step.action.perform s).2 := by
  cases step with
  | acquire name =>
      refine ⟨?_, fun other => ?_⟩
      · rw [Handling.action, State.interrupts_acquire, h.remembers_iff,
          Handling.keeper_acquire_eq_none_iff]
      · rw [Handling.action, State.remembers_acquire, Handling.keeper_acquire_eq_some_iff]
        split
        · exact h.interrupts_iff
        · exact h.remembers_iff other
  | release name =>
      refine ⟨?_, fun other => ?_⟩
      · rw [Handling.action, State.interrupts_release, Bool.or_eq_true, h.interrupts_iff,
          h.remembers_iff, Handling.keeper_release_eq_none_iff, and_or_left]
      · rw [Handling.action, State.remembers_release, Handling.keeper_release_eq_some_iff]
        split
        · next hname => simp [hname]
        · next hname => simp [hname, h.remembers_iff]

/-- **The flag after a row of masks.** -/
theorem kept_handle (hnone : s.masks = ∅) (steps : List Handling) :
    Kept s.interrupts (keeperAfter steps) (s.handle steps) := by
  induction steps using List.reverseRecOn with
  | nil => exact kept_of_empty hnone
  | append_singleton steps step ih =>
      rw [State.handle_concat, keeperAfter_concat]
      exact ih.perform step

/-- Where no mask is held there is no keeper, so interrupts are as at first. -/
theorem Kept.interrupts_of_empty (h : Kept on keeper s) (hnone : s.masks = ∅) :
    s.interrupts = on := by
  cases on with
  | false => simpa using h.interrupts_iff
  | true =>
      have hkeeper : keeper = none := by
        refine Option.eq_none_iff_forall_ne_some.mpr fun name hname => ?_
        have hremembers := (h.remembers_iff name).mpr ⟨rfl, hname⟩
        exact absurd hremembers (by simp [State.remembers_of_empty hnone])
      exact h.interrupts_iff.mpr ⟨rfl, hkeeper⟩

theorem shielded_handle_iff_keeper (hnone : s.masks = ∅) (steps : List Handling) :
    (s.handle steps).Shielded ↔
      s.interrupts = false ∨ (heldAfter steps ≠ [] → keeperAfter steps ≠ none) := by
  rw [State.Shielded, ne_eq, masks_handle_eq_empty_iff hnone, ← Bool.not_eq_true,
    (kept_handle hnone steps).interrupts_iff]
  cases s.interrupts <;> simp

end Keeper

/-- **When masks keep interrupts off.** While masks are taken and given back, interrupts are off
whenever a mask is held exactly if they were off at first or the mask that is held longest is never
given back before the others. In whatever order the masks are given back, interrupts are as at first
when none is held. -/
theorem shielded_handle_iff (hnone : s.masks = ∅) (steps : List Handling) :
    ((∀ done, done <+: steps → (s.handle done).Shielded) ↔
      s.interrupts = false ∨ Handling.Throughout Handling.SparesEldest [] steps) ∧
    ((s.handle steps).masks = ∅ → (s.handle steps).interrupts = s.interrupts) := by
  refine ⟨?_, (kept_handle hnone steps).interrupts_of_empty⟩
  simp only [shielded_handle_iff_keeper hnone]
  cases s.interrupts with
  | false => simp
  | true => simpa using keeperAfter_ne_none_iff steps

/-- The second of three masks is given back before the third, and the first one last. -/
theorem shielded_three_masks :
    State.start.masks = ∅ ∧
      ∀ done, done <+: [.acquire "a", .acquire "b", .acquire "c", .release "b", .release "c",
        .release "a"] → (State.start.handle done).Shielded :=
  ⟨rfl, (shielded_handle_iff rfl _).1.mpr (.inr (by decide))⟩

/-- The first of two masks is given back before the second, which is held with interrupts on. -/
theorem exposed_first_of_two :
    "b" ∈ (State.start.handle [.acquire "a", .acquire "b", .release "a"]).masks ∧
      (State.start.handle [.acquire "a", .acquire "b", .release "a"]).interrupts = true :=
  ⟨(mem_masks_handle_iff rfl _ _).mpr (by decide),
    (kept_handle rfl _).interrupts_iff.mpr (by decide)⟩

/-- **Nested masks keep interrupts off.** -/
theorem shielded_of_nested (hnone : s.masks = ∅) {steps : List Handling}
    (h : Handling.Throughout Handling.Nested [] steps) : (s.handle steps).Shielded := by
  have hspared : Handling.Throughout Handling.SparesEldest [] steps :=
    h.mono List.nodup_nil fun _ _ => Handling.Nested.sparesEldest
  refine (shielded_handle_iff_keeper hnone steps).mpr (.inr fun hheld => ?_)
  rwa [keeperAfter_eq hspared, ne_eq, List.head?_eq_none_iff]

end TaskKernel.Guard
