import TaskKernel.RunQueues
import Mathlib.Order.Bounds.Basic
import Mathlib.Order.Fin.Basic

/-!
# The changes to the run queues

A proof about the dispatcher sees a run queue through three views only:

* **occurrences** — how often a task stands at a level (`count_…`): an insertion adds one place, a
  removal takes one, a rotation none;
* **the head** — who is next at a level (`head?_…`): only the removal of the head itself or an
  insertion in front of it changes that;
* **occupation** — which levels have tasks (`ne_nil_of_…`): the level that `highest?` finds is the
  greatest of them (`highest?_eq_some_iff`).
-/

namespace TaskKernel.RunQueues

variable {q : RunQueues} {level other : Level} {id x : TaskId}

/-! ## Occurrences -/

/-- A level whose new tasks are the old ones and one more, in any order. -/
theorem count_set_of_perm {ids : List TaskId} (hperm : ids.Perm (id :: q.get level))
    (other : Level) (x : TaskId) :
    ((q.set level ids).get other).count x =
      (q.get other).count x + if level = other ∧ id = x then 1 else 0 := by
  rw [get_set]
  by_cases hlevel : level = other
  · subst hlevel
    rw [if_pos rfl, hperm.count_eq, List.count_cons]
    simp only [beq_iff_eq, true_and]
  · rw [if_neg hlevel, if_neg (fun h => hlevel h.1), Nat.add_zero]

theorem count_pushBack (q : RunQueues) (level other : Level) (id x : TaskId) :
    ((q.pushBack level id).get other).count x =
      (q.get other).count x + if level = other ∧ id = x then 1 else 0 :=
  count_set_of_perm (List.perm_append_singleton id (q.get level)) other x

theorem count_pushFront (q : RunQueues) (level other : Level) (id x : TaskId) :
    ((q.pushFront level id).get other).count x =
      (q.get other).count x + if level = other ∧ id = x then 1 else 0 :=
  count_set_of_perm (List.Perm.refl (id :: q.get level)) other x

theorem count_pushSecond (q : RunQueues) (level other : Level) (id x : TaskId) :
    ((q.pushSecond level id).get other).count x =
      (q.get other).count x + if level = other ∧ id = x then 1 else 0 := by
  refine count_set_of_perm ?_ other x
  have hmiddle : ((q.get level).take 1 ++ id :: (q.get level).drop 1).Perm
      (id :: ((q.get level).take 1 ++ (q.get level).drop 1)) := List.perm_middle
  rwa [List.take_append_drop] at hmiddle

theorem count_erase (q : RunQueues) (level other : Level) (id x : TaskId) :
    ((q.erase level id).get other).count x =
      (q.get other).count x - if level = other ∧ id = x then 1 else 0 := by
  rw [erase, get_set]
  by_cases hlevel : level = other
  · subst hlevel
    rw [if_pos rfl, List.count_erase]
    simp only [beq_iff_eq, true_and]
  · rw [if_neg hlevel, if_neg (fun h => hlevel h.1), Nat.sub_zero]

/-- Taking the head off a level is erasing it. -/
theorem dropHead_eq_erase (h : q.head? level = some id) :
    q.dropHead level = q.erase level id := by
  obtain ⟨rest, hrest⟩ : ∃ rest, q.get level = id :: rest := List.head?_eq_some_iff.mp h
  rw [dropHead, erase, hrest, List.tail_cons, List.erase_cons_head]

theorem count_rotate (q : RunQueues) (level other : Level) (x : TaskId) :
    ((q.rotate level).get other).count x = (q.get other).count x := by
  rw [rotate, get_set]
  by_cases hlevel : level = other
  · subst hlevel
    rw [if_pos rfl]
    cases q.get level with
    | nil => rfl
    | cons head rest =>
        rw [List.tail_cons, List.take_succ_cons, List.take_zero]
        exact (List.perm_append_singleton head rest).count_eq x
  · rw [if_neg hlevel]

/-- The occurrences over all levels together. -/
theorem count_toList (q : RunQueues) (x : TaskId) :
    q.toList.count x =
      (q.get 3).count x + (q.get 2).count x + (q.get 1).count x + (q.get 0).count x := by
  simp only [toList, Level.descending, List.flatMap_cons, List.flatMap_nil, List.count_append,
    List.count_nil]
  omega

theorem mem_toList : x ∈ q.toList ↔ ∃ level, x ∈ q.get level := by
  simp only [toList, List.mem_flatMap, Level.mem_descending, true_and]

/-! ## The head of a level -/

theorem head?_eq_some_iff : q.head? level = some id ↔ ∃ rest, q.get level = id :: rest :=
  List.head?_eq_some_iff

theorem mem_of_head? (h : q.head? level = some id) : id ∈ q.get level :=
  List.mem_of_mem_head? h

theorem head?_eq_none_iff : q.head? level = none ↔ q.get level = [] :=
  List.head?_eq_none_iff

/-- A task that joins a level behind others does not become its head. -/
theorem head?_pushBack (h : q.head? other = some x) :
    (q.pushBack level id).head? other = some x := by
  rw [head?, pushBack, get_set]
  by_cases hlevel : level = other
  · subst hlevel
    obtain ⟨rest, hrest⟩ := head?_eq_some_iff.mp h
    rw [if_pos rfl, hrest, List.cons_append, List.head?_cons]
  · rw [if_neg hlevel]
    exact h

/-- A task that joins a level behind its first does not become its head. -/
theorem head?_pushSecond (h : q.head? other = some x) :
    (q.pushSecond level id).head? other = some x := by
  rw [head?, pushSecond, get_set]
  by_cases hlevel : level = other
  · subst hlevel
    obtain ⟨rest, hrest⟩ := head?_eq_some_iff.mp h
    rw [if_pos rfl, hrest, List.take_succ_cons, List.cons_append, List.head?_cons]
  · rw [if_neg hlevel]
    exact h

theorem head?_pushFront_self (q : RunQueues) (level : Level) (id : TaskId) :
    (q.pushFront level id).head? level = some id := by
  rw [head?, pushFront, get_set_self, List.head?_cons]

theorem head?_pushFront_of_ne (q : RunQueues) (id : TaskId) (h : level ≠ other) :
    (q.pushFront level id).head? other = q.head? other := by
  rw [head?, pushFront, get_set_of_ne q _ h, head?]

/-- The removal of a task that is not the head keeps the head. -/
theorem head?_erase (h : q.head? other = some x) (hne : x ≠ id) :
    (q.erase level id).head? other = some x := by
  rw [head?, erase, get_set]
  by_cases hlevel : level = other
  · subst hlevel
    obtain ⟨rest, hrest⟩ := head?_eq_some_iff.mp h
    rw [if_pos rfl, hrest, List.erase_cons_tail (by simpa using hne), List.head?_cons]
  · rw [if_neg hlevel]
    exact h

/-! ## Occupied levels -/

/-- Only a level that was changed can become occupied. -/
theorem ne_nil_of_set {ids : List TaskId} (h : (q.set level ids).get other ≠ []) :
    level = other ∨ q.get other ≠ [] := by
  by_cases hlevel : level = other
  · exact .inl hlevel
  · rw [get_set_of_ne q _ hlevel] at h
    exact .inr h

/-- A removal occupies no level. -/
theorem ne_nil_of_erase (h : (q.erase level id).get other ≠ []) : q.get other ≠ [] := by
  rcases ne_nil_of_set h with hlevel | hother
  · subst hlevel
    intro hnil
    rw [erase, get_set_self, hnil, List.erase_nil] at h
    exact h rfl
  · exact hother

/-- No level is occupied exactly if none is found. -/
theorem highest?_eq_none_iff : q.highest? = none ↔ ∀ level, q.get level = [] := by
  simp only [highest?, List.find?_eq_none, Level.mem_descending, true_implies,
    Bool.not_eq_true, Bool.not_eq_false', List.isEmpty_iff]

/-- The level that is found is occupied, and none above it is. -/
theorem isGreatest_of_highest? (h : q.highest? = some level) :
    IsGreatest {l | q.get l ≠ []} level := by
  obtain ⟨hoccupied, above, below, hsplit, habove⟩ := List.find?_eq_some_iff_append.mp h
  refine ⟨by simpa using hoccupied, fun l hl => ?_⟩
  have hmem : l ∈ above ++ level :: below := hsplit ▸ Level.mem_descending l
  have hsorted : (above ++ level :: below).Pairwise (· > ·) := by
    rw [← hsplit]
    decide
  rcases List.mem_append.mp hmem with hl' | hl'
  · exact absurd (by simpa using habove l hl') hl
  · rcases List.mem_cons.mp hl' with rfl | hl'
    · exact le_refl l
    · exact le_of_lt (List.rel_of_pairwise_cons (List.pairwise_append.mp hsorted).2.1 hl')

/-- The level that is found is the greatest that is occupied. -/
theorem highest?_eq_some_iff :
    q.highest? = some level ↔ IsGreatest {l | q.get l ≠ []} level := by
  refine ⟨isGreatest_of_highest?, fun hgreatest => ?_⟩
  cases h : q.highest? with
  | none => exact absurd (highest?_eq_none_iff.mp h level) hgreatest.1
  | some found => rw [(isGreatest_of_highest? h).unique hgreatest]

end TaskKernel.RunQueues
