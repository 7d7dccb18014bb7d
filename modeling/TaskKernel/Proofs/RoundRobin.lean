import TaskKernel.Proofs.Succession
import TaskKernel.Proofs.TaskByTask
import Mathlib.Data.Int.CardIntervalMod
import Mathlib.Data.List.Rotate

/-!
# Round robin

The tasks of the active level take turns. `Turned` says what a row of turns leaves as it is, which
is everything but the order of that level's queue and the contexts in which tasks were interrupted.
One turn is such a change (`turned_preempt`) and so is a row of them (`Turned.succ`), from which
follows for a row of any length

* where it leaves the queue and the records of the tasks, whom each turn selects and in whose record
  it keeps the context, and that the turns are dealt out evenly (`RoundRobin`);
* what the first turn does if the level has to be chosen anew (`Reselection`).
-/

namespace TaskKernel

namespace RunQueues

theorem rotate_eq_set (q : RunQueues) (level : Level) :
    q.rotate level = q.set level ((q.get level).rotate 1) := by
  unfold rotate
  cases q.get level with
  | nil => rfl
  | cons head rest => rw [List.rotate_cons_succ, List.rotate_zero]; rfl

theorem set_get_self (q : RunQueues) (level : Level) : q.set level (q.get level) = q := by
  refine ext_get fun other => ?_
  rw [get_set]
  split
  · next h => rw [h]
  · rfl

theorem set_set (q : RunQueues) (level : Level) (first second : List TaskId) :
    (q.set level first).set level second = q.set level second := by
  refine ext_get fun other => ?_
  simp only [get_set]
  split <;> rfl

end RunQueues

namespace Dispatcher

variable {d d' d'' : Dispatcher} {x : TaskId} {n : Nat}

/-- The tasks of the active level in the order of their turns. -/
def turnOrder (d : Dispatcher) : List TaskId := d.queues.get d.active

theorem turnOrder_ne_nil (hx : d.executing? = some x) : d.turnOrder ≠ [] :=
  List.ne_nil_of_mem (RunQueues.mem_of_head? hx)

/-- The same but for the contexts of tasks and for `n` turns at the active level. -/
inductive Turned (d : Dispatcher) (n : Nat) : Dispatcher → Prop
  | intro (tasks : Std.ExtTreeMap TaskId Task)
      (records : ∀ x : TaskId, ∃ context : Context,
        tasks[x]? = d.tasks[x]?.map fun task => { task with context }) :
      Turned d n { d with tasks, queues := d.queues.set d.active (d.turnOrder.rotate n) }

theorem Turned.refl (d : Dispatcher) : d.Turned 0 d := by
  have hsame : d.queues.set d.active (d.turnOrder.rotate 0) = d.queues := by
    rw [List.rotate_zero]
    exact RunQueues.set_get_self d.queues d.active
  have h := Turned.intro (d := d) (n := 0) d.tasks fun x => by
    cases d.tasks[x]? with
    | none => exact ⟨Context.zero, rfl⟩
    | some task => exact ⟨task.context, rfl⟩
  rwa [hsame] at h

theorem Turned.succ (h : d.Turned n d') (hstep : d'.Turned 1 d'') : d.Turned (n + 1) d'' := by
  obtain ⟨tasks, hrecords⟩ := h
  obtain ⟨tasks', hrecords'⟩ := hstep
  simp only [turnOrder, RunQueues.get_set_self, RunQueues.set_set, List.rotate_rotate]
  refine .intro tasks' fun x => ?_
  obtain ⟨context, hx⟩ := hrecords x
  obtain ⟨context', hx'⟩ := hrecords' x
  refine ⟨context', ?_⟩
  rw [hx', hx, Option.map_map]
  rfl

/-- The executing task is the one that the number of turns leads to. -/
theorem Turned.executing (h : d.Turned n d') (hoccupied : d.turnOrder ≠ []) :
    d'.executing? = d.turnOrder[n % d.turnOrder.length]? := by
  obtain ⟨tasks, _⟩ := h
  have hlt := Nat.mod_lt n (List.length_pos_iff.mpr hoccupied)
  show ((d.queues.set d.active _).get d.active).head? = _
  rw [RunQueues.get_set_self, ← List.rotate_mod, List.head?_rotate hlt]

theorem Turned.reselect_eq (h : d.Turned n d') : d'.reselect = d.reselect := by
  obtain ⟨tasks, _⟩ := h
  rfl

/-! ## One turn -/

theorem modifyTask_eq (d : Dispatcher) (id : TaskId) (f : Task → Task) :
    d.modifyTask id f = { d with tasks := (d.modifyTask id f).tasks } := by
  unfold modifyTask
  cases d.tasks[id]? with
  | none => rfl
  | some task => rfl

/-- What a turn makes of the state, whether or not a choice of level is due. -/
theorem state_preempt (hx : d.executing? = some x) (saved : Context) :
    (d.preempt saved).2 =
      let queues := d.queues.set d.active (d.turnOrder.rotate 1)
      { d with
        tasks := (d.preempt saved).2.tasks
        queues
        reselect := false
        active := if d.reselect then queues.highest?.getD d.active else d.active } := by
  have hx' := (executing_modifyTask d x ({ · with context := saved })).trans hx
  have hoccupied :
      ((d.queues.set d.active (d.turnOrder.rotate 1)).get d.active).isEmpty = false := by
    rw [RunQueues.get_set_self, List.isEmpty_eq_false_iff, ne_eq, List.rotate_eq_nil_iff]
    exact turnOrder_ne_nil hx
  simp only [preempt_of_executing hx, tasks_rotate]
  rw [rotate_of_executing hx', modifyTask_eq]
  simp only [if_true, RunQueues.rotate_eq_set]
  rw [← turnOrder, hoccupied, Bool.or_false]

theorem turned_preempt (hx : d.executing? = some x) (hnone : d.reselect = false)
    (saved : Context) : d.Turned 1 (d.preempt saved).2 := by
  have hstate := state_preempt hx saved
  simp only [hnone, Bool.false_eq_true, if_false] at hstate
  rw [hstate]
  have h := Turned.intro (d := d) (n := 1) (d.preempt saved).2.tasks fun y => by
    rw [getElem?_preempt]
    split
    · exact ⟨saved, rfl⟩
    · cases d.tasks[y]? with
      | none => exact ⟨Context.zero, rfl⟩
      | some task => exact ⟨task.context, rfl⟩
  rwa [← hnone]

/-- The answer to a turn names the task that is selected, if it is another one. -/
theorem answer_preempt (hx : d.executing? = some x) (saved : Context) :
    (d.preempt saved).1 = (d.preempt saved).2.executing?.filter (· ≠ x) := by
  rw [preempt_of_executing hx]

theorem Accounted.nodup_turnOrder (h : d.Accounted) : d.turnOrder.Nodup := h.nodup_queue d.active

end Dispatcher

/-! ## A row of turns -/

/-- Consecutive places in a row that comes round are different ones, unless there is one place. -/
theorem succ_mod_ne {m : Nat} (h : 1 < m) (i : Nat) : (i + 1) % m ≠ i % m := by
  intro hsame
  have hone : 1 ≡ 0 [MOD m] := Nat.ModEq.add_left_cancel' i hsame
  exact absurd (Nat.dvd_one.mp (Nat.modEq_zero_iff_dvd.mp hone)) (by omega)

/-- Which steps lead to a given one of `m` places. -/
theorem succ_mod_eq_iff {m place : Nat} (hplace : place < m) (i : Nat) :
    (i + 1) % m = place ↔ i ≡ place + (m - 1) [MOD m] := by
  have hround : i + 1 + (m - 1) ≡ i [MOD m] := by
    have hsum : i + 1 + (m - 1) = i + m := by omega
    rw [hsum]
    exact Nat.add_modEq_right
  rw [show (i + 1) % m = place ↔ i + 1 ≡ place [MOD m] by
    rw [Nat.ModEq, Nat.mod_eq_of_lt hplace]]
  exact ⟨fun h => hround.symm.trans (h.add_right _),
    fun h => Nat.ModEq.add_right_cancel' (m - 1) (hround.trans h)⟩

theorem div_add_one_of_mod_pos {m n : Nat} (hm : 0 < m) (h : 0 < n % m) :
    n / m + 1 = (n + m - 1) / m := by
  have hdiv := Nat.div_add_mod n m
  have hlt := Nat.mod_lt n hm
  refine (Nat.div_eq_of_lt_le ?_ ?_).symm
  · rw [Nat.add_mul, Nat.mul_comm]
    omega
  · rw [Nat.add_mul, Nat.add_mul, Nat.mul_comm]
    omega

/-- Of `n` steps round `m` places as many lead to each, up to one. -/
theorem count_visits {m place : Nat} (hplace : place < m) (n : Nat) :
    Nat.count (fun i => (i + 1) % m = place) n = n / m ∨
      Nat.count (fun i => (i + 1) % m = place) n = (n + m - 1) / m := by
  have hm : 0 < m := by omega
  simp only [succ_mod_eq_iff hplace]
  rw [Nat.count_modEq_card n hm]
  split
  · next hlt => exact .inr (div_add_one_of_mod_pos hm (by omega))
  · exact .inl rfl

namespace Scheduler

open Dispatcher

variable {s : Scheduler} {x : TaskId} {saved : Nat → Context}

/-- The turns of a row. The executing task is interrupted in the context `saved i` when it has to
give way in turn `i`. -/
def turns (saved : Nat → Context) (n : Nat) : List Operation :=
  (List.range n).map fun i => .preempt (saved i)

/-- The state after `n` turns. -/
def afterTurns (s : Scheduler) (saved : Nat → Context) (n : Nat) : Scheduler :=
  s.run (turns saved n)

theorem afterTurns_succ (s : Scheduler) (saved : Nat → Context) (n : Nat) :
    s.afterTurns saved (n + 1) = ((s.afterTurns saved n).perform (.preempt (saved n))).state := by
  rw [afterTurns, turns, List.range_succ, List.map_append, run_append]
  rfl

/-- What a row of turns does where no choice of level is due. -/
structure RoundRobin (s : Scheduler) (saved : Nat → Context) : Prop where
  occupied : s.tasks.turnOrder ≠ []
  /-- The active queue comes round, and only the records of tasks change besides. -/
  order : ∀ n, s.afterTurns saved n = { s with tasks := { s.tasks with
    tasks := (s.afterTurns saved n).tasks.tasks
    queues := s.tasks.queues.set s.tasks.active
      (s.tasks.turnOrder.rotate (n % s.tasks.turnOrder.length)) } }
  /-- Nothing of a task changes but the context in which it was interrupted. -/
  records : ∀ n (x : TaskId), ∃ context : Context,
    (s.afterTurns saved n).tasks.find? x =
      (s.tasks.find? x).map fun task => { task with context }
  /-- Each turn selects the next task of the row, if there is another one. -/
  selects : ∀ i, ((s.afterTurns saved i).perform (.preempt (saved i))).answer =
    .ok (.next (if 1 < s.tasks.turnOrder.length then
      s.tasks.turnOrder[(i + 1) % s.tasks.turnOrder.length]? else none))
  /-- Each turn keeps the context with the task whose turn is over, and with no other. -/
  stores : ∀ i (x : TaskId), (s.afterTurns saved (i + 1)).tasks.find? x =
    if s.tasks.turnOrder[i % s.tasks.turnOrder.length]? = some x then
      ((s.afterTurns saved i).tasks.find? x).map ({ · with context := saved i })
    else (s.afterTurns saved i).tasks.find? x
  /-- The turns are dealt out evenly. -/
  share : ∀ n, ∀ id ∈ s.tasks.turnOrder,
    let times := Nat.count (fun i => (s.afterTurns saved (i + 1)).tasks.executing? = some id) n
    times = n / s.tasks.turnOrder.length ∨
      times = (n + s.tasks.turnOrder.length - 1) / s.tasks.turnOrder.length

theorem turned_afterTurns (hx : s.tasks.executing? = some x) (hnone : s.tasks.reselect = false)
    (saved : Nat → Context) (n : Nat) : s.tasks.Turned n (s.afterTurns saved n).tasks := by
  induction n with
  | zero => exact .refl s.tasks
  | succ n ih =>
      have hoccupied := turnOrder_ne_nil hx
      have hlt := Nat.mod_lt n (List.length_pos_iff.mpr hoccupied)
      have hexecuting := (ih.executing hoccupied).trans (List.getElem?_eq_getElem hlt)
      rw [afterTurns_succ]
      exact ih.succ (turned_preempt hexecuting (ih.reselect_eq.trans hnone) (saved n))

theorem timers_afterTurns (s : Scheduler) (saved : Nat → Context) (n : Nat) :
    (s.afterTurns saved n).timers = s.timers := by
  induction n with
  | zero => rfl
  | succ n ih =>
      rw [afterTurns_succ]
      exact ih

/-- A task of the row is the executing one after the turns that lead to its place. -/
theorem executing_iff_place (haccounted : s.tasks.Accounted) (hx : s.tasks.executing? = some x)
    (hnone : s.tasks.reselect = false) (saved : Nat → Context) {place : Nat}
    (hplace : place < s.tasks.turnOrder.length) (n : Nat) :
    (s.afterTurns saved n).tasks.executing? = some s.tasks.turnOrder[place] ↔
      n % s.tasks.turnOrder.length = place := by
  have hoccupied := turnOrder_ne_nil hx
  have hlt := Nat.mod_lt n (List.length_pos_iff.mpr hoccupied)
  rw [(turned_afterTurns hx hnone saved n).executing hoccupied, List.getElem?_eq_getElem hlt,
    Option.some.injEq, haccounted.nodup_turnOrder.getElem_inj_iff]

/-- A turn selects the next task of the row, which is another one unless there is only one. -/
theorem answer_turn (haccounted : s.tasks.Accounted) (hx : s.tasks.executing? = some x)
    (hnone : s.tasks.reselect = false) (saved : Nat → Context) (i : Nat) :
    ((s.afterTurns saved i).perform (.preempt (saved i))).answer =
      .ok (.next (if 1 < s.tasks.turnOrder.length then
        s.tasks.turnOrder[(i + 1) % s.tasks.turnOrder.length]? else none)) := by
  have hoccupied := turnOrder_ne_nil hx
  have hexecuting := fun n => (turned_afterTurns hx hnone saved n).executing hoccupied
  have hlt := Nat.mod_lt i (List.length_pos_iff.mpr hoccupied)
  have hlt' := Nat.mod_lt (i + 1) (List.length_pos_iff.mpr hoccupied)
  have hcurrent := (hexecuting i).trans (List.getElem?_eq_getElem hlt)
  have hnext : ((s.afterTurns saved i).tasks.preempt (saved i)).2.executing? =
      some s.tasks.turnOrder[(i + 1) % s.tasks.turnOrder.length] := by
    have h := hexecuting (i + 1)
    rw [afterTurns_succ] at h
    exact h.trans (List.getElem?_eq_getElem hlt')
  simp only [perform, Outcome.answer_done, answer_preempt hcurrent, hnext]
  by_cases hothers : 1 < s.tasks.turnOrder.length
  · have hne : s.tasks.turnOrder[(i + 1) % s.tasks.turnOrder.length] ≠
        s.tasks.turnOrder[i % s.tasks.turnOrder.length] := fun hsame =>
      succ_mod_ne hothers i (haccounted.nodup_turnOrder.getElem_inj_iff.mp hsame)
    rw [if_pos hothers, List.getElem?_eq_getElem hlt']
    simp [hne]
  · have hone : s.tasks.turnOrder.length = 1 := by omega
    rw [if_neg hothers]
    simp [hone, Nat.mod_one]

theorem roundRobin_of_executing (haccounted : s.tasks.Accounted)
    (hx : s.tasks.executing? = some x) (hnone : s.tasks.reselect = false)
    (saved : Nat → Context) : s.RoundRobin saved := by
  have hoccupied := turnOrder_ne_nil hx
  have hturned := turned_afterTurns hx hnone saved
  refine ⟨hoccupied, fun n => ?_, fun n x => ?_, fun i => ?_, fun i x => ?_, fun n id hid => ?_⟩
  · have htimers := timers_afterTurns s saved n
    have h := hturned n
    generalize s.afterTurns saved n = after at h htimers
    obtain ⟨tasks, timers⟩ := after
    obtain ⟨records, _⟩ := h
    rw [List.rotate_mod, ← htimers]
  · have h := hturned n
    generalize (s.afterTurns saved n).tasks = after at h
    obtain ⟨_, hrecords⟩ := h
    exact hrecords x
  · exact answer_turn haccounted hx hnone saved i
  · rw [afterTurns_succ, ← (hturned i).executing hoccupied]
    exact getElem?_preempt (s.afterTurns saved i).tasks (saved i) x
  · obtain ⟨place, hplace, rfl⟩ := List.getElem_of_mem hid
    simp only [executing_iff_place haccounted hx hnone saved hplace]
    exact count_visits hplace n

/-- What the first turn does if a choice of level is due: `x` gives way to `next`. -/
structure Reselection (s : Scheduler) (saved : Context) (x next : TaskId) : Prop where
  /-- The executing task goes behind the others of its level, no other queue changes, and of the
  rest only the records of tasks do. -/
  order : let after := (s.perform (.preempt saved)).state.tasks
    s.tasks.turnOrder.head? = some x ∧
      (s.perform (.preempt saved)).state = { s with tasks := { s.tasks with
        tasks := after.tasks
        queues := s.tasks.queues.set s.tasks.active (s.tasks.turnOrder.tail ++ [x])
        active := after.active
        reselect := false } }
  /-- The highest occupied level is active, and its first task is selected. -/
  selects : let after := (s.perform (.preempt saved)).state.tasks
    IsGreatest {level | after.queues.get level ≠ []} after.active ∧
      (after.queues.get after.active).head? = some next ∧
      (s.perform (.preempt saved)).answer = .ok (.next (if next = x then none else some next))
  /-- The context is kept with the task that gives way, and with no other. -/
  stores : ∀ y, (s.perform (.preempt saved)).state.tasks.find? y =
    if x = y then (s.tasks.find? y).map ({ · with context := saved }) else s.tasks.find? y

theorem reselection_of_executing (hx : s.tasks.executing? = some x)
    (hdue : s.tasks.reselect = true) (saved : Context) : ∃ next, s.Reselection saved x next := by
  have hturnOrder : s.tasks.turnOrder.rotate 1 = s.tasks.turnOrder.tail ++ [x] := by
    obtain ⟨rest, hqueue⟩ := List.head?_eq_some_iff.mp hx
    rw [turnOrder, hqueue, List.rotate_cons_succ, List.rotate_zero, List.tail_cons]
  have hstate := state_preempt hx saved
  simp only [hdue, if_true, hturnOrder] at hstate
  -- The executing task stays runnable, so there is a highest level.
  obtain ⟨top, htop⟩ : ∃ top, (s.tasks.preempt saved).2.queues.highest? = some top := by
    rw [← Option.ne_none_iff_exists', ne_eq, RunQueues.highest?_eq_none_iff]
    intro hempty
    have h := hempty s.tasks.active
    rw [hstate, RunQueues.get_set_self] at h
    exact absurd h (by simp)
  have hactive : (s.tasks.preempt saved).2.active = top := by
    rw [hstate] at htop ⊢
    simp only [htop, Option.getD_some]
  have hgreatest := RunQueues.isGreatest_of_highest? htop
  rw [← hactive] at hgreatest
  obtain ⟨next, hnext⟩ : ∃ next, (s.tasks.preempt saved).2.executing? = some next :=
    executing_iff_occupied.mpr hgreatest.1
  refine ⟨next, ⟨hx, ?_⟩, ⟨hgreatest, hnext, ?_⟩, fun y => ?_⟩
  · refine congrArg (fun tasks => ({ s with tasks } : Scheduler)) ?_
    have hchosen : (s.tasks.queues.set s.tasks.active (s.tasks.turnOrder.tail ++ [x])).highest?.getD
        s.tasks.active = (s.tasks.preempt saved).2.active := by rw [hstate]
    rw [hchosen] at hstate
    exact hstate
  · simp only [perform, Outcome.answer_done, answer_preempt hx, hnext]
    by_cases hsame : next = x
    · simp [hsame]
    · simp [hsame]
  · have h := getElem?_preempt s.tasks saved y
    simp only [hx, Option.some.injEq] at h
    exact h

/-- **Round robin.** After a history without a fault, where no choice of level is due, any number
of turns goes round the tasks of the active level; where one is due, the first turn makes it. -/
theorem roundRobin (hs : s.Undisturbed) :
    (s.tasks.reselect = false → ∀ saved, s.RoundRobin saved) ∧
      (s.tasks.reselect = true → ∀ saved, ∃ x next, s.Reselection saved x next) := by
  obtain ⟨x, hx⟩ := hs.executing
  exact ⟨roundRobin_of_executing hs.reachable.accounted hx, fun hdue saved =>
    ⟨x, reselection_of_executing hx hdue saved⟩⟩

/-- Three tasks of one level; and two, the first of which has left the level of the second. -/
theorem roundRobin_three_tasks :
    (∀ saved, ((start {} Platform.simulated (Arena.simulated 0)).run
      [.create, .create, .wake 2 (some 3), .wake 3 (some 3)]).RoundRobin saved) ∧
    ∀ saved, ∃ x next, ((start {} Platform.simulated (Arena.simulated 0)).run
      [.create, .wake 2 (some 2), .wake 1 (some 1)]).Reselection saved x next :=
  ⟨(roundRobin ⟨_, _, _, [.create, .create, .wake 2 (some 3), .wake 3 (some 3)], by decide,
      rfl⟩).1 rfl,
    (roundRobin ⟨_, _, _, [.create, .wake 2 (some 2), .wake 1 (some 1)], by decide, rfl⟩).2 rfl⟩

end Scheduler

end TaskKernel
