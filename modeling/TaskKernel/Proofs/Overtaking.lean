import TaskKernel.Proofs.Arrivals
import TaskKernel.Proofs.Succession
import Mathlib.Data.List.Basic

/-!
# Nobody is overtaken

A task that is runnable at a level above which nobody is has a `rank`: the number of tasks that go
before it. With arrivals at the back of their queues

* the task of rank zero is the executing one (`rank_eq_zero_iff`);
* no operation that leaves the task in its place raises its rank (`holds_perform`): the executing
  task that drops to a lower level and comes back takes the one turn along that it gave;
* whenever the executing task gives way the rank falls by one (`advances_perform`).

So a task waits for as many turns as its rank says, and for no more (`rank_run`).
-/

namespace TaskKernel

namespace Dispatcher

variable {d d' d'' : Dispatcher} {id x mover : TaskId} {task : Task} {level target : Level}

/-- The number of tasks that go before this one: those in front of it at its level, and the
executing task if the active level is a lower one. -/
def rank (d : Dispatcher) (level : Level) (id : TaskId) : Nat :=
  (d.queues.get level).idxOf id + if d.active < level then 1 else 0

/-- Nobody is runnable above the level. -/
def Topmost (d : Dispatcher) (level : Level) : Prop :=
  ∀ other, level < other → d.queues.get other = []

instance (d : Dispatcher) (level : Level) : Decidable (d.Topmost level) :=
  inferInstanceAs (Decidable (∀ other, level < other → d.queues.get other = []))

/-- The task is runnable at the level, and nobody is above it. -/
structure InLine (d : Dispatcher) (level : Level) (id : TaskId) : Prop where
  mem : id ∈ d.queues.get level
  topmost : d.Topmost level

/-- The task stays in line, and nobody gets ahead of it. -/
def Holds (d d' : Dispatcher) (level : Level) (id : TaskId) : Prop :=
  d'.InLine level id ∧ d'.rank level id ≤ d.rank level id

/-- The task stays in line, and one task less goes before it. -/
def Advances (d d' : Dispatcher) (level : Level) (id : TaskId) : Prop :=
  d'.InLine level id ∧ d'.rank level id + 1 = d.rank level id

theorem Advances.holds (h : d.Advances d' level id) : d.Holds d' level id := by
  refine ⟨h.1, ?_⟩
  have hfalls := h.2
  omega

/-! ## Rank zero -/

/-- The active level is not above that of a task in line, since somebody stands there. -/
theorem InLine.active_le (h : d.InLine level id) (hx : d.executing? = some x) :
    d.active ≤ level := by
  by_contra habove
  have hmem := RunQueues.mem_of_head? hx
  rw [h.topmost d.active (not_le.mp habove)] at hmem
  exact absurd hmem (by simp)

theorem rank_eq_zero_iff (haccounted : d.Accounted) (h : d.InLine level id)
    (hx : d.executing? = some x) : d.rank level id = 0 ↔ d.executing? = some id := by
  have hnonempty : d.queues.get level ≠ [] := List.ne_nil_of_mem h.mem
  unfold rank
  constructor
  · intro hzero
    have hnotBelow : ¬ d.active < level := by
      intro hbelow
      simp [hbelow] at hzero
    have hactive : d.active = level := le_antisymm (h.active_le hx) (not_lt.mp hnotBelow)
    rw [if_neg hnotBelow, Nat.add_zero, List.idxOf_eq_zero_iff_eq_nil_or_head_eq] at hzero
    rw [executing?, hactive]
    exact hzero.resolve_left hnonempty
  · intro hid
    have hactive : d.active = level :=
      Option.some.inj ((haccounted.place?_executing hid).symm.trans (haccounted.mem_iff.mp h.mem))
    obtain ⟨rest, hqueue⟩ := RunQueues.head?_eq_some_iff.mp hid
    rw [← hactive, hqueue, List.idxOf_cons_self, if_neg (lt_irrefl _)]

/-! ## Arrivals and departures of others -/

/-- Whoever arrives stands behind the task, as long as nobody arrives above it. -/
theorem Appended.rank_eq (h : d.Appended d') (hline : d.InLine level id) :
    id ∈ d'.queues.get level ∧ d'.rank level id = d.rank level id := by
  have hqueue := h.queues_le level
  unfold rank
  rw [hqueue.idxOf_eq_of_mem hline.mem, h.active_eq]
  exact ⟨hqueue.subset hline.mem, rfl⟩

theorem Appended.holds (h : d.Appended d') (hline : d.InLine level id)
    (htopmost : d'.Topmost level) : d.Holds d' level id := by
  obtain ⟨hmem, hrank⟩ := h.rank_eq hline
  exact ⟨⟨hmem, htopmost⟩, le_of_eq hrank⟩

theorem Advances.appended (h : d.Advances d' level id) (happended : d'.Appended d'')
    (htopmost : d''.Topmost level) : d.Advances d'' level id := by
  obtain ⟨hmem, hrank⟩ := happended.rank_eq h.1
  refine ⟨⟨hmem, htopmost⟩, ?_⟩
  rw [hrank]
  exact h.2

theorem Holds.appended (h : d.Holds d' level id) (happended : d'.Appended d'')
    (htopmost : d''.Topmost level) : d.Holds d'' level id := by
  obtain ⟨hmem, hrank⟩ := happended.rank_eq h.1
  refine ⟨⟨hmem, htopmost⟩, ?_⟩
  rw [hrank]
  exact h.2

theorem Holds.of_queues (hline : d.InLine level id) (hqueues : d'.queues = d.queues)
    (hactive : d'.active = d.active) : d.Holds d' level id :=
  (Appended.of_queues hqueues hactive).holds hline fun other hother =>
    hqueues ▸ hline.topmost other hother

theorem idxOf_erase_le {queue : List TaskId} (hne : x ≠ id) :
    (queue.erase x).idxOf id ≤ queue.idxOf id := by
  induction queue with
  | nil => simp
  | cons head rest ih =>
      by_cases hhead : head = x
      · subst hhead
        rw [List.erase_cons_head, List.idxOf_cons_ne _ hne]
        omega
      · rw [List.erase_cons_tail (by simpa using hhead)]
        by_cases hself : head = id
        · rw [hself, List.idxOf_cons_self]
          omega
        · rw [List.idxOf_cons_ne _ hself, List.idxOf_cons_ne _ hself]
          omega

/-- Another task leaves the queue, wherever it stands. -/
theorem get_erase_of_ne (q : RunQueues) (hne : x ≠ id) (level other : Level) :
    (id ∈ q.get level → id ∈ (q.erase other x).get level) ∧
      ((q.erase other x).get level).idxOf id ≤ (q.get level).idxOf id := by
  rw [RunQueues.erase, RunQueues.get_set]
  by_cases hlevel : other = level
  · rw [if_pos hlevel, hlevel]
    exact ⟨(List.mem_erase_of_ne hne.symm).mpr, idxOf_erase_le hne⟩
  · rw [if_neg hlevel]
    exact ⟨fun hmem => hmem, le_refl _⟩

theorem topmost_dropOut (h : d.Topmost level) (mover : TaskId) (task : Task) :
    (d.dropOut mover task).Topmost level := by
  intro other hother
  by_contra hne
  exact RunQueues.ne_nil_of_erase hne (h other hother)

theorem holds_dropOut (hline : d.InLine level id) (hne : mover ≠ id) (task : Task) :
    d.Holds (d.dropOut mover task) level id := by
  obtain ⟨hmem, hle⟩ := get_erase_of_ne d.queues hne level task.level
  refine ⟨⟨hmem hline.mem, topmost_dropOut hline.topmost mover task⟩, ?_⟩
  exact Nat.add_le_add_right hle _

/-! ## Changes of level -/

/-- The executing task takes the active level along. What it costs the task in line that the other
one enters its queue in front it has saved when that one left for a lower level, and the reverse. -/
theorem carry_executing (hline : d.InLine level id) (hx : d.executing? = some mover)
    (hne : mover ≠ id) (hother : target ≠ d.active) (htarget : target ≤ level) :
    id ∈ ((d.queues.dropHead d.active).pushFront target mover).get level ∧
      (((d.queues.dropHead d.active).pushFront target mover).get level).idxOf id +
        (if target < level then 1 else 0) = d.rank level id := by
  obtain ⟨rest, hqueue⟩ := RunQueues.head?_eq_some_iff.mp hx
  have hactive := hline.active_le hx
  have hmem := hline.mem
  have hleft : ∀ other, (d.queues.dropHead d.active).get other =
      if d.active = other then rest else d.queues.get other := by
    intro other
    rw [RunQueues.dropHead, RunQueues.get_set, hqueue, List.tail_cons]
  unfold rank
  rw [RunQueues.pushFront, RunQueues.get_set, hleft, hleft]
  by_cases hhere : target = level
  · subst hhere
    have hbelow : d.active < target := lt_of_le_of_ne hactive hother.symm
    rw [if_pos rfl, if_neg hother.symm, List.idxOf_cons_ne _ hne, if_neg (lt_irrefl _),
      if_pos hbelow]
    exact ⟨List.mem_cons_of_mem _ hmem, rfl⟩
  · rw [if_neg hhere, if_pos (lt_of_le_of_ne htarget hhere)]
    by_cases hhead : d.active = level
    · rw [← hhead, hqueue] at hmem ⊢
      rw [if_pos rfl, if_neg (lt_irrefl _), List.idxOf_cons_ne _ hne]
      exact ⟨(List.mem_cons.mp hmem).resolve_left hne.symm, rfl⟩
    · rw [if_neg hhead, if_pos (lt_of_le_of_ne hactive hhead)]
      exact ⟨hmem, rfl⟩

/-- Arrivals at the back of the queues go behind the task, wherever they come from. -/
theorem holds_changeLevel (haccounted : d.Accounted) (hpolicy : d.config.requeuePolicy = .back)
    (hline : d.InLine level id) (hlive : d.tasks[mover]? = some task)
    (hrunning : task.running = true) (hkept : mover = id → target = level)
    (htopmost : (d.changeLevel mover task target).Topmost level) :
    d.Holds (d.changeLevel mover task target) level id := by
  unfold changeLevel at htopmost ⊢
  by_cases hsame : target = task.level
  · rw [if_pos hsame]
    exact ⟨hline, le_refl _⟩
  rw [if_neg hsame] at htopmost ⊢
  have hne : mover ≠ id := by
    -- The task itself is at this level already.
    intro hself
    have hplace := haccounted.mem_iff.mp hline.mem
    rw [← hself, place?_of_running hlive hrunning] at hplace
    exact hsame ((hkept hself).trans (Option.some.inj hplace).symm)
  by_cases hexecuting : d.executing? = some mover
  · rw [if_pos hexecuting] at htopmost ⊢
    have hother : target ≠ d.active :=
      haccounted.level_executing hlive hrunning hexecuting ▸ hsame
    have htarget : target ≤ level := by
      by_contra habove
      have hempty := htopmost target (not_le.mp habove)
      simp [RunQueues.pushFront] at hempty
    obtain ⟨hmem, hrank⟩ := carry_executing hline hexecuting hne hother htarget
    exact ⟨⟨hmem, htopmost⟩, le_of_eq hrank⟩
  · rw [if_neg hexecuting] at htopmost ⊢
    -- It leaves its queue as if it fell asleep, and comes back at the end of another one.
    refine (holds_dropOut hline hne task).appended ⟨rfl, ?_⟩ htopmost
    intro other
    simp only [enqueue, hpolicy]
    exact RunQueues.prefix_pushBack _ _ _ _

/-! ## Turns -/

/-- The queues after a turn: only the active one has changed. -/
theorem get_rotate (hx : d.executing? = some x) (stay : Bool) (other : Level) :
    (d.rotate stay).queues.get other =
      if d.active = other then (d.queues.get other).tail ++ (if stay then [x] else [])
      else d.queues.get other := by
  rw [queues_rotate hx]
  by_cases hother : d.active = other
  · subst hother
    obtain ⟨rest, hqueue⟩ := RunQueues.head?_eq_some_iff.mp hx
    cases stay with
    | false => simp [RunQueues.dropHead]
    | true => simp [RunQueues.rotate, hqueue]
  · rw [if_neg hother]
    cases stay with
    | false => exact RunQueues.get_set_of_ne _ _ hother
    | true => exact RunQueues.get_set_of_ne _ _ hother

/-- Whoever gives way, the active level is that of the task in line afterwards. -/
theorem InLine.rotate (hline : d.InLine level id) (hvigilant : d.Vigilant)
    (hx : d.executing? = some x) (hne : x ≠ id) (stay : Bool) :
    (d.rotate stay).InLine level id ∧ (d.rotate stay).active = level := by
  have hactive := hline.active_le hx
  have hmem : id ∈ (d.rotate stay).queues.get level := by
    rw [get_rotate hx]
    by_cases hhere : d.active = level
    · obtain ⟨rest, hqueue⟩ := RunQueues.head?_eq_some_iff.mp hx
      have hwaits := hline.mem
      rw [hhere] at hqueue
      rw [hqueue] at hwaits
      rw [if_pos hhere, hqueue, List.tail_cons]
      exact List.mem_append_left _ ((List.mem_cons.mp hwaits).resolve_left hne.symm)
    · rw [if_neg hhere]
      exact hline.mem
  have htopmost : (d.rotate stay).Topmost level := by
    intro other hother
    rw [get_rotate hx, if_neg (ne_of_lt (lt_of_le_of_lt hactive hother))]
    exact hline.topmost other hother
  have hoccupied := List.ne_nil_of_mem hmem
  refine ⟨⟨hmem, htopmost⟩, ?_⟩
  rcases active_rotate hx stay ⟨level, hoccupied⟩ with hgreatest | ⟨hstays, hnone, _⟩
  · refine le_antisymm ?_ (hgreatest.2 hoccupied)
    by_contra habove
    exact hgreatest.1 (htopmost _ (not_le.mp habove))
  · -- No choice was due, so the active level was the highest before.
    rw [hstays]
    exact le_antisymm hactive (hvigilant hnone (List.ne_nil_of_mem hline.mem))

/-- Whoever gives way, the task is one place nearer to its turn: either the one who left was in
front of it, or the active level was a lower one. -/
theorem advances_rotate (hvigilant : d.Vigilant) (hline : d.InLine level id)
    (hx : d.executing? = some x) (hne : x ≠ id) (stay : Bool) :
    d.Advances (d.rotate stay) level id := by
  obtain ⟨hline', hactive'⟩ := hline.rotate hvigilant hx hne stay
  refine ⟨hline', ?_⟩
  have hactive := hline.active_le hx
  have hmem := hline.mem
  unfold rank
  rw [hactive', if_neg (lt_irrefl _), Nat.add_zero, get_rotate hx]
  by_cases hhere : d.active = level
  · obtain ⟨rest, hqueue⟩ := RunQueues.head?_eq_some_iff.mp hx
    rw [hhere] at hqueue
    rw [hqueue] at hmem ⊢
    have hrest : id ∈ rest := (List.mem_cons.mp hmem).resolve_left hne.symm
    rw [hhere, if_pos rfl, if_neg (lt_irrefl _), List.tail_cons, List.idxOf_append_of_mem hrest,
      List.idxOf_cons_ne _ hne]
  · rw [if_neg hhere, if_pos (lt_of_le_of_ne hactive hhere)]

theorem InLine.congr (h : d.InLine level id) (hqueues : d'.queues = d.queues) :
    d'.InLine level id := by
  refine ⟨?_, ?_⟩
  · rw [hqueues]
    exact h.mem
  · intro other hother
    rw [hqueues]
    exact h.topmost other hother

theorem rank_congr (hqueues : d'.queues = d.queues) (hactive : d'.active = d.active) :
    d'.rank level id = d.rank level id := by
  rw [rank, hqueues, hactive, rank]

/-- What changes neither the queues nor the active level beforehand does not count. -/
theorem Advances.of_frame (hqueues : d'.queues = d.queues) (hactive : d'.active = d.active)
    (h : d'.Advances d'' level id) : d.Advances d'' level id :=
  ⟨h.1, h.2.trans (rank_congr hqueues hactive)⟩

theorem Holds.of_frame (hqueues : d'.queues = d.queues) (hactive : d'.active = d.active)
    (h : d'.Holds d'' level id) : d.Holds d'' level id :=
  ⟨h.1, h.2.trans (le_of_eq (rank_congr hqueues hactive))⟩

theorem advances_turn (hvigilant : d.Vigilant) (hline : d.InLine level id)
    (hx : d.executing? = some x) (hne : x ≠ id) (hturn : d.Turn d') :
    d.Advances d' level id := by
  cases hturn with
  | @elapse mover saved hmover =>
      obtain ⟨hqueues, hactive, hreselect⟩ := frame_modifyTask d mover ({ · with context := saved })
      have hrotated := advances_rotate (hvigilant.congr hqueues hactive hreselect)
        (hline.congr hqueues) ((executing_modifyTask d mover _).trans hx) hne true
      exact .of_frame hqueues hactive hrotated
  | @sleep mover task _ _ _ =>
      have hasleep : (d.store mover { task with running := false }).Vigilant :=
        hvigilant.congr rfl rfl rfl
      have hrotated := advances_rotate hasleep (hline.congr rfl) hx hne false
      exact .of_frame rfl rfl hrotated
  | @finish mover code _ =>
      have hrotated := advances_rotate hvigilant hline hx hne false
      exact ⟨hrotated.1.congr rfl, hrotated.2⟩

/-! ## Operations -/

/-- The executing task's own sleep takes it out of the way of the task in line. -/
theorem Suspended.advances {outcome : Result (Option Switch)} (h : d.Suspended mover outcome)
    (haccounted : d.Accounted) (hvigilant : d.Vigilant) (hline : d.InLine level id)
    (hx : d.executing? = some mover) (hne : mover ≠ id) : d.Advances outcome.state level id := by
  obtain ⟨task, hlive, hoccurred⟩ := h.of_executing haccounted hx
  obtain ⟨live, hlive', hrunning, _⟩ := haccounted.executing_live hx
  cases Option.some.inj (hlive.symm.trans hlive')
  have hreleased : d.release.Vigilant := hvigilant.congr rfl rfl rfl
  have hline' : d.release.InLine level id := hline.congr rfl
  have hturn : d.release.Turn (d.release.doze mover task) := .sleep hx hlive hrunning
  have hdozed := advances_turn hreleased hline' hx hne hturn
  rcases hoccurred with ⟨next, _, rfl⟩ | ⟨_, rfl⟩
  · exact .of_frame rfl rfl hdozed
  · exact .of_frame rfl rfl hdozed

theorem Suspended.holds {outcome : Result (Option Switch)} (h : d.Suspended mover outcome)
    (haccounted : d.Accounted) (hvigilant : d.Vigilant) (hline : d.InLine level id)
    (hne : mover ≠ id) : d.Holds outcome.state level id := by
  by_cases hx : d.executing? = some mover
  · exact (h.advances haccounted hvigilant hline hx hne).holds
  cases h with
  | gone | asleep => exact .of_queues hline rfl rfl
  | @dropped task _ _ _ =>
      have hline' : d.release.InLine level id := hline.congr rfl
      exact holds_dropOut hline' hne task
  | turned _ _ hmover | stranded _ _ hmover => exact absurd hmover hx

theorem Inquired.advances {waiter target : TaskId} {outcome : Result Awaited}
    (h : d.Inquired waiter target outcome) (haccounted : d.Accounted) (hvigilant : d.Vigilant)
    (hline : d.InLine level id) (hx : d.executing? = some waiter) (hne : waiter ≠ id)
    (hblocks : d.Blocks waiter target) : d.Advances outcome.state level id := by
  cases h with
  | told hcode => exact absurd (hcode.symm.trans hblocks.1) (by simp)
  | refused _ hgone => exact absurd hblocks.2 hgone
  | blocked _ htarget hwaiter hsuspended =>
      have hnoted : (d.register waiter target).Accounted :=
        haccounted.quiet (.register htarget hwaiter)
      rw [Outcome.state_map]
      exact .of_frame rfl rfl (hsuspended.advances hnoted (hvigilant.congr rfl rfl rfl)
        (hline.congr rfl) hx hne)

theorem Inquired.holds {waiter target : TaskId} {outcome : Result Awaited}
    (h : d.Inquired waiter target outcome) (haccounted : d.Accounted) (hvigilant : d.Vigilant)
    (hline : d.InLine level id) (hkept : waiter = id → ¬ d.Blocks waiter target) :
    d.Holds outcome.state level id := by
  cases h with
  | told | refused => exact .of_queues hline rfl rfl
  | blocked hcode htarget hwaiter hsuspended =>
      have hnoted : (d.register waiter target).Accounted :=
        haccounted.quiet (.register htarget hwaiter)
      have hne : waiter ≠ id := fun hself => hkept hself ⟨hcode, htarget, hwaiter⟩
      rw [Outcome.state_map]
      exact .of_frame rfl rfl (hsuspended.holds hnoted (hvigilant.congr rfl rfl rfl)
        (hline.congr rfl) hne)

theorem Served.advances {outcome : Result Receipt} (h : d.Served outcome)
    (haccounted : d.Accounted) (hvigilant : d.Vigilant) (hline : d.InLine level id)
    (hx : d.executing? = some x) (hne : x ≠ id)
    (hempty : ∀ task, d.tasks[x]? = some task → task.mailbox.pop.1 = none) :
    d.Advances outcome.state level id := by
  obtain ⟨live, hlive, _, _⟩ := haccounted.executing_live hx
  cases h with
  | stranded hnone => exact absurd (hnone.symm.trans hx) (by simp)
  | message hexecuting hfound hmessage =>
      cases Option.some.inj (hexecuting.symm.trans hx)
      exact absurd ((hempty _ hfound).symm.trans hmessage) (by simp)
  | gone hexecuting hgone =>
      cases Option.some.inj (hexecuting.symm.trans hx)
      exact absurd (hgone.symm.trans hlive) (by simp)
  | @slept mover task _ hexecuting hfound _ hsuspended =>
      cases Option.some.inj (hexecuting.symm.trans hx)
      have hsearched : (d.store x { task with mailbox := task.mailbox.pop.2 }).Accounted :=
        haccounted.quiet (.update hfound .collect)
      rw [Outcome.state_map]
      exact .of_frame rfl rfl (hsuspended.advances hsearched (hvigilant.congr rfl rfl rfl)
        (hline.congr rfl) hx hne)

theorem Served.holds {outcome : Result Receipt} (h : d.Served outcome)
    (haccounted : d.Accounted) (hvigilant : d.Vigilant) (hline : d.InLine level id)
    (hkept : ∀ task, d.executing? = some id → d.tasks[id]? = some task →
      task.mailbox.pop.1 ≠ none) : d.Holds outcome.state level id := by
  cases h with
  | stranded | message | gone => exact .of_queues hline rfl rfl
  | @slept mover task _ hexecuting hlive hempty hsuspended =>
      have hsearched : (d.store mover { task with mailbox := task.mailbox.pop.2 }).Accounted :=
        haccounted.quiet (.update hlive .collect)
      have hne : mover ≠ id := by
        rintro rfl
        exact hkept task hexecuting hlive hempty
      rw [Outcome.state_map]
      exact .of_frame rfl rfl (hsuspended.holds hsearched (hvigilant.congr rfl rfl rfl)
        (hline.congr rfl) hne)

/-- Who ends goes out of the way, and those it wakes stand behind the task in line. -/
theorem advances_exit (hvigilant : d.Vigilant) (hline : d.InLine level id)
    (hx : d.executing? = some x) (hne : x ≠ id) (code : Int32)
    (htopmost : (d.exit code).state.Topmost level) : d.Advances (d.exit code).state level id := by
  rw [state_exit hx] at htopmost ⊢
  exact (advances_turn hvigilant hline hx hne (.finish code hx)).appended (appended_wakeAll _ _)
    htopmost

/-- The end of a task puts somebody above a level only if it wakes him there. -/
theorem topmost_exit (haccounted : d.Accounted) (htopmost : d.Topmost level)
    (hx : d.executing? = some x) (code : Int32)
    (hbelow : ∀ waiter task, d.Awakens waiter task → task.level ≤ level) :
    (d.exit code).state.Topmost level := by
  intro other hother
  rw [List.eq_nil_iff_forall_not_mem]
  intro y hy
  obtain ⟨task, htask, hrunning, hlevel⟩ :=
    place?_eq_some_iff.mp ((exit_decides haccounted hx code).1.mem_iff.mp hy)
  have hasleep : ∀ old, d.tasks[y]? = some old → old.level = other → old.running = false := by
    intro old hold hsame
    by_contra hawake
    have hstood : y ∈ d.queues.get other := haccounted.mem_iff.mpr
      (place?_eq_some_iff.mpr ⟨old, hold, Bool.not_eq_false _ ▸ hawake, hsame⟩)
    rw [htopmost other hother] at hstood
    exact absurd hstood (by simp)
  rw [getElem?_exit hx] at htask
  by_cases hself : x = y
  · rw [if_pos hself] at htask
    exact absurd htask (by simp)
  rw [if_neg hself] at htask
  by_cases hwaits : y ∈ d.awaiting x
  · rw [if_pos hwaits] at htask
    obtain ⟨old, hold, rfl⟩ := Option.map_eq_some_iff.mp htask
    have hle := hbelow y old ((awakens_iff hx).mpr ⟨hwaits, hold, hasleep old hold hlevel⟩)
    exact absurd (hlevel ▸ hle) (not_le.mpr hother)
  · rw [if_neg hwaits] at htask
    exact absurd ((hasleep task htask hlevel).symm.trans hrunning) (by decide)

end Dispatcher

namespace Scheduler

open Dispatcher

variable {s : Scheduler} {operation : Operation} {id x : TaskId} {level : Level}

/-- The operation puts the task to sleep, changes its level, or ends its turn or its life. -/
def Operation.Displaces (d : Dispatcher) (level : Level) (id : TaskId) : Operation → Prop
  | .wake target requested =>
    target = id ∧ ∃ granted, d.config.grantLevel? requested = .ok (some granted) ∧ granted ≠ level
  | .suspend target => target = id
  | .awaitExit waiter target => waiter = id ∧ d.Blocks waiter target
  | .receiveOrSuspend => d.executing? = some id ∧ Operation.receiveOrSuspend.Withdraws d
  | .preempt _ | .exit _ => d.executing? = some id
  | _ => False

instance (d : Dispatcher) : (operation : Operation) → Decidable (operation.Yields d)
  | .preempt _ | .exit _ => .isTrue trivial
  | .suspend id => inferInstanceAs (Decidable ((Operation.suspend id).Withdraws d))
  | .awaitExit waiter target =>
    inferInstanceAs (Decidable ((Operation.awaitExit waiter target).Withdraws d))
  | .receiveOrSuspend => inferInstanceAs (Decidable (Operation.receiveOrSuspend.Withdraws d))
  | .create | .prepare _ _ | .prepareWith _ _ _ | .editContext _ _ | .launch _ _ _ | .wake _ _
  | .send _ _ | .receive _ | .startSchedule | .armAt _ _ _ _ | .armAfter _ _ _ _ | .tick
  | .restock _ =>
    .isFalse False.elim

/-- The executing task cannot give way without being displaced. -/
theorem Operation.Yields.displaces (h : operation.Yields s.tasks)
    (hx : s.tasks.executing? = some id) : operation.Displaces s.tasks level id := by
  cases operation with
  | preempt | exit => exact hx
  | suspend target => exact Option.some.inj (Eq.trans (Eq.symm h) hx)
  | awaitExit waiter target =>
      obtain ⟨hwaiter, hcode, htarget, hlive⟩ := h
      exact ⟨Option.some.inj (hwaiter.symm.trans hx), hcode, htarget, hlive⟩
  | receiveOrSuspend => exact ⟨hx, h⟩
  | create | prepare | prepareWith | editContext | launch | wake | send | receive
  | startSchedule | armAt | armAfter | tick | restock => exact h.elim

/-- Whoever gives way to the task in line, it is one place nearer to its turn. -/
theorem advances_perform (haccounted : s.tasks.Accounted) (hvigilant : s.tasks.Vigilant)
    (hline : s.tasks.InLine level id) (hx : s.tasks.executing? = some x) (hne : x ≠ id)
    (hyields : operation.Yields s.tasks)
    (hexit : ∀ code, operation = .exit code → (s.perform operation).state.tasks.Topmost level) :
    s.tasks.Advances (s.perform operation).state.tasks level id := by
  cases operation with
  | preempt saved =>
      simp only [perform, preempt_of_executing hx, Outcome.state_done]
      exact advances_turn hvigilant hline hx hne (.elapse saved hx)
  | suspend target =>
      have hself : target = x := Option.some.inj (Eq.trans (Eq.symm hyields) hx)
      subst hself
      exact (suspended s.tasks target).advances haccounted hvigilant hline hx hne
  | exit code => exact advances_exit hvigilant hline hx hne code (hexit code rfl)
  | awaitExit waiter target =>
      obtain ⟨hwaiter, hcode, htarget, hlive⟩ := hyields
      cases Option.some.inj (hwaiter.symm.trans hx)
      have hblocks : s.tasks.Blocks x target := ⟨hcode, htarget, hlive⟩
      simp only [perform, Outcome.state_map]
      exact (inquired s.tasks x target).advances haccounted hvigilant hline hx hne hblocks
  | receiveOrSuspend =>
      obtain ⟨mover, live, hmover, hlive, hempty⟩ :=
        Operation.withdraws_receiveOrSuspend_iff.mp hyields
      cases Option.some.inj (hmover.symm.trans hx)
      simp only [perform, Outcome.state_map]
      refine (served s.tasks).advances haccounted hvigilant hline hx hne ?_
      intro task htask
      cases Option.some.inj (htask.symm.trans hlive)
      exact List.head?_eq_none_iff.mpr (List.isEmpty_iff.mp hempty)
  | create | prepare | prepareWith | editContext | launch | wake | send | receive
  | startSchedule | armAt | armAfter | tick | restock => exact hyields.elim

theorem holds_wake (haccounted : s.tasks.Accounted)
    (hpolicy : s.tasks.config.requeuePolicy = .back) (hline : s.tasks.InLine level id)
    {target : TaskId} {requested : Option Nat}
    (hkept : ¬ (Operation.wake target requested).Displaces s.tasks level id)
    (htopmost : (s.tasks.wake target requested).state.Topmost level) :
    s.tasks.Holds (s.tasks.wake target requested).state level id := by
  have h := woken s.tasks target requested
  generalize s.tasks.wake target requested = outcome at h htopmost ⊢
  cases h with
  | refused => exact .of_queues hline rfl rfl
  | roused => exact (appended_makeRunnable _ _ _ _).holds hline htopmost
  | @moved granted task hgranted hlive hrunning =>
      refine holds_changeLevel haccounted hpolicy hline hlive hrunning ?_ htopmost
      intro hself
      cases granted with
      | none =>
          have hplace := haccounted.mem_iff.mp hline.mem
          rw [← hself, place?_of_running hlive hrunning] at hplace
          exact Option.some.inj hplace
      | some granted =>
          by_contra hother
          exact hkept ⟨hself, granted, hgranted, hother⟩

/-- Nobody gets ahead of a task that is left in its place. -/
theorem holds_perform (haccounted : s.tasks.Accounted) (hvigilant : s.tasks.Vigilant)
    (hpolicy : s.tasks.config.requeuePolicy = .back) (hline : s.tasks.InLine level id)
    (hx : s.tasks.executing? = some x) (hkept : ¬ operation.Displaces s.tasks level id)
    (htopmost : (s.perform operation).state.tasks.Topmost level) :
    s.tasks.Holds (s.perform operation).state.tasks level id := by
  by_cases hyields : operation.Yields s.tasks
  · have hne : x ≠ id := fun hself => hkept (hyields.displaces (hself ▸ hx))
    exact (advances_perform haccounted hvigilant hline hx hne hyields fun _ _ => htopmost).holds
  cases operation with
  | create | prepare | prepareWith | editContext | launch | send | receive | startSchedule | armAt
  | armAfter | tick | restock => exact Appended.holds (appended_perform s trivial) hline htopmost
  | wake target requested => exact holds_wake haccounted hpolicy hline hkept htopmost
  | suspend target =>
      exact (suspended s.tasks target).holds haccounted hvigilant hline hkept
  | awaitExit waiter target =>
      simp only [perform, Outcome.state_map]
      exact (inquired s.tasks waiter target).holds haccounted hvigilant hline
        fun hself hblocks => hkept ⟨hself, hblocks⟩
  | receiveOrSuspend =>
      simp only [perform, Outcome.state_map]
      refine (served s.tasks).holds haccounted hvigilant hline ?_
      intro task hself hlive hempty
      have hmessages : task.mailbox.messages = [] := List.head?_eq_none_iff.mp hempty
      exact hyields (Operation.withdraws_receiveOrSuspend_iff.mpr
        ⟨id, task, hself, hlive, List.isEmpty_iff.mpr hmessages⟩)
  | preempt | exit => exact absurd trivial hyields

/-! ## Histories -/

/-- The operation leaves the task in its place, and nobody comes to stand above it. -/
def LeavesInLine (level : Level) (id : TaskId) (s : Scheduler) (operation : Operation) : Prop :=
  ¬ operation.Displaces s.tasks level id ∧ (s.perform operation).state.tasks.Topmost level

/-- The operation, if the executing task gives way by it. -/
def turnOf (s : Scheduler) (operation : Operation) : List Operation :=
  if operation.Yields s.tasks then [operation] else []

/-- Each turn that is given brings a task that is spared one place nearer to its own. -/
theorem rank_perform (haccounted : s.tasks.Accounted) (hvigilant : s.tasks.Vigilant)
    (hpolicy : s.tasks.config.requeuePolicy = .back) (hline : s.tasks.InLine level id)
    (hx : s.tasks.executing? = some x) (hleaves : s.LeavesInLine level id operation) :
    (s.perform operation).state.tasks.InLine level id ∧
      (s.perform operation).state.tasks.rank level id + (s.turnOf operation).length ≤
        s.tasks.rank level id := by
  by_cases hyields : operation.Yields s.tasks
  · have hne : x ≠ id := fun hself => hleaves.1 (hyields.displaces (hself ▸ hx))
    obtain ⟨hline', hrank⟩ :=
      advances_perform haccounted hvigilant hline hx hne hyields fun _ _ => hleaves.2
    rw [turnOf, if_pos hyields]
    exact ⟨hline', le_of_eq hrank⟩
  · obtain ⟨hline', hrank⟩ :=
      holds_perform haccounted hvigilant hpolicy hline hx hleaves.1 hleaves.2
    rw [turnOf, if_neg hyields]
    exact ⟨hline', hrank⟩

/-- No more turns are given before the task's own than its rank says. -/
theorem rank_run {history : List Operation} (hs : s.Undisturbed)
    (hpolicy : s.tasks.config.requeuePolicy = .back) (hline : s.tasks.InLine level id)
    (hfaultless : s.Faultless history) (hleft : s.Along (LeavesInLine level id) history) :
    (s.run history).tasks.InLine level id ∧
      (s.run history).tasks.rank level id + (s.gather turnOf history).length ≤
        s.tasks.rank level id := by
  induction history generalizing s with
  | nil => exact ⟨hline, le_refl _⟩
  | cons operation rest ih =>
      obtain ⟨x, hx⟩ := hs.executing
      obtain ⟨hline', hfirst⟩ := rank_perform hs.reachable.accounted hs.reachable.vigilant hpolicy
        hline hx hleft.1
      have hpolicy' : (s.perform operation).state.tasks.config.requeuePolicy = .back := by
        rw [config_perform]
        exact hpolicy
      obtain ⟨hline'', hrest⟩ := ih (hs.perform hfaultless.1) hpolicy' hline' hfaultless.2 hleft.2
      refine ⟨hline'', ?_⟩
      rw [run_cons, gather, List.length_append]
      omega

/-- What a task in line can count on. -/
structure BoundedOvertaking (s : Scheduler) (level : Level) (id : TaskId) : Prop where
  /-- The first in line is the executing task. -/
  first : s.tasks.rank level id = 0 ↔ s.tasks.current = .ok id
  /-- An operation that leaves the task in its place lets nobody get ahead of it. -/
  held : ∀ operation, ¬ operation.Displaces s.tasks level id →
    (s.perform operation).state.tasks.Topmost level →
    s.tasks.Holds (s.perform operation).state.tasks level id
  /-- When another task gives way, one less goes before. -/
  advanced : 0 < s.tasks.rank level id → ∀ operation, operation.Yields s.tasks →
    (∀ code, operation = .exit code →
      ∀ waiter task, s.tasks.Awakens waiter task → task.level ≤ level) →
    s.tasks.Advances (s.perform operation).state.tasks level id
  /-- So the task waits for as many turns as go before it, and not for more. -/
  bounded : ∀ history, s.Faultless history → s.Along (LeavesInLine level id) history →
    (s.run history).tasks.rank level id + (s.gather turnOf history).length ≤
      s.tasks.rank level id

/-- **Nobody is overtaken** at the highest occupied level, as long as runnable tasks that change
their level go to the back of its queue. -/
theorem boundedOvertaking (hs : s.Undisturbed) (hpolicy : s.tasks.config.requeuePolicy = .back)
    (hline : s.tasks.InLine level id) : s.BoundedOvertaking level id := by
  have haccounted := hs.reachable.accounted
  have hvigilant := hs.reachable.vigilant
  obtain ⟨x, hx⟩ := hs.executing
  have hfirst := rank_eq_zero_iff haccounted hline hx
  refine ⟨hfirst.trans current_eq_ok_iff.symm, ?_, ?_, ?_⟩
  · intro operation hkept htopmost
    exact holds_perform haccounted hvigilant hpolicy hline hx hkept htopmost
  · intro hrank operation hyields hbelow
    have hne : x ≠ id := by
      rintro rfl
      exact absurd (hfirst.mpr hx) (Nat.pos_iff_ne_zero.mp hrank)
    refine advances_perform haccounted hvigilant hline hx hne hyields ?_
    rintro code rfl
    exact topmost_exit haccounted hline.topmost hx code (hbelow code rfl)
  · intro history hfaultless hleft
    exact (rank_run hs hpolicy hline hfaultless hleft).2

/-- The first task has lowered its own level, and the second one waits above it. -/
theorem boundedOvertaking_above_executing :
    ((start {} Platform.simulated (Arena.simulated 0)).run
      [.create, .wake 2 (some 2), .wake 1 (some 1)]).BoundedOvertaking 2 2 :=
  boundedOvertaking ⟨_, _, _, [.create, .wake 2 (some 2), .wake 1 (some 1)], by decide, rfl⟩ rfl
    ⟨by decide, by decide⟩

end Scheduler

end TaskKernel
