import TaskKernel.Proofs.Expiry
import TaskKernel.Proofs.Overtaking
import Mathlib.Data.List.Nodup

/-!
# Bystanders keep their order

Queues are edited at both ends and in the middle, two of them at once where a task changes its
level. Whoever is not concerned notices nothing of it. For every operation but the end of a turn, and
for every level (`orderKept_perform`):

* the tasks that stand in the queue before and afterwards stand there in the same order;
* those that become runnable stand behind all others, in the order in which they were called.

An operation either moves one runnable task from one place to another (`orderKept_changeLevel`), or
lets tasks leave and newcomers join their queues at the end (`Received`).
-/

namespace TaskKernel

/-! ## Lists without repetitions -/

section Lists

variable {α : Type} [DecidableEq α] {common first second : List α}

/-- A part of a list is what one gets by picking its members out of the list. -/
theorem filter_mem_eq_of_sublist (hfirst : first.Nodup) (hcommon : common.Sublist first) :
    first.filter (· ∈ common) = common := by
  induction hcommon with
  | slnil => rfl
  | @cons common rest head hrest ih =>
      obtain ⟨hhead, hnodup⟩ := List.nodup_cons.mp hfirst
      have habsent : head ∉ common := fun hmem => hhead (hrest.subset hmem)
      rw [List.filter_cons_of_neg (by simpa using habsent)]
      exact ih hnodup
  | @cons_cons common rest head _ ih =>
      obtain ⟨hhead, hnodup⟩ := List.nodup_cons.mp hfirst
      have hcongr : rest.filter (· ∈ head :: common) = rest.filter (· ∈ common) := by
        refine List.filter_congr fun x hx => ?_
        have hne : x ≠ head := fun hsame => hhead (hsame ▸ hx)
        simp [hne]
      rw [List.filter_cons_of_pos (by simp), hcongr, ih hnodup]

/-- Two lists share their common members in one order if these make up a part of both. -/
theorem filter_mem_comm (hfirst : first.Nodup) (hsecond : second.Nodup)
    (hleft : common.Sublist first) (hright : common.Sublist second)
    (hcommon : ∀ x ∈ first, x ∈ second → x ∈ common) :
    second.filter (· ∈ first) = first.filter (· ∈ second) := by
  calc second.filter (· ∈ first)
    _ = second.filter (· ∈ common) := List.filter_congr fun x hx => by
        simpa using ⟨fun h => hcommon x h hx, fun h => hleft.subset h⟩
    _ = common := filter_mem_eq_of_sublist hsecond hright
    _ = first.filter (· ∈ common) := (filter_mem_eq_of_sublist hfirst hleft).symm
    _ = first.filter (· ∈ second) := List.filter_congr fun x hx => by
        simpa using ⟨fun h => hright.subset h, fun h => hcommon x hx h⟩

end Lists

namespace Dispatcher

variable {d d' d'' : Dispatcher} {id x : TaskId} {ids called : List TaskId} {level : Level}

/-! ## Calling sleepers -/

/-- The task sleeps, and will run at this level. -/
def sleepsAt (d : Dispatcher) (level : Level) (id : TaskId) : Bool :=
  d.tasks[id]?.any fun task => !task.running && task.level == level

/-- Tasks have been called in order: each of them that slept went to the end of its queue when it
was called first. -/
structure Roused (d : Dispatcher) (ids : List TaskId) (d' : Dispatcher) : Prop where
  queues : ∀ level, d'.queues.get level =
    d.queues.get level ++ (ids.filter (d.sleepsAt level)).eraseDups
  sleeps : ∀ level id, d'.sleepsAt level id = (decide (id ∉ ids) && d.sleepsAt level id)

theorem Roused.nil (d : Dispatcher) : d.Roused [] d := ⟨by simp, by simp⟩

theorem Roused.append {later : List TaskId} (h : d.Roused ids d') (h' : d'.Roused later d'') :
    d.Roused (ids ++ later) d'' := by
  refine ⟨fun level => ?_, fun level id => ?_⟩
  · have hlater : later.filter (d'.sleepsAt level) =
        (later.filter (d.sleepsAt level)).removeAll (ids.filter (d.sleepsAt level)) := by
      rw [List.removeAll, List.filter_filter]
      refine List.filter_congr fun id _ => ?_
      rw [h.sleeps]
      cases hsleeps : d.sleepsAt level id with
      | false => simp
      | true => simp [hsleeps]
    rw [h'.queues, h.queues, List.append_assoc, List.filter_append, List.eraseDups_append, hlater]
  · rw [h'.sleeps, h.sleeps, ← Bool.and_assoc, Bool.and_comm (decide _)]
    simp [not_or]

/-- What the queues and sleepers were before decides. -/
theorem Roused.of_frame (h : d'.Roused ids d'') (hqueues : d'.queues = d.queues)
    (hsleeps : ∀ level id, d'.sleepsAt level id = d.sleepsAt level id) : d.Roused ids d'' := by
  have hsame : ∀ level, d'.sleepsAt level = d.sleepsAt level := fun level => funext (hsleeps level)
  refine ⟨fun level => ?_, fun level id => ?_⟩
  · rw [h.queues, hqueues, hsame]
  · rw [h.sleeps, hsame]

theorem sleepsAt_of_sleeps {task : Task} (h : d.Sleeps id task) (level : Level) :
    d.sleepsAt level id = decide (task.level = level) := by
  rw [sleepsAt, h.1]
  simp [h.2, beq_eq_decide]

theorem sleepsAt_iff :
    d.sleepsAt level id = true ↔ ∃ task, d.Sleeps id task ∧ task.level = level := by
  unfold sleepsAt Sleeps
  cases d.tasks[id]? with
  | none => simp
  | some task => simp

theorem sleepsAt_rouse (d : Dispatcher) (id : TaskId) (level : Level) (x : TaskId) :
    (d.rouse id).sleepsAt level x = (decide (x ≠ id) && d.sleepsAt level x) := by
  unfold sleepsAt
  rw [getElem?_rouse]
  by_cases hx : id = x
  · subst hx
    cases d.tasks[id]? with
    | none => simp
    | some task => simp
  · rw [if_neg hx]
    simp [Ne.symm hx]

theorem roused_rouse (d : Dispatcher) (id : TaskId) : d.Roused [id] (d.rouse id) := by
  refine ⟨fun level => ?_, fun level x => ?_⟩
  · by_cases h : ∃ task, d.Sleeps id task
    · obtain ⟨task, hsleeps⟩ := h
      rw [rouse_of_sleeps hsleeps, List.filter_singleton, sleepsAt_of_sleeps hsleeps]
      show (d.queues.pushBack task.level id).get level = _
      rw [RunQueues.pushBack, RunQueues.get_set]
      by_cases hlevel : task.level = level
      · simp [hlevel, List.eraseDups_cons]
      · simp [hlevel]
    · have hawake : d.sleepsAt level id = false := by
        rw [Bool.eq_false_iff, ne_eq, sleepsAt_iff]
        rintro ⟨task, hsleeps, _⟩
        exact h ⟨task, hsleeps⟩
      rw [rouse_of_not_sleeps (not_exists.mp h), List.filter_singleton, hawake]
      simp
  · rw [sleepsAt_rouse]
    simp

theorem roused_wakeAll (d : Dispatcher) (ids : List TaskId) : d.Roused ids (d.wakeAll ids) := by
  induction ids generalizing d with
  | nil => exact .nil d
  | cons id rest ih => exact (roused_rouse d id).append (ih (d.rouse id))

theorem roused_send (d : Dispatcher) (id : TaskId) (message : Message) :
    d.Roused [id] (d.send id message).state := by
  cases hlive : d.tasks[id]? with
  | none =>
      have hsame : d.rouse id = d := rouse_of_not_sleeps fun task hsleeps =>
        absurd (hlive.symm.trans hsleeps.1) (by simp)
      have h := roused_rouse d id
      rw [hsame] at h
      rw [send_of_gone hlive, state_refuse]
      exact h
  | some task =>
      unfold send
      simp only [hlive]
      rw [state_wake_none]
      -- The message itself is no matter of the queues.
      refine (roused_rouse (d.store id { task with mailbox := task.mailbox.push message })
        id).of_frame rfl fun level x => ?_
      unfold sleepsAt
      rw [getElem?_store]
      by_cases hx : id = x
      · rw [if_pos hx, ← hx, hlive]
        rfl
      · rw [if_neg hx]

theorem roused_remindAll (d : Dispatcher) (timers : List Timer) :
    d.Roused ((timers.filter (!·.periodic)).map (·.target)) (timers.foldl remind d) := by
  induction timers generalizing d with
  | nil => exact .nil d
  | cons timer rest ih =>
      rw [List.foldl_cons, List.filter_cons]
      cases hmessage : timer.message? with
      | none =>
          have hperiodic : timer.periodic = true := by
            have h := timer.isSome_message?
            simpa [hmessage] using h
          rw [remind_of_idle (.inl hperiodic), if_neg (by simp [hperiodic])]
          exact ih d
      | some message =>
          have huser : timer.periodic = false := by
            have h := timer.isSome_message?
            simpa [hmessage] using h
          have hfirst : d.Roused [timer.target] (d.remind timer) := by
            unfold remind
            rw [hmessage]
            exact roused_send d timer.target message
          rw [if_pos (by simp [huser]), List.map_cons]
          exact hfirst.append (ih _)

/-! ## Leaving and joining -/

/-- The tasks that were called and stand in the queue afterwards, though they did not run before, in
the order in which they were called first. -/
def newcomers (d d' : Dispatcher) (called : List TaskId) (level : Level) : List TaskId :=
  (called.filter fun id => id ∉ d.queues.toList ∧ id ∈ d'.queues.get level).eraseDups

/-- Nobody in the queue of the level has changed places. -/
structure OrderKept (d d' : Dispatcher) (called : List TaskId) (level : Level) : Prop where
  /-- Who stood there and still does has the same tasks in front of him, of those that stayed. -/
  bystanders : (d'.queues.get level).filter (· ∈ d.queues.get level) =
    (d.queues.get level).filter (· ∈ d'.queues.get level)
  /-- Who was not runnable before stands behind all others, in the order of the calls. -/
  joined : ∃ others, d'.queues.get level = others ++ d.newcomers d' called level ∧
    ∀ id ∈ others, id ∈ d.queues.toList
  /-- Every sleeper that was woken to this level is among them. -/
  woken : ∀ id task task', d.find? id = some task → task.running = false →
    d'.find? id = some task' → task'.running = true → task'.level = level →
    id ∈ d.newcomers d' called level

/-- Tasks may have left the queue, and those joined it that were called and not runnable. -/
def Received (d d' : Dispatcher) (called : List TaskId) (level : Level) : Prop :=
  ∃ kept, ∃ p : TaskId → Bool,
    d'.queues.get level = kept ++ (called.filter p).eraseDups ∧
      kept.Sublist (d.queues.get level) ∧ ∀ id ∈ called, p id = true → id ∉ d.queues.toList

theorem Accounted.not_mem_of_sleeping {task : Task} (h : d.Accounted)
    (hlive : d.find? id = some task) (hasleep : task.running = false) : id ∉ d.queues.toList :=
  h.consistent.sleeping_absent id task hlive hasleep

/-- Whoever stands in the queue is among the others or among the newcomers. -/
theorem OrderKept.of_joined (haccounted : d.Accounted) (haccounted' : d'.Accounted)
    (hbystanders : (d'.queues.get level).filter (· ∈ d.queues.get level) =
      (d.queues.get level).filter (· ∈ d'.queues.get level))
    (hjoined : ∃ others, d'.queues.get level = others ++ d.newcomers d' called level ∧
      ∀ id ∈ others, id ∈ d.queues.toList) : d.OrderKept d' called level := by
  refine ⟨hbystanders, hjoined, fun id task task' hlive hasleep hlive' hrunning hlevel => ?_⟩
  obtain ⟨others, hqueue, hothers⟩ := hjoined
  have habsent := haccounted.not_mem_of_sleeping hlive hasleep
  have hmem : id ∈ d'.queues.get level :=
    haccounted'.mem_iff.mpr (place?_eq_some_iff.mpr ⟨task', hlive', hrunning, hlevel⟩)
  rw [hqueue] at hmem
  exact (List.mem_append.mp hmem).resolve_left fun hother => habsent (hothers id hother)

theorem Received.orderKept (haccounted : d.Accounted) (haccounted' : d'.Accounted)
    (h : d.Received d' called level) : d.OrderKept d' called level := by
  obtain ⟨kept, p, hqueue, hkept, hfresh⟩ := h
  have hnew : ∀ id, id ∈ (called.filter p).eraseDups → id ∉ d.queues.toList := fun id hid => by
    obtain ⟨hcalled, hp⟩ := List.mem_filter.mp (List.mem_eraseDups.mp hid)
    exact hfresh id hcalled hp
  have hold : ∀ id, id ∈ d.queues.get level → id ∈ d.queues.toList := fun id hid =>
    RunQueues.mem_toList.mpr ⟨level, hid⟩
  refine .of_joined haccounted haccounted' ?_ ?_
  · refine filter_mem_comm (haccounted.nodup_queue level) (haccounted'.nodup_queue level) hkept ?_ ?_
    · rw [hqueue]
      exact List.sublist_append_left _ _
    · intro x hx hx'
      rw [hqueue] at hx'
      exact (List.mem_append.mp hx').resolve_right fun hjoined => hnew x hjoined (hold x hx)
  · refine ⟨kept, ?_, fun id hid => hold id (hkept.subset hid)⟩
    have hnewcomers : called.filter p =
        called.filter fun id => id ∉ d.queues.toList ∧ id ∈ d'.queues.get level := by
      refine List.filter_congr fun id hid => ?_
      rw [Bool.eq_iff_iff, decide_eq_true_iff, hqueue]
      constructor
      · intro hp
        exact ⟨hfresh id hid hp, List.mem_append_right _
          (List.mem_eraseDups.mpr (List.mem_filter.mpr ⟨hid, hp⟩))⟩
      · rintro ⟨habsent, hmem⟩
        have hjoined := (List.mem_append.mp hmem).resolve_left fun h =>
          habsent (hold id (hkept.subset h))
        exact (List.mem_filter.mp (List.mem_eraseDups.mp hjoined)).2
    rw [newcomers, ← hnewcomers]
    exact hqueue

theorem Received.of_sublist (h : (d'.queues.get level).Sublist (d.queues.get level)) :
    d.Received d' called level := by
  refine ⟨d'.queues.get level, fun _ => false, ?_, h, fun _ _ hfalse => absurd hfalse (by simp)⟩
  simp

theorem Received.of_queues (h : d'.queues = d.queues) : d.Received d' called level :=
  .of_sublist (by rw [h])

/-- Tasks leave, and then sleepers are called. -/
theorem Received.of_roused (haccounted : d.Accounted) (h : d'.Roused called d'')
    (hleft : (d'.queues.get level).Sublist (d.queues.get level))
    (hsleeps : ∀ id task, d'.Sleeps id task → d.Sleeps id task) :
    d.Received d'' called level := by
  refine ⟨d'.queues.get level, d'.sleepsAt level, h.queues level, hleft, fun id _ hid => ?_⟩
  obtain ⟨task, hsleeper, _⟩ := sleepsAt_iff.mp hid
  obtain ⟨hlive, hasleep⟩ := hsleeps id task hsleeper
  exact haccounted.not_mem_of_sleeping hlive hasleep

/-- One task becomes runnable, at whatever level. -/
theorem received_makeRunnable {task : Task} {target : Level} (hqueues : d'.queues = d.queues)
    (hfresh : id ∉ d.queues.toList) :
    d.Received (d'.makeRunnable id task target) [id] level := by
  refine ⟨d.queues.get level, fun _ => target = level, ?_, .refl _, fun x hx _ => ?_⟩
  · show (d'.queues.pushBack target id).get level = _
    rw [hqueues, RunQueues.pushBack, RunQueues.get_set]
    by_cases hlevel : target = level
    · simp [hlevel, List.eraseDups_cons]
    · simp [hlevel]
  · rw [List.mem_singleton.mp hx]
    exact hfresh

/-! ## Departures -/

theorem sublist_erase (q : RunQueues) (level other : Level) (id : TaskId) :
    ((q.erase other id).get level).Sublist (q.get level) := by
  rw [RunQueues.erase, RunQueues.get_set]
  split
  · next h =>
    rw [h]
    exact List.erase_sublist
  · exact .refl _

theorem sublist_rotate {x : TaskId} (hx : d.executing? = some x) (level : Level) :
    ((d.rotate false).queues.get level).Sublist (d.queues.get level) := by
  rw [queues_rotate hx, if_neg (by decide), RunQueues.dropHead_eq_erase hx]
  exact sublist_erase d.queues level d.active x

theorem sublist_doze (hx : d.executing? = some id) (task : Task) (level : Level) :
    ((d.doze id task).queues.get level).Sublist (d.queues.get level) := by
  have hx' : (d.store id { task with running := false }).executing? = some id := hx
  exact sublist_rotate hx' level

/-! ## Changes of level -/

/-- The task has been put somewhere into one of the queues. -/
def Inserted (q q' : RunQueues) (id : TaskId) : Prop :=
  ∀ level, (q.get level).Sublist (q'.get level) ∧ ∀ x ∈ q'.get level, x = id ∨ x ∈ q.get level

/-- Where one queue gets a new member, it keeps the order of the others. -/
theorem inserted_set {q : RunQueues} {target : Level} {front back : List TaskId}
    (hqueue : q.get target = front ++ back) (id : TaskId) :
    Inserted q (q.set target (front ++ id :: back)) id := by
  intro level
  rw [RunQueues.get_set]
  by_cases hlevel : target = level
  · subst hlevel
    rw [if_pos rfl, hqueue]
    refine ⟨(List.Sublist.refl front).append (List.sublist_cons_self id back), fun x hx => ?_⟩
    rcases List.mem_append.mp hx with hfront | hback
    · exact .inr (List.mem_append_left _ hfront)
    · rcases List.mem_cons.mp hback with hsame | hback
      · exact .inl hsame
      · exact .inr (List.mem_append_right _ hback)
  · rw [if_neg hlevel]
    exact ⟨.refl _, fun x hx => .inr hx⟩

theorem inserted_pushBack (q : RunQueues) (target : Level) (id : TaskId) :
    Inserted q (q.pushBack target id) id :=
  inserted_set (List.append_nil _).symm id

theorem inserted_pushFront (q : RunQueues) (target : Level) (id : TaskId) :
    Inserted q (q.pushFront target id) id :=
  inserted_set (List.nil_append _).symm id

theorem inserted_enqueue (d : Dispatcher) (q : RunQueues) (target : Level) (id : TaskId) :
    Inserted q (d.enqueue q target id) id := by
  unfold enqueue
  cases d.config.requeuePolicy with
  | back => exact inserted_pushBack q target id
  | front =>
      by_cases hactive : target = d.active
      · simp only [if_pos hactive]
        exact inserted_set (List.take_append_drop 1 _).symm id
      · simp only [if_neg hactive]
        exact inserted_pushFront q target id

/-- A change of level takes a task out of one queue and puts it into another. -/
theorem inserted_changeLevel {task : Task} {target : Level} (haccounted : d.Accounted)
    (hlive : d.tasks[id]? = some task) (hrunning : task.running = true)
    (hother : target ≠ task.level) :
    Inserted (d.queues.erase task.level id) (d.changeLevel id task target).queues id := by
  unfold Dispatcher.changeLevel
  rw [if_neg hother]
  by_cases hexecuting : d.executing? = some id
  · rw [if_pos hexecuting]
    have hlevel := haccounted.level_executing hlive hrunning hexecuting
    show Inserted _ ((d.queues.dropHead d.active).pushFront target id) id
    rw [RunQueues.dropHead_eq_erase hexecuting, ← hlevel]
    exact inserted_pushFront _ target id
  · rw [if_neg hexecuting]
    exact inserted_enqueue d _ target id

theorem tasks_changeLevel {task : Task} {target : Level} (hother : target ≠ task.level) :
    (d.changeLevel id task target).tasks = (d.store id { task with level := target }).tasks := by
  unfold Dispatcher.changeLevel
  rw [if_neg hother]
  split <;> rfl

theorem orderKept_changeLevel {task : Task} {target : Level} (haccounted : d.Accounted)
    (hlive : d.tasks[id]? = some task) (hrunning : task.running = true) (level : Level) :
    d.OrderKept (d.changeLevel id task target) [id] level := by
  have haccounted' := haccounted.changeLevel hlive hrunning target
  by_cases hother : target = task.level
  · have hsame : d.changeLevel id task target = d := if_pos hother
    rw [hsame]
    exact (Received.of_queues rfl).orderKept haccounted haccounted
  obtain ⟨hinserted, hmembers⟩ := inserted_changeLevel haccounted hlive hrunning hother level
  have herased := sublist_erase d.queues level task.level id
  have hplace : d.place? id = some task.level := place?_of_running hlive hrunning
  have hplace' : (d.changeLevel id task target).place? id = some target := by
    rw [place?, tasks_changeLevel hother, ← place?, place?_store_self]
    exact if_pos hrunning
  refine .of_joined haccounted haccounted' ?_ ?_
  · refine filter_mem_comm (haccounted.nodup_queue level) (haccounted'.nodup_queue level) herased
      hinserted fun x hx hx' => (hmembers x hx').resolve_left ?_
    rintro rfl
    -- The task is in one queue before, and in another one afterwards.
    have hbefore := Option.some.inj ((haccounted.mem_iff.mp hx).symm.trans hplace)
    have hafter := Option.some.inj ((haccounted'.mem_iff.mp hx').symm.trans hplace')
    exact hother (hafter.symm.trans hbefore)
  · have hwaits : id ∈ d.queues.toList :=
      RunQueues.mem_toList.mpr ⟨task.level, haccounted.mem_iff.mpr hplace⟩
    have hnobody : d.newcomers (d.changeLevel id task target) [id] level = [] := by
      simp [newcomers, hwaits]
    rw [hnobody]
    refine ⟨_, (List.append_nil _).symm, fun x hx => ?_⟩
    rcases hmembers x hx with rfl | hold
    · exact hwaits
    · exact RunQueues.mem_toList.mpr ⟨level, herased.subset hold⟩

/-! ## Operations on the dispatcher -/

theorem queues_create (d : Dispatcher) : d.create.state.queues = d.queues := by
  by_cases hfits : d.newest + 1 < Word.size
  · rw [create_done hfits]
    rfl
  · rw [create_full hfits]
    rfl

theorem queues_prepareWith (d : Dispatcher) (id : TaskId) (start : Task.Start) (stackBytes : Nat) :
    (d.prepareWith id start stackBytes).state.queues = d.queues := by
  have h := prepared d id start stackBytes
  generalize d.prepareWith id start stackBytes = outcome at h ⊢
  cases h with
  | gone | running | homeless | broken | done => rfl

theorem queues_receive (d : Dispatcher) (id : TaskId) :
    (d.receive id).state.queues = d.queues := by
  unfold receive
  cases d.tasks[id]? with
  | none => rfl
  | some task => rfl

theorem Suspended.received {outcome : Result (Option Switch)} (h : d.Suspended id outcome)
    (level : Level) : d.Received outcome.state called level := by
  cases h with
  | gone | asleep => exact .of_queues rfl
  | dropped => exact .of_sublist (sublist_erase d.queues level _ id)
  | @turned task _ _ _ hx | @stranded task _ _ hx =>
      exact .of_sublist (sublist_doze (d := d.release) hx task level)

theorem Inquired.received {waiter target : TaskId} {outcome : Result Awaited}
    (h : d.Inquired waiter target outcome) (level : Level) :
    d.Received outcome.state called level := by
  cases h with
  | told | refused => exact .of_queues rfl
  | blocked _ _ _ hsuspended => exact hsuspended.received level

theorem Served.received {outcome : Result Receipt} (h : d.Served outcome) (level : Level) :
    d.Received outcome.state called level := by
  cases h with
  | stranded | message | gone => exact .of_queues rfl
  | slept _ _ _ hsuspended => exact hsuspended.received level

end Dispatcher

namespace Scheduler

open Dispatcher

variable {s : Scheduler} {operation : Operation} {level : Level}

/-- The tasks that an operation calls, in order: those noted as waiting for a task that ends, in the
order of asking, and those whose timers expire in a tick, in the order of expiring. -/
def called (s : Scheduler) : Operation → List TaskId
  | .wake id _ | .send id _ => [id]
  | .launch _ _ _ => [s.tasks.newest + 1]
  | .exit _ => s.tasks.executing?.elim [] s.tasks.awaiting
  | .tick => (s.timers.elapsing.filter (!·.periodic)).map (·.target)
  | _ => []

theorem orderKept_wake (haccounted : s.tasks.Accounted) (id : TaskId) (requested : Option Nat)
    (haccounted' : (s.tasks.wake id requested).state.Accounted) (level : Level) :
    s.tasks.OrderKept (s.tasks.wake id requested).state [id] level := by
  have h := woken s.tasks id requested
  generalize s.tasks.wake id requested = outcome at h haccounted' ⊢
  cases h with
  | refused => exact (Received.of_queues rfl).orderKept haccounted haccounted'
  | roused _ hlive hasleep =>
      exact (received_makeRunnable rfl (haccounted.not_mem_of_sleeping hlive hasleep)).orderKept
        haccounted haccounted'
  | moved _ hlive hrunning => exact orderKept_changeLevel haccounted hlive hrunning level

theorem received_launch (haccounted : s.tasks.Accounted) (entry data : UInt64)
    (requested : Option Nat) (level : Level) :
    s.tasks.Received (s.tasks.launch entry data requested).state [s.tasks.newest + 1] level := by
  have h := launched s.tasks entry data requested
  generalize s.tasks.launch entry data requested = outcome at h ⊢
  cases h with
  | denied | full | discarded | broken => exact .of_queues rfl
  | done =>
      -- The new number belonged to nobody.
      refine received_makeRunnable rfl fun hmem => ?_
      obtain ⟨level, hqueued⟩ := RunQueues.mem_toList.mp hmem
      have hplace := haccounted.mem_iff.mp hqueued
      rw [place?_of_not_mem haccounted.fresh] at hplace
      exact absurd hplace (by simp)

theorem received_exit (haccounted : s.tasks.Accounted) (code : Int32) (level : Level) :
    s.tasks.Received (s.tasks.exit code).state (s.called (.exit code)) level := by
  cases hx : s.tasks.executing? with
  | none =>
      rw [exit_of_none hx]
      exact .of_queues rfl
  | some id =>
      have hcalled : s.called (.exit code) = s.tasks.awaiting id := by
        show s.tasks.executing?.elim [] s.tasks.awaiting = _
        rw [hx, Option.elim_some]
      rw [state_exit hx, hcalled]
      exact .of_roused haccounted (roused_wakeAll _ _) (sublist_rotate hx level) fun x task =>
        (sleeps_conclude haccounted hx code).mp

theorem received_perform (haccounted : s.tasks.Accounted) (level : Level)
    (hturn : ∀ saved, operation ≠ .preempt saved) (hwake : ∀ id requested,
      operation ≠ .wake id requested) :
    s.tasks.Received (s.perform operation).state.tasks (s.called operation) level := by
  cases operation with
  | preempt saved => exact absurd rfl (hturn saved)
  | wake id requested => exact absurd rfl (hwake id requested)
  | create => exact .of_queues (queues_create s.tasks)
  | prepare | prepareWith => exact .of_queues (queues_prepareWith s.tasks _ _ _)
  | editContext id edits =>
      unfold perform
      cases htask : s.tasks.find? id with
      | none => simp only [htask]; exact .of_queues rfl
      | some task => simp only [htask]; exact .of_queues rfl
  | receive id => exact .of_queues (queues_receive s.tasks id)
  | launch entry data requested => exact received_launch haccounted entry data requested level
  | suspend id => exact (suspended s.tasks id).received level
  | awaitExit waiter target => exact (inquired s.tasks waiter target).received level
  | receiveOrSuspend => exact (served s.tasks).received level
  | send id message =>
      exact .of_roused haccounted (roused_send _ id message) (.refl _) fun _ _ h => h
  | exit code => exact received_exit haccounted code level
  | startSchedule | armAt | armAfter =>
      simp only [perform, Outcome.state_map, tasks_onTimers]
      exact .of_queues rfl
  | restock => exact .of_queues rfl
  | tick =>
      have hroused := roused_remindAll s.tasks s.timers.elapsing
      rw [← (tasks_tick s).1] at hroused
      exact .of_roused haccounted hroused (.refl _) fun _ _ h => h

/-- **Bystanders are never reordered.** Whatever an operation does to the queues, unless it is the
end of a turn. -/
theorem orderKept_perform (hs : s.Reachable) (operation : Operation)
    (hturn : ∀ saved, operation ≠ .preempt saved) (level : Level) :
    s.tasks.OrderKept (s.perform operation).state.tasks (s.called operation) level := by
  have haccounted := hs.accounted
  have haccounted' := haccounted.run [operation]
  by_cases hwake : ∃ id requested, operation = .wake id requested
  · obtain ⟨id, requested, rfl⟩ := hwake
    exact orderKept_wake haccounted id requested haccounted' level
  · refine (received_perform haccounted level hturn ?_).orderKept haccounted haccounted'
    exact fun id requested h => hwake ⟨id, requested, h⟩

/-- Both other tasks have asked how the first one ends, the later of them first. -/
theorem orderKept_exit_two_waiters :
    let s := (start {} Platform.simulated (Arena.simulated 0)).run
      [.create, .create, .create, .wake 4 (some 1), .awaitExit 3 1, .awaitExit 2 1]
    s.tasks.OrderKept (s.perform (.exit 0)).state.tasks (s.called (.exit 0)) 1 :=
  orderKept_perform ⟨_, _, _, _, rfl⟩ (.exit 0) (by simp) 1

/-- They are woken in the order in which they asked. -/
example : (((start {} Platform.simulated (Arena.simulated 0)).run
    [.create, .create, .create, .wake 4 (some 1), .awaitExit 3 1, .awaitExit 2 1]).perform
      (.exit 0)).state.tasks.queues.get 1 = [4, 3, 2] := by decide

end Scheduler

end TaskKernel
