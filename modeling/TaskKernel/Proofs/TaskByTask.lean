import TaskKernel.Proofs.Lifetimes

/-!
# The operations, task by task

What an operation of the dispatcher does to one given task, whichever it is. `getElem?_…` says so as
an equation between the records of the task before and after:

* sleep — `getElem?_suspend`, `getElem?_awaitExit`;
* messages — `getElem?_send`, `getElem?_receive`, `getElem?_receiveOrSuspend`;
* the end of a turn and of a task — `getElem?_preempt`, `getElem?_exit`.

Plain changes reach a task's stack, context and level, but they leave it its mailbox and do not put
it to sleep (`Plainly.keeps`), and a task that comes to live by them has no message
(`Plainly.born`).
-/

namespace TaskKernel

open Relation

namespace Task

/-- The task is told something, and runs if there was anything to tell. -/
def hear (task : Task) (messages : List Message) : Task :=
  { task with
    mailbox := ⟨task.mailbox.messages ++ messages⟩
    running := task.running || !messages.isEmpty }

@[simp] theorem hear_nil (task : Task) : task.hear [] = task := by
  simp [hear]

theorem hear_append (task : Task) (first second : List Message) :
    task.hear (first ++ second) = (task.hear first).hear second := by
  cases first with
  | nil => simp [hear]
  | cons message rest => simp [hear]

/-- The task takes its oldest message, or falls asleep if there is none. -/
def takeOrSleep (task : Task) : Task :=
  { task with mailbox := task.mailbox.pop.2, running := task.running && !task.mailbox.isEmpty }

end Task

namespace Dispatcher

variable {d d' : Dispatcher} {id x : TaskId} {task task' : Task}

/-! ## One change to one task -/

/-- A live task is stored again under its number. -/
theorem getElem?_store_of_live (hlive : d.tasks[id]? = some task) (f : Task → Task) (x : TaskId) :
    (d.store id (f task)).tasks[x]? = if id = x then d.tasks[x]?.map f else d.tasks[x]? := by
  rw [getElem?_store]
  by_cases hx : id = x
  · rw [if_pos hx, if_pos hx, ← hx, hlive, Option.map_some]
  · rw [if_neg hx, if_neg hx]

/-- There is nothing to change about a task that is gone. -/
theorem getElem?_of_gone (hgone : d.tasks[id]? = none) (f : Task → Task) (x : TaskId) :
    d.tasks[x]? = if id = x then d.tasks[x]?.map f else d.tasks[x]? := by
  by_cases hx : id = x
  · rw [if_pos hx, ← hx, hgone, Option.map_none]
  · rw [if_neg hx]

theorem getElem?_modifyTask (d : Dispatcher) (id : TaskId) (f : Task → Task) (x : TaskId) :
    (d.modifyTask id f).tasks[x]? = if id = x then d.tasks[x]?.map f else d.tasks[x]? := by
  unfold modifyTask
  cases hlive : d.tasks[id]? with
  | none => exact getElem?_of_gone hlive f x
  | some task => exact getElem?_store_of_live hlive f x

theorem mem_of_map {f : Task → Task} (h : d'.tasks[x]? = d.tasks[x]?.map f) (hx : x ∈ d.tasks) :
    x ∈ d'.tasks := by
  obtain ⟨task, htask⟩ := mem_tasks_iff.mp hx
  rw [htask] at h
  exact mem_tasks_iff.mpr ⟨f task, h⟩

theorem mem_of_ite {p : Prop} [Decidable p] {f : Task → Task}
    (h : d'.tasks[x]? = if p then d.tasks[x]?.map f else d.tasks[x]?) (hx : x ∈ d.tasks) :
    x ∈ d'.tasks := by
  by_cases hp : p
  · rw [if_pos hp] at h
    exact mem_of_map h hx
  · rw [if_neg hp] at h
    obtain ⟨task, htask⟩ := mem_tasks_iff.mp hx
    exact mem_tasks_iff.mpr ⟨task, h.trans htask⟩

/-! ## Plain changes -/

/-- The task is live, has the mailbox it had, and does not sleep if it did not. -/
def Keeps (d : Dispatcher) (x : TaskId) (task : Task) : Prop :=
  ∃ kept, d.tasks[x]? = some kept ∧ kept.mailbox = task.mailbox ∧
    (task.running = true → kept.running = true)

theorem keeps_of_getElem? (h : d.tasks[x]? = some task) : d.Keeps x task :=
  ⟨task, h, rfl, fun hrunning => hrunning⟩

theorem Keeps.of_kept {kept : Task}
    (hsame : kept.mailbox = task.mailbox ∧ (task.running = true → kept.running = true))
    (h : d'.Keeps x kept) : d'.Keeps x task := by
  obtain ⟨later, hlater, hmailbox, hrunning⟩ := h
  exact ⟨later, hlater, hmailbox.trans hsame.1, fun h => hrunning (hsame.2 h)⟩

/-- A live task is stored again with its mailbox, and not put to sleep. -/
theorem keeps_store {stored : Task} (hlive : d.tasks[id]? = some stored) (task' : Task)
    (hmailbox : task'.mailbox = stored.mailbox)
    (hrunning : stored.running = true → task'.running = true) (hx : d.tasks[x]? = some task) :
    (d.store id task').Keeps x task := by
  unfold Keeps
  rw [getElem?_store]
  by_cases hself : id = x
  · subst hself
    have hsame : stored = task := Option.some.inj (hlive.symm.trans hx)
    rw [if_pos rfl]
    exact ⟨task', rfl, hsame ▸ hmailbox, hsame ▸ hrunning⟩
  · rw [if_neg hself]
    exact keeps_of_getElem? hx

theorem keeps_wakeAt {level : Option Level} (hwoken : d.wakeAt id level = .ok d')
    (hx : d.tasks[x]? = some task) : d'.Keeps x task := by
  unfold wakeAt at hwoken
  cases hlive : d.tasks[id]? with
  | none => simp [hlive] at hwoken
  | some woken =>
      simp only [hlive, Except.ok.injEq] at hwoken
      subst hwoken
      by_cases hrunning : woken.running = true
      · rw [if_pos hrunning]
        unfold changeLevel
        split
        · exact keeps_of_getElem? hx
        · split
          · exact keeps_store hlive { woken with level := _ } rfl (fun h => h) hx
          · exact keeps_store hlive { woken with level := _ } rfl (fun h => h) hx
      · rw [if_neg hrunning]
        exact keeps_store hlive { woken with level := _, running := true } rfl (fun _ => rfl) hx

/-- A number that is still to be given out is nobody's. -/
theorem Accounted.ne_fresh (h : d.Accounted) (hx : d.tasks[x]? = some task) :
    d.newest + 1 ≠ x := by
  rintro rfl
  exact h.fresh (mem_tasks_iff.mpr ⟨task, hx⟩)

theorem Plain.keeps (h : d.Plain d') (haccounted : d.Accounted) (hx : d.tasks[x]? = some task) :
    d'.Keeps x task := by
  have hnew : d.newest + 1 ≠ x := haccounted.ne_fresh hx
  cases h with
  | release => exact keeps_of_getElem? hx
  | enlist => exact keeps_of_getElem? (by rw [getElem?_store, if_neg hnew]; exact hx)
  | discard =>
      refine keeps_of_getElem? ?_
      simp only [Std.ExtTreeMap.getElem?_erase, Nat.compare_eq_eq, if_neg hnew]
      exact hx
  | prepare hlive hprepared =>
      obtain ⟨_, _, rfl⟩ := Task.exists_of_prepare hprepared
      exact keeps_store hlive _ rfl (fun h => h) hx
  | @reset id stored context hlive =>
      exact keeps_store hlive { stored with context } rfl (fun h => h) hx
  | wake hwoken => exact keeps_wakeAt hwoken hx
  | restock => exact keeps_of_getElem? hx

/-- Who comes to live by a plain change has an empty mailbox. -/
theorem Plain.born (h : d.Plain d') (hx : x ∉ d.tasks) (hborn : d'.tasks[x]? = some task) :
    task.mailbox = Mailbox.empty := by
  have hlive : x ∈ d'.tasks := mem_tasks_iff.mpr ⟨task, hborn⟩
  cases h with
  | release => exact absurd hlive hx
  | enlist =>
      rw [getElem?_store] at hborn
      by_cases hnew : d.newest + 1 = x
      · rw [if_pos hnew] at hborn
        exact Option.some.inj hborn ▸ rfl
      · rw [if_neg hnew] at hborn
        exact absurd (mem_tasks_iff.mpr ⟨task, hborn⟩) hx
  | discard => exact absurd (Std.ExtTreeMap.mem_of_mem_erase hlive) hx
  | prepare hstored _ | reset _ hstored =>
      exact absurd ((mem_store_of_live hstored).mp hlive) hx
  | wake hwoken => exact absurd ((requeue_wakeAt hwoken).mem_iff.mp hlive) hx
  | restock => exact absurd hlive hx

theorem Plainly.keeps (h : d.Plainly d') (haccounted : d.Accounted)
    (hx : d.tasks[x]? = some task) : d'.Keeps x task := by
  have hkept := h.invariant (P := fun d' => d'.Accounted ∧ d'.Keeps x task)
    (fun ⟨haccounted, kept, hkept, hsame⟩ hstep =>
      ⟨haccounted.books hstep.books, (hstep.keeps haccounted hkept).of_kept hsame⟩)
    ⟨haccounted, keeps_of_getElem? hx⟩
  exact hkept.2

theorem Plainly.mem (h : d.Plainly d') (haccounted : d.Accounted) (hx : x ∈ d.tasks) :
    x ∈ d'.tasks := by
  obtain ⟨task, htask⟩ := mem_tasks_iff.mp hx
  obtain ⟨kept, hkept, _⟩ := h.keeps haccounted htask
  exact mem_tasks_iff.mpr ⟨kept, hkept⟩

theorem Plainly.born (h : d.Plainly d') (haccounted : d.Accounted) (hx : x ∉ d.tasks)
    (hborn : d'.tasks[x]? = some task) : task.mailbox = Mailbox.empty := by
  have hempty := h.invariant
    (P := fun d' => d'.Accounted ∧ ∀ task, d'.tasks[x]? = some task → task.mailbox = .empty)
    (fun {d d'} ⟨haccounted, hempty⟩ hstep => by
      refine ⟨haccounted.books hstep.books, fun later hlater => ?_⟩
      cases hlive : d.tasks[x]? with
      | none =>
          exact hstep.born (fun hmem => by simp [mem_tasks_iff, hlive] at hmem) hlater
      | some task =>
          obtain ⟨kept, hkept, hmailbox, _⟩ := hstep.keeps haccounted hlive
          have hsame : kept = later := Option.some.inj (hkept.symm.trans hlater)
          rw [← hsame, hmailbox]
          exact hempty task hlive)
    ⟨haccounted, fun task hlive => absurd (mem_tasks_iff.mpr ⟨task, hlive⟩) hx⟩
  exact hempty.2 task hborn

/-! ## Sleep -/

/-- A task that is asked to sleep does, if it is live; nobody else is concerned. -/
theorem Suspended.getElem? {outcome : Result (Option Switch)} (h : d.Suspended id outcome)
    (x : TaskId) :
    outcome.state.tasks[x]? =
      if id = x then d.tasks[x]?.map ({ · with running := false }) else d.tasks[x]? := by
  cases h with
  | gone hgone => exact getElem?_of_gone hgone _ x
  | @asleep task hlive hsleeps =>
      have hsame : { task with running := false } = task := by rw [← hsleeps]
      show d.tasks[x]? = _
      by_cases hx : id = x
      · rw [if_pos hx, ← hx, hlive, Option.map_some, hsame]
      · rw [if_neg hx]
  | dropped hlive => exact getElem?_store_of_live hlive ({ · with running := false }) x
  | turned hlive | stranded hlive =>
      show (d.release.doze id _).tasks[x]? = _
      rw [doze, tasks_rotate]
      exact getElem?_store_of_live hlive ({ · with running := false }) x

theorem getElem?_suspend (d : Dispatcher) (id x : TaskId) :
    (d.suspend id).state.tasks[x]? =
      if id = x then d.tasks[x]?.map ({ · with running := false }) else d.tasks[x]? :=
  (suspended d id).getElem? x

/-- Who asks how a task ended falls asleep over the question. -/
def Blocks (d : Dispatcher) (waiter target : TaskId) : Prop :=
  d.exitCodes[target]? = none ∧ target ∈ d.tasks ∧ waiter ∈ d.tasks

instance (d : Dispatcher) (waiter target : TaskId) : Decidable (d.Blocks waiter target) := by
  unfold Blocks
  infer_instance

theorem getElem?_awaitExit (d : Dispatcher) (waiter target x : TaskId) :
    (d.awaitExit waiter target).state.tasks[x]? =
      if d.Blocks waiter target ∧ waiter = x then d.tasks[x]?.map ({ · with running := false })
      else d.tasks[x]? := by
  have h := inquired d waiter target
  generalize d.awaitExit waiter target = outcome at h ⊢
  cases h with
  | told hcode =>
      rw [if_neg (by simp [Blocks, hcode])]
      rfl
  | refused _ hgone =>
      rw [if_neg fun hblocks => hgone hblocks.1.2]
      rfl
  | blocked hcode htarget hwaiter hsuspended =>
      have hblocks : d.Blocks waiter target := ⟨hcode, htarget, hwaiter⟩
      rw [Outcome.state_map, hsuspended.getElem?]
      simp only [hblocks, true_and]
      rfl

/-! ## Messages -/

theorem state_wake_none (d : Dispatcher) (id : TaskId) : (d.wake id none).state = d.rouse id := by
  unfold wake rouse
  simp only [Config.grantLevel?]
  cases d.wakeAt id none with
  | error cause => rfl
  | ok woken => rfl

/-- Who is sent a message has it and runs, if it is live; nobody else is concerned. -/
theorem getElem?_send (d : Dispatcher) (id : TaskId) (message : Message) (x : TaskId) :
    (d.send id message).state.tasks[x]? =
      if id = x then d.tasks[x]?.map (·.hear [message]) else d.tasks[x]? := by
  unfold send
  cases hlive : d.tasks[id]? with
  | none => exact getElem?_of_gone hlive _ x
  | some task =>
      simp only
      rw [state_wake_none, getElem?_rouse, getElem?_store]
      by_cases hx : id = x
      · subst hx
        simp [hlive, Task.hear, Mailbox.push]
      · simp only [if_neg hx]

theorem getElem?_receive (d : Dispatcher) (id x : TaskId) :
    (d.receive id).state.tasks[x]? =
      if id = x then d.tasks[x]?.map fun task => { task with mailbox := task.mailbox.pop.2 }
      else d.tasks[x]? := by
  unfold receive
  cases hlive : d.tasks[id]? with
  | none => exact getElem?_of_gone hlive _ x
  | some task =>
      exact getElem?_store_of_live hlive
        (fun task => { task with mailbox := task.mailbox.pop.2 }) x

/-- The executing task takes a message or sleeps; nobody else is concerned. -/
theorem getElem?_receiveOrSuspend (d : Dispatcher) (x : TaskId) :
    d.receiveOrSuspend.state.tasks[x]? =
      if d.executing? = some x then d.tasks[x]?.map Task.takeOrSleep else d.tasks[x]? := by
  have h := served d
  generalize d.receiveOrSuspend = outcome at h ⊢
  cases h with
  | stranded hnone =>
      rw [hnone, if_neg (by simp)]
      rfl
  | @message id task message hexecuting hlive hmessage =>
      have hstays : { task with mailbox := task.mailbox.pop.2 } = task.takeOrSleep := by
        cases hmessages : task.mailbox.messages with
        | nil => simp [Mailbox.pop, hmessages] at hmessage
        | cons => simp [Task.takeOrSleep, Mailbox.isEmpty, hmessages]
      rw [Outcome.state_done, hstays, hexecuting]
      simp only [Option.some.injEq]
      exact getElem?_store_of_live hlive Task.takeOrSleep x
  | gone hexecuting hgone =>
      rw [hexecuting]
      simp only [Option.some.injEq]
      exact getElem?_of_gone hgone Task.takeOrSleep x
  | @slept id task outcome hexecuting hlive hmessage hsuspended =>
      have hnone : task.mailbox.messages = [] := List.head?_eq_none_iff.mp hmessage
      have hsleeps : { task with mailbox := task.mailbox.pop.2, running := false } =
          task.takeOrSleep := by
        simp [Task.takeOrSleep, Mailbox.isEmpty, hnone]
      rw [Outcome.state_map, hsuspended.getElem?, getElem?_store, hexecuting]
      simp only [Option.some.injEq]
      by_cases hx : id = x
      · rw [if_pos hx, if_pos hx, if_pos hx, ← hx, hlive, Option.map_some, Option.map_some, hsleeps]
      · rw [if_neg hx, if_neg hx, if_neg hx]

/-! ## The end of a turn and of a task -/

theorem getElem?_preempt (d : Dispatcher) (saved : Context) (x : TaskId) :
    (d.preempt saved).2.tasks[x]? =
      if d.executing? = some x then d.tasks[x]?.map ({ · with context := saved })
      else d.tasks[x]? := by
  cases hexecuting : d.executing? with
  | none =>
      rw [preempt_of_none hexecuting, if_neg (by simp)]
  | some id =>
      rw [preempt_of_executing hexecuting]
      show ((d.modifyTask id _).rotate true).tasks[x]? = _
      rw [tasks_rotate, getElem?_modifyTask]
      simp only [Option.some.injEq]

/-- The task that ends is gone, and those that waited for it run. -/
theorem getElem?_exit (hexecuting : d.executing? = some id) (code : Int32) (x : TaskId) :
    (d.exit code).state.tasks[x]? =
      if id = x then none
      else if x ∈ d.awaiting id then d.tasks[x]?.map ({ · with running := true })
      else d.tasks[x]? := by
  rw [state_exit hexecuting, getElem?_wakeAll, getElem?_conclude]
  by_cases hx : id = x
  · rw [if_pos hx, if_pos hx, Option.map_none, ite_self]
  · rw [if_neg hx, if_neg hx]

end Dispatcher

end TaskKernel
