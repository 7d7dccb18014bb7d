import TaskKernel.Proofs.Mail
import TaskKernel.Proofs.Numbering

/-!
# Finished tasks are released late

The stack on which a task ends is in use until the processor has left it. So a finished task is kept
with its context, and all of them are released together by the next operation that only a running
task can ask for:

* `Operation.Releases` — which operations those are; neither the end of a turn nor a tick nor a
  message is one of them, for these come from interrupts;
* `retired_perform` — what an operation makes of the finished tasks, and `retired_run`, what a
  history makes of them that releases nobody;
* `Distinct` — no two finished tasks have one number, so the number of a finished task leads to its
  context (`context?_of_retired`);
* `Forgotten` — once it is released, its number leads to no context any more (`forgotten_run`).

Together: `lateRelease_run`.
-/

namespace TaskKernel

namespace Dispatcher

open Scheduler (Operation)

variable {d : Dispatcher} {id : TaskId}

/-! ## The operations of the dispatcher -/

theorem retired_rotate (d : Dispatcher) (stay : Bool) : (d.rotate stay).retired = d.retired :=
  (sameRoll_rotate d stay).retired

theorem retired_create (d : Dispatcher) : d.create.state.retired = [] := by
  by_cases hfits : d.newest + 1 < Word.size
  · rw [create_done hfits]
    rfl
  · rw [create_full hfits]
    rfl

theorem retired_prepareWith (d : Dispatcher) (id : TaskId) (start : Task.Start)
    (stackBytes : Nat) : (d.prepareWith id start stackBytes).state.retired = d.retired := by
  have h := prepared d id start stackBytes
  generalize d.prepareWith id start stackBytes = outcome at h ⊢
  cases h with
  | gone | running | homeless | broken | done => rfl

/-- A new task releases the finished ones as soon as its level is granted. -/
theorem retired_launch (d : Dispatcher) (entry data : UInt64) (level : Option Nat) :
    (d.launch entry data level).state.retired =
      if (d.config.grantLevel? level).isOk then [] else d.retired := by
  have h := launched d entry data level
  generalize d.launch entry data level = outcome at h ⊢
  cases h with
  | denied hdenied =>
      rw [hdenied]
      rfl
  | full hgranted | discarded hgranted | broken hgranted | done hgranted =>
      rw [hgranted]
      rfl

theorem retired_wake (d : Dispatcher) (id : TaskId) (level : Option Nat) :
    (d.wake id level).state.retired = d.retired := by
  have h := woken d id level
  generalize d.wake id level = outcome at h ⊢
  cases h with
  | refused | roused => rfl
  | moved _ hlive hrunning => exact (Requeue.move _ hlive hrunning).sameRoll.retired

theorem retired_send (d : Dispatcher) (id : TaskId) (message : Message) :
    (d.send id message).state.retired = d.retired := by
  unfold send
  cases d.tasks[id]? with
  | none => rfl
  | some task => exact retired_wake _ id none

theorem retired_receive (d : Dispatcher) (id : TaskId) :
    (d.receive id).state.retired = d.retired := by
  unfold receive
  cases d.tasks[id]? with
  | none => rfl
  | some task => rfl

/-- The request to sleep releases the finished tasks, whatever comes of it. -/
theorem Suspended.retired_eq {outcome : Result (Option Switch)} (h : d.Suspended id outcome) :
    outcome.state.retired = [] := by
  cases h with
  | gone | asleep | dropped => rfl
  | turned | stranded => exact retired_rotate _ false

theorem Inquired.retired_eq {waiter target : TaskId} {outcome : Result Awaited}
    (h : d.Inquired waiter target outcome) :
    outcome.state.retired = if d.Blocks waiter target then [] else d.retired := by
  cases h with
  | told hcode =>
      rw [if_neg (by simp [Blocks, hcode])]
      rfl
  | refused _ hgone =>
      rw [if_neg fun hblocks => hgone hblocks.2]
      rfl
  | blocked hcode htarget hwaiter hsuspended =>
      rw [if_pos ⟨hcode, htarget, hwaiter⟩]
      exact hsuspended.retired_eq

/-- The request for a message releases the finished tasks if the executing task falls asleep. -/
theorem Served.retired_eq (haccounted : d.Accounted) {outcome : Result Receipt}
    (h : d.Served outcome) :
    outcome.state.retired = if Operation.receiveOrSuspend.Withdraws d then [] else d.retired := by
  cases h with
  | stranded hnone =>
      rw [if_neg]
      · rfl
      · intro hsleeps
        obtain ⟨id, task, hx, -⟩ := Operation.withdraws_receiveOrSuspend_iff.mp hsleeps
        exact absurd (hnone.symm.trans hx) (by simp)
  | @message id task message hx hlive hmessage =>
      rw [if_neg]
      · rfl
      · intro hsleeps
        obtain ⟨other, found, hx', hlive', hempty⟩ :=
          Operation.withdraws_receiveOrSuspend_iff.mp hsleeps
        cases Option.some.inj (hx.symm.trans hx')
        cases Option.some.inj (hlive.symm.trans hlive')
        rw [Mailbox.isEmpty, List.isEmpty_iff] at hempty
        simp [Mailbox.pop, hempty] at hmessage
  | gone hx hgone =>
      obtain ⟨task, hlive, _⟩ := haccounted.executing_live hx
      exact absurd (hgone.symm.trans hlive) (by simp)
  | @slept id task outcome hx hlive hmessage hsuspended =>
      have hnone : task.mailbox.messages = [] := List.head?_eq_none_iff.mp hmessage
      rw [if_pos (Operation.withdraws_receiveOrSuspend_iff.mpr
        ⟨id, task, hx, hlive, List.isEmpty_iff.mpr hnone⟩)]
      exact hsuspended.retired_eq

theorem retired_preempt (d : Dispatcher) (saved : Context) :
    (d.preempt saved).2.retired = d.retired := by
  cases hx : d.executing? with
  | none => rw [preempt_of_none hx]
  | some id =>
      rw [preempt_of_executing hx]
      show ((d.modifyTask id _).rotate true).retired = d.retired
      rw [retired_rotate]
      exact (sameRoll_modifyTask d id (f := ({ · with context := saved })) fun _ => rfl).retired

/-- The task that ends joins those that are yet to be released. -/
theorem retired_exit (hx : d.executing? = some id) (code : Int32) :
    (d.exit code).state.retired =
      d.retired ++ (d.tasks[id]?.map ({ · with running := false })).toList := by
  rw [state_exit hx]
  obtain ⟨_, _, _, hwoken⟩ := exists_wakeAll (d.conclude id code) (d.awaiting id)
  rw [hwoken]
  show (d.rotate false).retired ++ _ = _
  rw [retired_rotate, tasks_rotate]

/-! ## Their contexts -/

/-- No two finished tasks have one number. -/
def Distinct (d : Dispatcher) : Prop := (d.retired.map (·.id)).Nodup

theorem find?_retired (hdistinct : d.Distinct) {task : Task} (hmem : task ∈ d.retired) :
    d.retired.find? (·.id = task.id) = some task := by
  cases hfind : d.retired.find? (·.id = task.id) with
  | none =>
      have hnobody := List.find?_eq_none.mp hfind task hmem
      simp at hnobody
  | some other =>
      have hid : other.id = task.id := by simpa using List.find?_some hfind
      have hother := List.mem_of_find?_eq_some hfind
      rw [List.inj_on_of_nodup_map hdistinct hother hmem hid]

/-- **The context that is found under a number is that of the task with this number**, which is live
or has just finished. -/
theorem context?_eq_some_iff (hidentified : d.Identified) (hdistinct : d.Distinct)
    {context : Context} :
    d.context? id = some context ↔
      ∃ task, (d.find? id = some task ∨ task ∈ d.retired) ∧ task.id = id ∧
        task.context = context := by
  unfold context?
  constructor
  · cases hlive : d.tasks[id]? with
    | some task =>
        intro hcontext
        exact ⟨task, .inl hlive, hidentified.named id task hlive, Option.some.inj hcontext⟩
    | none =>
        intro hcontext
        obtain ⟨task, hfound, hsame⟩ := Option.map_eq_some_iff.mp hcontext
        have hid : task.id = id := by simpa using List.find?_some hfound
        exact ⟨task, .inr (List.mem_of_find?_eq_some hfound), hid, hsame⟩
  · rintro ⟨task, hlive | hmem, rfl, rfl⟩
    · have hfound : d.tasks[task.id]? = some task := hlive
      simp only [hfound]
    · have hgone : d.tasks[task.id]? = none :=
        Std.ExtTreeMap.getElem?_eq_none (hidentified.retired task hmem).2.2
      simp only [hgone, find?_retired hdistinct hmem, Option.map_some]

/-- A finished task that is yet to be released is found under its number, and counted once. -/
theorem context?_of_retired (hidentified : d.Identified) (hdistinct : d.Distinct) {task : Task}
    (hmem : task ∈ d.retired) :
    d.context? task.id = some task.context ∧ d.retired.countP (·.id = task.id) = 1 := by
  constructor
  · exact (context?_eq_some_iff hidentified hdistinct).mpr ⟨task, .inr hmem, rfl, rfl⟩
  · have hcount : (d.retired.map (·.id)).count task.id = 1 :=
      List.count_eq_one_of_mem hdistinct (List.mem_map_of_mem hmem)
    rw [List.count, List.countP_map] at hcount
    rw [← hcount]
    apply List.countP_congr
    intro other _
    simp

/-- The task is gone, and its stack and context are released. -/
structure Forgotten (d : Dispatcher) (id : TaskId) : Prop where
  past : d.Past id
  unretired : ∀ task ∈ d.retired, task.id ≠ id

theorem Forgotten.context? (h : d.Forgotten id) : d.context? id = none := by
  have hgone : d.tasks[id]? = none := Std.ExtTreeMap.getElem?_eq_none h.past.2
  have hunfound : d.retired.find? (·.id = id) = none := by
    apply List.find?_eq_none.mpr
    intro task hmem
    simpa using h.unretired task hmem
  simp only [Dispatcher.context?, hgone, hunfound, Option.map_none]

end Dispatcher

namespace Scheduler

open Dispatcher

variable {s : Scheduler} {operation : Operation} {history : List Operation}

/-! ## The operations of the scheduler -/

/-- The operation releases the finished tasks. -/
def Operation.Releases (d : Dispatcher) : Operation → Prop
  | .create => True
  | .launch _ _ level => (d.config.grantLevel? level).isOk = true
  | .suspend _ => True
  | .awaitExit waiter target => d.Blocks waiter target
  | .receiveOrSuspend => Operation.receiveOrSuspend.Withdraws d
  | _ => False

instance (d : Dispatcher) (operation : Operation) : Decidable (operation.Releases d) :=
  match operation with
  | .create | .suspend _ => .isTrue trivial
  | .launch _ _ level => inferInstanceAs (Decidable ((d.config.grantLevel? level).isOk = true))
  | .awaitExit waiter target => inferInstanceAs (Decidable (d.Blocks waiter target))
  | .receiveOrSuspend => inferInstanceAs (Decidable (Operation.receiveOrSuspend.Withdraws d))
  | .prepare _ _ | .prepareWith _ _ _ | .editContext _ _ | .wake _ _ | .preempt _ | .send _ _
  | .receive _ | .exit _ | .startSchedule | .armAt _ _ _ _ | .armAfter _ _ _ _ | .tick
  | .restock _ =>
    .isFalse not_false

/-- The task that the operation ends, as it is kept. -/
def ends (s : Scheduler) : Operation → List Task
  | .exit _ =>
    ((s.tasks.executing?.bind s.tasks.find?).map ({ · with running := false })).toList
  | _ => []

/-- The finished tasks after an operation: none of the earlier ones if it releases, and the task
that it ends. -/
def retiredAfter (s : Scheduler) (operation : Operation) : List Task :=
  (if operation.Releases s.tasks then [] else s.tasks.retired) ++ s.ends operation

theorem retiredAfter_of_kept (hkept : ¬ operation.Releases s.tasks) :
    s.retiredAfter operation = s.tasks.retired ++ s.ends operation := by
  rw [retiredAfter, if_neg hkept]

theorem retired_eq_after (hkept : ¬ operation.Releases s.tasks) (hends : s.ends operation = []) :
    s.tasks.retired = s.retiredAfter operation := by
  rw [retiredAfter_of_kept hkept, hends, List.append_nil]

/-- Only ends add to the finished tasks, and what releases ends nobody. -/
theorem nil_eq_after (hreleases : operation.Releases s.tasks) : [] = s.retiredAfter operation := by
  rw [retiredAfter, if_pos hreleases, List.nil_append]
  cases operation with
  | exit code => exact absurd hreleases id
  | create | prepare | prepareWith | editContext | launch | wake | suspend | preempt | send
  | receive | receiveOrSuspend | awaitExit | startSchedule | armAt | armAfter | tick | restock =>
      rfl

theorem ite_eq_after {p : Prop} [Decidable p] (hp : p ↔ operation.Releases s.tasks)
    (hends : s.ends operation = []) :
    (if p then [] else s.tasks.retired) = s.retiredAfter operation := by
  by_cases hreleases : p
  · rw [if_pos hreleases]
    exact nil_eq_after (hp.mp hreleases)
  · rw [if_neg hreleases]
    exact retired_eq_after (fun h => hreleases (hp.mpr h)) hends

/-- A task that ends joins the finished ones, and an operation that releases leaves none. -/
theorem retired_perform (haccounted : s.tasks.Accounted) (operation : Operation) :
    (s.perform operation).state.tasks.retired = s.retiredAfter operation := by
  cases operation with
  | create => exact (retired_create s.tasks).trans (nil_eq_after trivial)
  | suspend id => exact (suspended s.tasks id).retired_eq.trans (nil_eq_after trivial)
  | launch entry data level =>
      exact (retired_launch s.tasks entry data level).trans (ite_eq_after .rfl rfl)
  | awaitExit waiter target =>
      exact (inquired s.tasks waiter target).retired_eq.trans (ite_eq_after .rfl rfl)
  | receiveOrSuspend =>
      exact ((served s.tasks).retired_eq haccounted).trans (ite_eq_after .rfl rfl)
  | exit code =>
      have hkept : ¬ (Operation.exit code).Releases s.tasks := fun h => h
      rw [retiredAfter_of_kept hkept]
      show (s.tasks.exit code).state.retired = _
      cases hx : s.tasks.executing? with
      | none =>
          rw [exit_of_none hx, ends, hx]
          exact (List.append_nil _).symm
      | some ended =>
          rw [retired_exit hx, ends, hx]
          rfl
  | prepare id start =>
      exact (retired_prepareWith s.tasks id start _).trans (retired_eq_after (fun h => h) rfl)
  | prepareWith id start stackBytes =>
      exact (retired_prepareWith s.tasks id start stackBytes).trans
        (retired_eq_after (fun h => h) rfl)
  | editContext id edits =>
      refine Eq.trans ?_ (retired_eq_after (fun h => h) rfl)
      unfold perform
      cases hlive : s.tasks.find? id with
      | none => simp only [hlive, Outcome.state_stop]
      | some task =>
          simp only [hlive]
          rfl
  | wake id level => exact (retired_wake s.tasks id level).trans (retired_eq_after (fun h => h) rfl)
  | preempt saved => exact (retired_preempt s.tasks saved).trans (retired_eq_after (fun h => h) rfl)
  | send id message =>
      exact (retired_send s.tasks id message).trans (retired_eq_after (fun h => h) rfl)
  | receive id => exact (retired_receive s.tasks id).trans (retired_eq_after (fun h => h) rfl)
  | restock arena =>
      have hkept : ¬ (Operation.restock arena).Releases s.tasks := fun h => h
      exact retired_eq_after hkept rfl
  | startSchedule | armAt | armAfter =>
      refine Eq.trans ?_ (retired_eq_after (fun h => h) rfl)
      simp only [perform, Outcome.state_map, tasks_onTimers]
  | tick =>
      refine Eq.trans ?_ (retired_eq_after (fun h => h) rfl)
      exact tick_of_send (R := fun d d' => d'.retired = d.retired) (fun _ => rfl)
        (fun h h' => h'.trans h) retired_send s

/-- The task that ends is among the finished ones. -/
theorem ends_exit {id : TaskId} {task : Task} (hx : s.tasks.executing? = some id)
    (hlive : s.tasks.find? id = some task) (code : Int32) :
    s.ends (.exit code) = [{ task with running := false }] := by
  simp only [ends, hx, Option.bind_some, hlive, Option.map_some, Option.toList_some]

/-! ## Histories -/

/-- No operation of the history releases the finished tasks. -/
def KeepsFinished (s : Scheduler) (history : List Operation) : Prop :=
  s.Along (fun s operation => ¬ operation.Releases s.tasks) history

/-- As long as nobody releases them, the finished tasks stay and those that end join them. -/
theorem retired_run (haccounted : s.tasks.Accounted) (hkept : s.KeepsFinished history) :
    (s.run history).tasks.retired = s.tasks.retired ++ s.gather ends history := by
  induction history generalizing s with
  | nil => exact (List.append_nil _).symm
  | cons operation rest ih =>
      obtain ⟨hfirst, hrest⟩ := hkept
      have hnext : (s.perform operation).state.tasks.Accounted := haccounted.run [operation]
      rw [run_cons, ih hnext hrest, retired_perform haccounted, retiredAfter_of_kept hfirst,
        List.append_assoc]
      rfl

/-- The task that ends is live until then. -/
theorem live_of_ends (haccounted : s.tasks.Accounted) (hidentified : s.tasks.Identified)
    {task : Task} (hmem : task ∈ s.ends operation) : task.id ∈ s.tasks.tasks := by
  cases operation with
  | exit code =>
      cases hx : s.tasks.executing? with
      | none => simp [ends, hx] at hmem
      | some id =>
          obtain ⟨found, hlive, _⟩ := haccounted.executing_live hx
          rw [ends_exit hx hlive, List.mem_singleton] at hmem
          rw [hmem]
          show found.id ∈ s.tasks.tasks
          rw [hidentified.named id found hlive]
          exact mem_tasks_iff.mpr ⟨found, hlive⟩
  | create | prepare | prepareWith | editContext | launch | wake | suspend | preempt | send
  | receive | receiveOrSuspend | awaitExit | startSchedule | armAt | armAfter | tick | restock =>
      exact absurd hmem List.not_mem_nil

/-- No operation ends two tasks. -/
theorem nodup_ends (s : Scheduler) (operation : Operation) :
    ((s.ends operation).map (·.id)).Nodup := by
  cases operation with
  | exit code =>
      unfold ends
      cases s.tasks.executing?.bind s.tasks.find? with
      | none => exact List.nodup_nil
      | some task => exact List.nodup_singleton task.id
  | create | prepare | prepareWith | editContext | launch | wake | suspend | preempt | send
  | receive | receiveOrSuspend | awaitExit | startSchedule | armAt | armAfter | tick | restock =>
      exact List.nodup_nil

/-- None of the finished tasks has the number of the one that ends. -/
theorem distinct_perform (haccounted : s.tasks.Accounted) (hidentified : s.tasks.Identified)
    (hdistinct : s.tasks.Distinct) (operation : Operation) :
    (s.perform operation).state.tasks.Distinct := by
  unfold Distinct
  rw [retired_perform haccounted]
  by_cases hreleases : operation.Releases s.tasks
  · rw [← nil_eq_after hreleases]
    exact List.nodup_nil
  rw [retiredAfter_of_kept hreleases, List.map_append, List.nodup_append]
  refine ⟨hdistinct, nodup_ends s operation, ?_⟩
  rintro _ hold _ hnew rfl
  obtain ⟨finished, hfinished, hid⟩ := List.mem_map.mp hold
  obtain ⟨ended, hended, hid'⟩ := List.mem_map.mp hnew
  apply (hidentified.retired finished hfinished).2.2
  rw [hid, ← hid']
  exact live_of_ends haccounted hidentified hended

theorem distinct_run (config : Config) (platform : Platform) (arena : Arena)
    (history : List Operation) : ((start config platform arena).run history).tasks.Distinct := by
  induction history using List.reverseRecOn with
  | nil => exact List.nodup_nil
  | append_singleton history operation ih =>
      rw [run_concat]
      exact distinct_perform (accounted_run config platform arena history)
        (identified_run config platform arena history) ih operation

theorem Reachable.distinct (h : s.Reachable) : s.tasks.Distinct := by
  obtain ⟨config, platform, arena, history, rfl⟩ := h
  exact distinct_run config platform arena history

/-- A context that was released does not come back. -/
theorem forgotten_run {config : Config} {platform : Platform} {arena : Arena} {id : TaskId}
    (h : ((start config platform arena).run history).tasks.Forgotten id) (rest : List Operation) :
    ((start config platform arena).run (history ++ rest)).tasks.Forgotten id := by
  induction rest using List.reverseRecOn with
  | nil =>
      rw [List.append_nil]
      exact h
  | append_singleton rest operation ih =>
      have haccounted := accounted_run config platform arena (history ++ rest)
      have hidentified := identified_run config platform arena (history ++ rest)
      rw [← List.append_assoc, run_concat]
      refine ⟨ih.past.run [operation], ?_⟩
      intro task hmem
      rw [retired_perform haccounted, retiredAfter, List.mem_append] at hmem
      rcases hmem with hold | hended
      · split at hold
        · exact absurd hold List.not_mem_nil
        · exact ih.unretired task hold
      · rintro rfl
        exact ih.past.2 (live_of_ends haccounted hidentified hended)

/-- What happens to the finished tasks in the state after a history. -/
structure LateRelease (s : Scheduler) (history : List Operation) : Prop where
  /-- Each operation either leaves the finished tasks alone, apart from the one that it ends, or
  releases all of them. -/
  law : ∀ operation, ((s.run history).perform operation).state.tasks.retired =
    (s.run history).retiredAfter operation
  /-- The context that an ended task had last is kept under its number, and the task is counted
  once, until an operation releases it. -/
  kept : ∀ id code, (s.run history).tasks.executing? = some id →
    ∃ task, (s.run history).tasks.find? id = some task ∧
      ∀ later, (s.run (history ++ [.exit code])).KeepsFinished later →
        (s.run (history ++ .exit code :: later)).tasks.context? id = some task.context ∧
          (s.run (history ++ .exit code :: later)).tasks.retired.countP (·.id = id) = 1
  /-- The operation that releases it leaves no finished task, and no context under this number ever
  after. -/
  released : ∀ id code later operation, (s.run history).tasks.executing? = some id →
    operation.Releases (s.run (history ++ .exit code :: later)).tasks →
      ((s.run (history ++ .exit code :: later)).perform operation).state.tasks.retired = [] ∧
        ∀ rest, (s.run (history ++ .exit code :: later ++ operation :: rest)).tasks.context? id =
          none
  /-- No operation takes the context of a task that is live when it begins. -/
  spared : ∀ operation, ∀ id ∈ (s.run history).tasks.tasks,
    (((s.run history).perform operation).state.tasks.context? id).isSome = true

/-- The context of a task that ends is kept as long as nobody releases the finished tasks. -/
theorem context?_after_exit {config : Config} {platform : Platform} {arena : Arena} {id : TaskId}
    (hx : ((start config platform arena).run history).tasks.executing? = some id) {task : Task}
    (hlive : ((start config platform arena).run history).tasks.find? id = some task) (code : Int32)
    (later : List Operation)
    (hkept : ((start config platform arena).run (history ++ [.exit code])).KeepsFinished later) :
    ((start config platform arena).run (history ++ .exit code :: later)).tasks.context? id =
        some task.context ∧
      ((start config platform arena).run
        (history ++ .exit code :: later)).tasks.retired.countP (·.id = id) = 1 := by
  have haccounted := accounted_run config platform arena history
  have hid : task.id = id := (identified_run config platform arena history).named id task hlive
  have hjoined : { task with running := false } ∈
      ((start config platform arena).run (history ++ [.exit code])).tasks.retired := by
    rw [run_concat, retired_perform haccounted, retiredAfter, ends_exit hx hlive]
    exact List.mem_append_right _ List.mem_cons_self
  have hstays : { task with running := false } ∈
      ((start config platform arena).run (history ++ .exit code :: later)).tasks.retired := by
    rw [List.append_cons, run_append, retired_run (accounted_run config platform arena _) hkept]
    exact List.mem_append_left _ hjoined
  have hfound := context?_of_retired (identified_run config platform arena _)
    (distinct_run config platform arena _) hstays
  rw [← hid]
  exact hfound

/-- An operation that releases leaves no finished task, and what was kept is gone for ever. -/
theorem released_for_ever {config : Config} {platform : Platform} {arena : Arena} {id : TaskId}
    (hx : ((start config platform arena).run history).tasks.executing? = some id) (code : Int32)
    (later : List Operation) (hreleases : operation.Releases
      ((start config platform arena).run (history ++ .exit code :: later)).tasks) :
    (((start config platform arena).run
        (history ++ .exit code :: later)).perform operation).state.tasks.retired = [] ∧
      ∀ rest, ((start config platform arena).run
        (history ++ .exit code :: later ++ operation :: rest)).tasks.context? id = none := by
  have haccounted := accounted_run config platform arena (history ++ .exit code :: later)
  have hnone := (retired_perform haccounted operation).trans (nil_eq_after hreleases).symm
  refine ⟨hnone, ?_⟩
  intro rest
  have hended : (start config platform arena).Ended
      (history ++ .exit code :: later ++ [operation]) id code :=
    ⟨history, later ++ [operation], by simp, hx⟩
  have hpast := past_of_ended (accounted_start config platform arena) hended
  have hforgotten : ((start config platform arena).run
      (history ++ .exit code :: later ++ [operation])).tasks.Forgotten id := by
    rw [run_concat] at hpast ⊢
    refine ⟨hpast, ?_⟩
    intro task hmem
    rw [hnone] at hmem
    exact absurd hmem List.not_mem_nil
  rw [List.append_cons]
  exact (forgotten_run hforgotten rest).context?

/-- No operation takes the context of a task that is live when it begins. -/
theorem context?_of_live {config : Config} {platform : Platform} {arena : Arena} {id : TaskId}
    (hmem : id ∈ ((start config platform arena).run history).tasks.tasks) (operation : Operation) :
    ((((start config platform arena).run history).perform
      operation).state.tasks.context? id).isSome = true := by
  have haccounted := accounted_run config platform arena history
  by_cases hends : ∃ code, operation = .exit code ∧
      ((start config platform arena).run history).tasks.executing? = some id
  · obtain ⟨code, rfl, hx⟩ := hends
    obtain ⟨task, hlive, _⟩ := haccounted.executing_live hx
    have hkept := (context?_after_exit hx hlive code [] trivial).1
    rw [run_concat] at hkept
    rw [hkept]
    rfl
  · have hlasts : ∀ code, operation = .exit code →
        ((start config platform arena).run history).tasks.executing? ≠ some id :=
      fun code hexit hx => hends ⟨code, hexit, hx⟩
    obtain ⟨task, hlive⟩ := mem_tasks_iff.mp (mem_perform haccounted hmem hlasts)
    simp only [context?, hlive, Option.isSome_some]

/-- **Finished tasks are released late**: the context of a task that ended stays what it was, until
an operation that only a running task can ask for releases it together with all others that have
ended. Then it is gone for ever. The context of a live task is never released. -/
theorem lateRelease_run (config : Config) (platform : Platform) (arena : Arena)
    (history : List Operation) : (start config platform arena).LateRelease history where
  law := retired_perform (accounted_run config platform arena history)
  kept id code hx := by
    obtain ⟨task, hlive, _⟩ := (accounted_run config platform arena history).executing_live hx
    exact ⟨task, hlive, fun later hkept => context?_after_exit hx hlive code later hkept⟩
  released _ code later _ hx hreleases := released_for_ever hx code later hreleases
  spared operation _ hmem := context?_of_live hmem operation

end Scheduler

end TaskKernel
