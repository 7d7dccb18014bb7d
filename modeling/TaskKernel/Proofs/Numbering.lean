import TaskKernel.Proofs.Requests
import TaskKernel.Proofs.Waiters

/-!
# A number stands for one task

The dispatcher keeps tasks, exit codes, finished tasks and lists of waiters apart, and refers to a
task by its number in all of them. Numbers are given out one after the other from one on:

* `Identified` — the task under a number has that number, and whatever is recorded about the end of
  a task is about one that is gone; this survives every operation;
* `numbers` — the number that an operation uses up, whether its task is kept (`handedOut`) or not
  (`givenUp`); over a history these are all numbers up to the newest (`issued_eq_range'`).

So no number is given out twice, and none comes back (`soundNumbers_run`).
-/

namespace TaskKernel

namespace Dispatcher

variable {d d' d'' : Dispatcher} {id x : TaskId} {task task' : Task}

/-! ## Changes that concern no number -/

/-- The same numbers are live, and the records of those that are gone are the same. -/
structure SameRoll (d d' : Dispatcher) : Prop where
  records : d.SameRecords d'
  retired : d'.retired = d.retired
  newest : d'.newest = d.newest
  names : ∀ id : TaskId, d'.tasks[id]?.map (·.id) = d.tasks[id]?.map (·.id)

theorem SameRoll.refl (d : Dispatcher) : d.SameRoll d := ⟨.refl d, rfl, rfl, fun _ => rfl⟩

theorem SameRoll.trans (h : d.SameRoll d') (h' : d'.SameRoll d'') : d.SameRoll d'' where
  records := h.records.trans h'.records
  retired := h'.retired.trans h.retired
  newest := h'.newest.trans h.newest
  names id := (h'.names id).trans (h.names id)

theorem SameRoll.mem_iff (h : d.SameRoll d') : x ∈ d'.tasks ↔ x ∈ d.tasks := by
  have hsome := congrArg Option.isSome (h.names x)
  rw [Option.isSome_map, Option.isSome_map] at hsome
  rw [Std.ExtTreeMap.mem_iff_isSome_getElem?, hsome, Std.ExtTreeMap.mem_iff_isSome_getElem?]

theorem SameRoll.past (h : d.SameRoll d') (hpast : d.Past id) : d'.Past id :=
  ⟨h.newest ▸ hpast.1, fun hmem => hpast.2 (h.mem_iff.mp hmem)⟩

/-- A live task is stored again under its number. -/
theorem SameRoll.of_insert (hlive : d.tasks[id]? = some task)
    (htasks : d'.tasks = d.tasks.insert id task') (hid : task'.id = task.id)
    (hrecords : d.SameRecords d') (hretired : d'.retired = d.retired)
    (hnewest : d'.newest = d.newest) : d.SameRoll d' := by
  refine ⟨hrecords, hretired, hnewest, ?_⟩
  intro x
  rw [htasks, Std.ExtTreeMap.getElem?_insert]
  by_cases hx : compare id x = .eq
  · rw [if_pos hx, ← Nat.compare_eq_eq.mp hx, hlive, Option.map_some, Option.map_some, hid]
  · rw [if_neg hx]

theorem sameRoll_rotate (d : Dispatcher) (stay : Bool) : d.SameRoll (d.rotate stay) := by
  obtain ⟨_, _, _, h⟩ := exists_rotate d stay
  rw [h]
  exact ⟨⟨rfl, rfl⟩, rfl, rfl, fun _ => rfl⟩

theorem sameRoll_modifyTask (d : Dispatcher) (id : TaskId) {f : Task → Task}
    (hid : ∀ task, (f task).id = task.id) : d.SameRoll (d.modifyTask id f) := by
  unfold modifyTask
  cases hlive : d.tasks[id]? with
  | none => exact .refl d
  | some task => exact .of_insert hlive rfl (hid task) ⟨rfl, rfl⟩ rfl rfl

theorem Requeue.sameRoll (h : d.Requeue d') : d.SameRoll d' := by
  cases h with
  | wake level hlive _ => exact .of_insert hlive rfl rfl ⟨rfl, rfl⟩ rfl rfl
  | move level hlive _ =>
      unfold changeLevel
      split
      · exact .refl d
      · split
        · exact .of_insert hlive rfl rfl ⟨rfl, rfl⟩ rfl rfl
        · exact .of_insert hlive rfl rfl ⟨rfl, rfl⟩ rfl rfl
  | drop hlive _ _ => exact .of_insert hlive rfl rfl ⟨rfl, rfl⟩ rfl rfl

/-! ## Numbers and tasks -/

/-- Every number stands for one task, and nobody but the kernel has the kernel's. -/
structure Identified (d : Dispatcher) : Prop where
  named : ∀ (id : TaskId) (task : Task), d.tasks[id]? = some task → task.id = id
  reserved : TaskId.kernel ∉ d.tasks
  /-- An exit code is that of a task that is gone. -/
  ended : ∀ id ∈ d.exitCodes, id ≠ TaskId.kernel ∧ d.Past id
  /-- So is a stack that is yet to be released. -/
  retired : ∀ task ∈ d.retired, task.id ≠ TaskId.kernel ∧ d.Past task.id
  /-- A list of waiters is there for somebody. -/
  awaited : ∀ (target : TaskId) (ids : List TaskId), d.waiters[target]? = some ids → ids ≠ []

theorem Identified.of_sameRoll (h : d.Identified) (hroll : d.SameRoll d') : d'.Identified where
  named id task hlive := by
    have hname := hroll.names id
    rw [hlive, Option.map_some] at hname
    obtain ⟨old, hold, hid⟩ := Option.map_eq_some_iff.mp hname.symm
    exact hid.symm.trans (h.named id old hold)
  reserved hmem := h.reserved (hroll.mem_iff.mp hmem)
  ended id hmem := by
    rw [hroll.records.exitCodes] at hmem
    obtain ⟨hother, hpast⟩ := h.ended id hmem
    exact ⟨hother, hroll.past hpast⟩
  retired task hmem := by
    rw [hroll.retired] at hmem
    obtain ⟨hother, hpast⟩ := h.retired task hmem
    exact ⟨hother, hroll.past hpast⟩
  awaited := by
    rw [hroll.records.waiters]
    exact h.awaited

/-- Who is gone stays gone, so of the records only those that are new have to be looked at. -/
theorem Identified.of_past (h : d.Identified) (hpast : ∀ id, d.Past id → d'.Past id)
    (hnamed : ∀ (id : TaskId) (task : Task), d'.tasks[id]? = some task → task.id = id)
    (hreserved : TaskId.kernel ∉ d'.tasks) (hended : ∀ id ∈ d'.exitCodes, id ∈ d.exitCodes)
    (hretired : ∀ task ∈ d'.retired, task ∈ d.retired)
    (hawaited : ∀ (target : TaskId) (ids : List TaskId), d'.waiters[target]? = some ids → ids ≠ []) :
    d'.Identified where
  named := hnamed
  reserved := hreserved
  ended id hmem := ⟨(h.ended id (hended id hmem)).1, hpast id (h.ended id (hended id hmem)).2⟩
  retired task hmem :=
    ⟨(h.retired task (hretired task hmem)).1, hpast _ (h.retired task (hretired task hmem)).2⟩
  awaited := hawaited

theorem Identified.quiet (h : d.Identified) (hstep : d.Quiet d') : d'.Identified := by
  have hpast : ∀ id, d.Past id → d'.Past id := fun id hpast => hpast.quiet hstep
  cases hstep with
  | release =>
      exact h.of_past hpast h.named h.reserved (fun _ hmem => hmem) (by simp [release]) h.awaited
  | enlist _ =>
      refine h.of_past hpast ?_ ?_ (fun _ hmem => hmem) (fun _ hmem => hmem) h.awaited
      · intro id task hlive
        rw [getElem?_store] at hlive
        by_cases hid : d.newest + 1 = id
        · rw [if_pos hid] at hlive
          rw [← Option.some.inj hlive]
          exact hid
        · rw [if_neg hid] at hlive
          exact h.named id task hlive
      · intro hmem
        rcases mem_store.mp hmem with hkernel | hmem
        · exact absurd hkernel (Nat.succ_ne_zero d.newest)
        · exact h.reserved hmem
  | discard _ =>
      refine h.of_past hpast ?_ ?_ (fun _ hmem => hmem) (fun _ hmem => hmem) h.awaited
      · intro id task hlive
        simp only [Std.ExtTreeMap.getElem?_erase] at hlive
        split at hlive
        · exact absurd hlive (by simp)
        · exact h.named id task hlive
      · intro hmem
        exact h.reserved (Std.ExtTreeMap.mem_of_mem_erase hmem)
  | update hlive hupdate =>
      exact h.of_sameRoll (.of_insert hlive rfl hupdate.kept.1 ⟨rfl, rfl⟩ rfl rfl)
  | @register waiter target _ _ =>
      refine h.of_past hpast h.named h.reserved (fun _ hmem => hmem) (fun _ hmem => hmem) ?_
      intro other ids hids
      simp only [register, Std.ExtTreeMap.getElem?_insert] at hids
      split at hids
      · -- Whoever asks is on the list himself.
        intro hnil
        rw [hnil] at hids
        split at hids
        · rename_i hwaits
          rw [Option.some.inj hids] at hwaits
          exact absurd hwaits (by simp)
        · exact absurd (Option.some.inj hids) (by simp)
      · exact h.awaited other ids hids
  | restock =>
      exact h.of_past hpast h.named h.reserved (fun _ hmem => hmem) (fun _ hmem => hmem) h.awaited
  | tell _ =>
      refine h.of_past hpast h.named h.reserved ?_ (fun _ hmem => hmem) h.awaited
      intro id hmem
      exact Std.ExtTreeMap.mem_of_mem_erase hmem

theorem Identified.conclude (h : d.Identified) (haccounted : d.Accounted)
    (hx : d.executing? = some id) (code : Int32) : (d.conclude id code).Identified := by
  have hgone : id ≠ TaskId.kernel ∧ (d.conclude id code).Past id := by
    refine ⟨?_, past_conclude haccounted hx code⟩
    rintro rfl
    exact h.reserved (haccounted.mem_executing hx)
  have hpast : ∀ other, d.Past other → (d.conclude id code).Past other :=
    fun other hpast => hpast.turn (.finish code hx)
  have hkept : ∀ (other : TaskId) task, (d.conclude id code).tasks[other]? = some task →
      d.tasks[other]? = some task := by
    intro other task hlive
    rw [getElem?_conclude] at hlive
    split at hlive
    · exact absurd hlive (by simp)
    · exact hlive
  refine ⟨?_, ?_, ?_, ?_, ?_⟩
  · intro other task hlive
    exact h.named other task (hkept other task hlive)
  · intro hmem
    exact h.reserved ((mem_conclude d id code).mp hmem).2
  · intro other hmem
    simp only [Dispatcher.conclude, retire, exitCodes_rotate, Std.ExtTreeMap.mem_insert,
      Nat.compare_eq_eq] at hmem
    rcases hmem with rfl | hmem
    · exact hgone
    · obtain ⟨hother, hended⟩ := h.ended other hmem
      exact ⟨hother, hpast other hended⟩
  · intro task hmem
    have hretired : (d.rotate false).retired = d.retired := (sameRoll_rotate d false).retired
    simp only [Dispatcher.conclude, retire, hretired, tasks_rotate, List.mem_append,
      Option.mem_toList, Option.map_eq_some_iff] at hmem
    rcases hmem with hmem | ⟨ended, hlive, rfl⟩
    · obtain ⟨hother, hended⟩ := h.retired task hmem
      exact ⟨hother, hpast _ hended⟩
    · rw [h.named id ended hlive]
      exact hgone
  · intro target ids hids
    simp only [Dispatcher.conclude, Std.ExtTreeMap.getElem?_erase] at hids
    split at hids
    · exact absurd hids (by simp)
    · exact h.awaited target ids hids

theorem Identified.turn (h : d.Identified) (haccounted : d.Accounted) (hstep : d.Turn d') :
    d'.Identified := by
  cases hstep with
  | @elapse id saved _ =>
      have hsaved := sameRoll_modifyTask d id (f := ({ · with context := saved })) fun _ => rfl
      exact h.of_sameRoll (hsaved.trans (sameRoll_rotate _ true))
  | @sleep id task _ hlive _ =>
      have hasleep : d.SameRoll (d.store id { task with running := false }) :=
        .of_insert hlive rfl rfl ⟨rfl, rfl⟩ rfl rfl
      exact h.of_sameRoll (hasleep.trans (sameRoll_rotate _ false))
  | finish code hx => exact h.conclude haccounted hx code

theorem identified_start (config : Config) (platform : Platform) (arena : Arena) :
    (start config platform arena).Identified where
  named id task hlive := by
    rw [getElem?_start] at hlive
    split at hlive
    · rename_i hid
      rw [← Option.some.inj hlive]
      exact hid
    · exact absurd hlive (by simp)
  reserved hmem := by
    obtain ⟨task, hlive⟩ := mem_tasks_iff.mp hmem
    rw [getElem?_start, if_neg (by decide)] at hlive
    exact absurd hlive (by simp)
  ended id hmem := absurd hmem (by simp [start])
  retired task hmem := absurd hmem (by simp [start])
  awaited target ids hids := absurd hids (by simp [start])

/-! ## The newest number -/

theorem Suspended.newest_eq {outcome : Result (Option Switch)} (h : d.Suspended id outcome) :
    outcome.state.newest = d.newest := by
  cases h with
  | gone | asleep | dropped => rfl
  | turned | stranded => exact newest_rotate (d.release.store id _) false

theorem Inquired.newest_eq {waiter target : TaskId} {outcome : Result Awaited}
    (h : d.Inquired waiter target outcome) : outcome.state.newest = d.newest := by
  cases h with
  | told | refused => rfl
  | blocked _ _ _ hsuspended => exact hsuspended.newest_eq

theorem Served.newest_eq {outcome : Result Receipt} (h : d.Served outcome) :
    outcome.state.newest = d.newest := by
  cases h with
  | stranded | message | gone => rfl
  | slept _ _ _ hsuspended => exact hsuspended.newest_eq

theorem newest_wake (d : Dispatcher) (id : TaskId) (level : Option Nat) :
    (d.wake id level).state.newest = d.newest := by
  have h := woken d id level
  generalize d.wake id level = outcome at h ⊢
  cases h with
  | refused => rfl
  | roused => rfl
  | moved _ hlive hrunning => exact (Requeue.move _ hlive hrunning).newest_eq

theorem newest_send (d : Dispatcher) (id : TaskId) (message : Message) :
    (d.send id message).state.newest = d.newest := by
  unfold send
  cases d.tasks[id]? with
  | none => rfl
  | some task => exact newest_wake _ id none

theorem newest_preempt (d : Dispatcher) (saved : Context) :
    (d.preempt saved).2.newest = d.newest := by
  cases hx : d.executing? with
  | none => rw [preempt_of_none hx]
  | some id =>
      rw [preempt_of_executing hx]
      exact (Turn.elapse saved hx).newest_eq

theorem newest_exit (d : Dispatcher) (code : Int32) :
    (d.exit code).state.newest = d.newest := by
  cases hx : d.executing? with
  | none =>
      rw [exit_of_none hx]
      rfl
  | some id =>
      rw [state_exit hx]
      obtain ⟨_, _, _, hwoken⟩ := exists_wakeAll (d.conclude id code) (d.awaiting id)
      rw [hwoken]
      exact (Turn.finish code hx).newest_eq

theorem newest_prepareWith (d : Dispatcher) (id : TaskId) (start : Task.Start)
    (stackBytes : Nat) : (d.prepareWith id start stackBytes).state.newest = d.newest := by
  have h := prepared d id start stackBytes
  generalize d.prepareWith id start stackBytes = outcome at h ⊢
  cases h with
  | gone | running | homeless | broken | done => rfl

end Dispatcher

namespace Scheduler

open Dispatcher

variable {s : Scheduler} {operation : Operation} {id : TaskId}

/-! ## The numbers of an operation -/

/-- The next number, as long as there is one. -/
def next (s : Scheduler) : List TaskId :=
  if s.tasks.newest + 1 < Word.size then [s.tasks.newest + 1] else []

theorem next_of_fits (h : s.tasks.newest + 1 < Word.size) : s.next = [s.tasks.newest + 1] :=
  if_pos h

theorem next_of_full (h : ¬ s.tasks.newest + 1 < Word.size) : s.next = [] := if_neg h

/-- The number that the operation uses for a new task. -/
def numbers (s : Scheduler) : Operation → List TaskId
  | .create => s.next
  | .launch _ _ level =>
    match s.tasks.config.grantLevel? level with
    | .ok _ => s.next
    | .error _ => []
  | _ => []

theorem numbers_launch_of_ok {entry data : UInt64} {level : Option Nat} {granted : Option Level}
    (h : s.tasks.config.grantLevel? level = .ok granted) :
    s.numbers (.launch entry data level) = s.next := by
  rw [numbers, h]

theorem numbers_launch_of_error {entry data : UInt64} {level : Option Nat} {cause : Refusal}
    (h : s.tasks.config.grantLevel? level = .error cause) :
    s.numbers (.launch entry data level) = [] := by
  rw [numbers, h]

/-- The number of a new task that the operation answers with. -/
def handedOut (s : Scheduler) (operation : Operation) : List TaskId :=
  match operation, (s.perform operation).answer with
  | .create, .ok (.task id) => [id]
  | .launch _ _ _, .ok (.task id) => [id]
  | _, _ => []

/-- The number of a new task that is given up again for want of a stack. -/
def givenUp (s : Scheduler) (operation : Operation) : List TaskId :=
  match operation, (s.perform operation).answer with
  | .launch _ _ _, .error (.refused .noStack) => [s.tasks.newest + 1]
  | _, _ => []

/-- An operation uses the next number or none. -/
theorem numbers_eq_next (s : Scheduler) (operation : Operation) :
    s.numbers operation = s.next ∨ s.numbers operation = [] := by
  cases operation with
  | create => exact .inl rfl
  | launch entry data level =>
      cases hgrant : s.tasks.config.grantLevel? level with
      | error cause => exact .inr (numbers_launch_of_error hgrant)
      | ok granted => exact .inl (numbers_launch_of_ok hgrant)
  | prepare | prepareWith | editContext | wake | suspend | preempt | send | receive
  | receiveOrSuspend | exit | awaitExit | startSchedule | armAt | armAfter | tick | restock =>
      exact .inr rfl

theorem numbers_eq_range' (s : Scheduler) (operation : Operation) :
    s.numbers operation = List.range' (s.tasks.newest + 1) (s.numbers operation).length := by
  rcases numbers_eq_next s operation with hnext | hnone
  · rw [hnext]
    by_cases hfits : s.tasks.newest + 1 < Word.size
    · rw [next_of_fits hfits]
      rfl
    · rw [next_of_full hfits]
      rfl
  · rw [hnone]
    rfl

theorem newest_perform (s : Scheduler) (operation : Operation) :
    (s.perform operation).state.tasks.newest =
      s.tasks.newest + (s.numbers operation).length := by
  cases operation with
  | create =>
      show s.tasks.create.state.newest = s.tasks.newest + s.next.length
      by_cases hfits : s.tasks.newest + 1 < Word.size
      · rw [create_done hfits, next_of_fits hfits]
        rfl
      · rw [create_full hfits, next_of_full hfits]
        rfl
  | launch entry data level =>
      have h := launched s.tasks entry data level
      show (s.tasks.launch entry data level).state.newest = _
      generalize s.tasks.launch entry data level = outcome at h ⊢
      cases h with
      | denied hdenied =>
          rw [numbers_launch_of_error hdenied]
          rfl
      | full hgranted hfull =>
          rw [numbers_launch_of_ok hgranted, next_of_full hfull]
          rfl
      | discarded hgranted hfits | broken hgranted hfits | done hgranted hfits =>
          rw [numbers_launch_of_ok hgranted, next_of_fits hfits]
          rfl
  | prepare target start | prepareWith target start => exact newest_prepareWith _ _ _ _
  | editContext target edits =>
      unfold perform
      cases hlive : s.tasks.find? target with
      | none => simp only [hlive]; rfl
      | some task => simp only [hlive]; rfl
  | wake target level => exact newest_wake _ _ _
  | suspend target => exact (suspended s.tasks target).newest_eq
  | preempt saved => exact newest_preempt _ _
  | send target message => exact newest_send _ _ _
  | receive target =>
      show (s.tasks.receive target).state.newest = _
      unfold receive
      cases s.tasks.tasks[target]? with
      | none => rfl
      | some task => rfl
  | receiveOrSuspend => exact (served s.tasks).newest_eq
  | exit code => exact newest_exit _ _
  | awaitExit waiter target => exact (inquired s.tasks waiter target).newest_eq
  | startSchedule | armAt | armAfter =>
      simp only [perform, Outcome.state_map, tasks_onTimers]
      rfl
  | restock => rfl
  | tick =>
      exact tick_of_send (R := fun d d' => d'.newest = d.newest) (fun _ => rfl)
        (fun h h' => h'.trans h) newest_send s

theorem numbers_of_create (h : s.tasks.create.answer = .ok id) : s.numbers .create = [id] := by
  show s.next = [id]
  by_cases hfits : s.tasks.newest + 1 < Word.size
  · rw [create_done hfits, Outcome.answer_done] at h
    rw [next_of_fits hfits, Except.ok.inj h]
  · rw [create_full hfits] at h
    exact absurd h (by simp)

theorem numbers_of_launch {entry data : UInt64} {level : Option Nat}
    (h : (s.tasks.launch entry data level).answer = .ok id) :
    s.numbers (.launch entry data level) = [id] := by
  have hlaunched := launched s.tasks entry data level
  generalize s.tasks.launch entry data level = outcome at h hlaunched
  cases hlaunched with
  | denied | full | discarded | broken => simp at h
  | done hgranted hfits =>
      rw [Outcome.answer_after, Outcome.answer_done] at h
      rw [numbers_launch_of_ok hgranted, next_of_fits hfits, Except.ok.inj h]

/-- What is handed out is the number that was used. -/
theorem handedOut_sublist (s : Scheduler) (operation : Operation) :
    (s.handedOut operation).Sublist (s.numbers operation) := by
  unfold handedOut
  split
  · rename_i id hanswer
    obtain ⟨_, hcreated, hsame⟩ := Outcome.answer_map_eq_ok_iff.mp hanswer
    rw [numbers_of_create hcreated, Answer.task.inj hsame]
  · rename_i entry data level id hanswer
    obtain ⟨_, hdone, hsame⟩ := Outcome.answer_map_eq_ok_iff.mp hanswer
    rw [numbers_of_launch hdone, Answer.task.inj hsame]
  · exact List.nil_sublist _

theorem grantLevel?_ne_noStack (config : Config) (level : Option Nat) :
    config.grantLevel? level ≠ .error .noStack := by
  cases level with
  | none => simp [Config.grantLevel?]
  | some level =>
      unfold Config.grantLevel? Config.grantLevel
      by_cases hexists : level < 4
      · simp [hexists, Except.map]
      · cases config.levelPolicy with
        | reject => simp [hexists, Except.map]
        | clamp => simp [hexists, Except.map]

/-- A task that is given up is gone, and its number was used. -/
theorem past_givenUp (h : id ∈ s.givenUp operation) :
    id ∈ s.numbers operation ∧ (s.perform operation).state.tasks.Past id := by
  unfold givenUp at h
  split at h
  · rename_i entry data level hanswer
    rw [List.mem_singleton] at h
    subst h
    have hrefused : (s.tasks.launch entry data level).answer = .error (.refused .noStack) :=
      Outcome.answer_map_eq_error_iff.mp hanswer
    have hlaunched := launched s.tasks entry data level
    show _ ∧ (s.tasks.launch entry data level).state.Past (s.tasks.newest + 1)
    generalize s.tasks.launch entry data level = outcome at hrefused hlaunched ⊢
    cases hlaunched with
    | denied hdenied =>
        simp only [answer_refuse, Except.error.injEq, Stop.refused.injEq] at hrefused
        exact absurd (hrefused ▸ hdenied) (grantLevel?_ne_noStack _ _)
    | full | broken | done => simp at hrefused
    | discarded hgranted hfits =>
        rw [numbers_launch_of_ok hgranted, next_of_fits hfits]
        refine ⟨List.mem_singleton_self _, le_refl _, ?_⟩
        intro hmem
        exact absurd (Nat.compare_eq_eq.mpr rfl) (Std.ExtTreeMap.mem_erase.mp hmem).1
  · exact absurd h (by simp)

/-! ## The numbers of a history -/

/-- All numbers that have been used so far: that of the first task, and those of the history. -/
def issued (s : Scheduler) (history : List Operation) : List TaskId := 1 :: s.gather numbers history

theorem gather_sublist {α : Type} {yield yield' : Scheduler → Operation → List α}
    (h : ∀ s operation, (yield s operation).Sublist (yield' s operation)) (s : Scheduler)
    (history : List Operation) : (s.gather yield history).Sublist (s.gather yield' history) := by
  induction history generalizing s with
  | nil => exact .refl _
  | cons operation rest ih => exact (h s operation).append (ih _)

variable {config : Config} {platform : Platform} {arena : Arena} {history : List Operation}

/-- Over a history the numbers are used in order, and none is left out. -/
theorem issued_eq_range' (config : Config) (platform : Platform) (arena : Arena)
    (history : List Operation) :
    (start config platform arena).issued history =
      List.range' 1 ((start config platform arena).run history).tasks.newest := by
  induction history using List.reverseRecOn with
  | nil => rfl
  | append_singleton history operation ih =>
      unfold issued at ih ⊢
      rw [gather_concat, ← List.cons_append, ih, run_concat, newest_perform, numbers_eq_range',
        List.length_range', Nat.add_comm _ 1, List.range'_append_1]

theorem mem_issued_iff :
    id ∈ (start config platform arena).issued history ↔
      id ≠ TaskId.kernel ∧ id ≤ ((start config platform arena).run history).tasks.newest := by
  rw [issued_eq_range', List.mem_range'_1, Nat.lt_one_add_iff]
  exact and_congr_left' Nat.one_le_iff_ne_zero

theorem identified_run (config : Config) (platform : Platform) (arena : Arena)
    (history : List Operation) :
    ((start config platform arena).run history).tasks.Identified := by
  have h := invariant_run (P := fun d => d.Accounted ∧ d.Identified)
    (fun h hstep => ⟨h.1.quiet hstep, h.2.quiet hstep⟩)
    (fun h hstep => ⟨h.1.requeue hstep, h.2.of_sameRoll hstep.sameRoll⟩)
    (fun h hstep => ⟨h.1.turn hstep, h.2.turn h.1 hstep⟩)
    (start config platform arena) history
    ⟨accounted_start config platform arena, identified_start config platform arena⟩
  exact h.2

theorem Reachable.identified (h : s.Reachable) : s.tasks.Identified := by
  obtain ⟨config, platform, arena, history, rfl⟩ := h
  exact identified_run config platform arena history

/-- A task that was given up in the course of the history is gone for good. -/
theorem past_of_mem_givenUp
    (h : id ∈ (start config platform arena).gather givenUp history) :
    id ∈ (start config platform arena).gather numbers history ∧
      ((start config platform arena).run history).tasks.Past id := by
  induction history using List.reverseRecOn with
  | nil => exact absurd h (by simp [gather])
  | append_singleton history operation ih =>
      rw [gather_concat, List.mem_append] at h ⊢
      rw [run_concat]
      rcases h with h | h
      · obtain ⟨hnumber, hpast⟩ := ih h
        exact ⟨.inl hnumber, hpast.run [operation]⟩
      · obtain ⟨hnumber, hpast⟩ := past_givenUp h
        exact ⟨.inr hnumber, hpast⟩

/-- What the numbers of a history stand for. -/
structure SoundNumbers (s : Scheduler) (history : List Operation) : Prop where
  /-- The first task has number one, and every other one a higher number than those before it. -/
  ascending : (1 :: s.gather handedOut history).Pairwise (· < ·)
  /-- No task has the kernel's number. -/
  unreserved : TaskId.kernel ∉ 1 :: s.gather handedOut history
  /-- A number whose task is gone never denotes another one. -/
  once : ∀ before after, history = before ++ after → ∀ id ∈ s.issued before,
    id ∉ (s.run before).tasks.tasks → id ∉ (s.run history).tasks.tasks
  /-- The task that is found under a number has it. -/
  named : ∀ id task, (s.run history).tasks.find? id = some task → task.id = id
  live : ∀ id ∈ (s.run history).tasks.tasks, id ∈ s.issued history
  /-- Exit codes are those of tasks that were there and are gone. -/
  ended : ∀ id ∈ (s.run history).tasks.exitCodes,
    id ∈ s.issued history ∧ id ∉ (s.run history).tasks.tasks
  /-- So are the finished tasks that are not released yet. -/
  retired : ∀ task ∈ (s.run history).tasks.retired,
    task.id ∈ s.issued history ∧ task.id ∉ (s.run history).tasks.tasks
  /-- A task that was given up for want of a stack is gone, too. -/
  givenUp : ∀ id ∈ s.gather givenUp history,
    id ∈ s.issued history ∧ id ∉ (s.run history).tasks.tasks
  /-- Only live tasks are waited for, each by somebody, and by nobody twice. -/
  awaited : ∀ target ids, (s.run history).tasks.waiters[target]? = some ids →
    target ∈ (s.run history).tasks.tasks ∧ ids ≠ [] ∧ ids.Nodup

/-- **A number stands for one task**, in every record and for all time. -/
theorem soundNumbers_run (config : Config) (platform : Platform) (arena : Arena)
    (history : List Operation) : (start config platform arena).SoundNumbers history := by
  have hidentified := identified_run config platform arena history
  have haccounted := accounted_run config platform arena history
  have hnoted := noted_run config platform arena history
  have hsublist : (1 :: (start config platform arena).gather handedOut history).Sublist
      ((start config platform arena).issued history) :=
    (gather_sublist handedOut_sublist _ history).cons_cons 1
  refine ⟨?_, ?_, ?_, hidentified.named, ?_, ?_, ?_, ?_, ?_⟩
  · have hissued : ((start config platform arena).issued history).Pairwise (· < ·) := by
      rw [issued_eq_range']
      exact List.pairwise_lt_range'
    exact hissued.sublist hsublist
  · intro hmem
    exact (mem_issued_iff.mp (hsublist.subset hmem)).1 rfl
  · rintro before after rfl id hissued hgone
    have hpast : ((start config platform arena).run before).tasks.Past id :=
      ⟨(mem_issued_iff.mp hissued).2, hgone⟩
    rw [run_append]
    exact (hpast.run after).2
  · intro id hlive
    refine mem_issued_iff.mpr ⟨?_, haccounted.le_newest id hlive⟩
    rintro rfl
    exact hidentified.reserved hlive
  · intro id hmem
    obtain ⟨hother, hle, hgone⟩ := hidentified.ended id hmem
    exact ⟨mem_issued_iff.mpr ⟨hother, hle⟩, hgone⟩
  · intro task hmem
    obtain ⟨hother, hle, hgone⟩ := hidentified.retired task hmem
    exact ⟨mem_issued_iff.mpr ⟨hother, hle⟩, hgone⟩
  · intro id hmem
    obtain ⟨hnumber, hpast⟩ := past_of_mem_givenUp hmem
    exact ⟨List.mem_cons_of_mem _ hnumber, hpast.2⟩
  · intro target ids hids
    have hwaiting : ((start config platform arena).run history).tasks.awaiting target = ids := by
      rw [awaiting, hids, Option.getD_some]
    refine ⟨?_, hidentified.awaited target ids hids, hwaiting ▸ hnoted.nodup target⟩
    apply hnoted.live
    rw [Std.ExtTreeMap.mem_iff_isSome_getElem?, hids]
    rfl

end Scheduler

end TaskKernel
