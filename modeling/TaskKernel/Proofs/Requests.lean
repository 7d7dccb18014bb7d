import TaskKernel.Dispatcher.Creation

/-!
# What becomes of a request

A request for a stack, for a new task or for a wake-up can end in several ways, and it is checked
before anything lasting is done about it. `prepared`, `launched` and `woken` list for each of them
how it ends and in which state:

* **stacks** — `Prepared`: only a sleeping task is given one, if the memory has room (`furnish?`);
* **new tasks** — `Launched`: a task for which there is no stack has only used up its number;
* **wake-ups** — `Woken`: a sleeper joins the queue of its level, a runnable task changes its level.

So what an operation of this kind does is a case analysis, without looking into it again.
-/

namespace TaskKernel.Dispatcher

variable {d : Dispatcher} {id : TaskId} {start : Task.Start} {stackBytes : Nat}

/-! ## Stacks -/

/-- A new stack, the context that starts on it, and the memory that is left, if there is room. -/
def furnish? (d : Dispatcher) (start : Task.Start) (stackBytes : Nat) :
    Option (Stack × Context × Arena) :=
  (d.arena.reserve (Stack.wordsFor stackBytes)).bind fun (bottom, arena) =>
    (Stack.prepare bottom (Stack.wordsFor stackBytes) d.platform.taskReturn).toOption.map
      fun (stack, pointer) =>
        (stack, Context.entering d.platform start.entry start.first start.second
          (UInt64.ofNat pointer), arena)

/-- What the request to give a task a stack comes to. -/
inductive Prepared (d : Dispatcher) (id : TaskId) (start : Task.Start) (stackBytes : Nat) :
    Result Unit → Prop
  | gone : d.tasks[id]? = none → Prepared d id start stackBytes (d.refuse .noSuchTask)
  | running {task : Task} : d.tasks[id]? = some task → task.running = true →
      Prepared d id start stackBytes (d.refuse .alreadyRunning)
  | homeless {task : Task} : d.tasks[id]? = some task → task.running = false →
      d.arena.reserve (Stack.wordsFor stackBytes) = none →
      Prepared d id start stackBytes (d.refuse .noStack)
  | broken {task : Task} {bottom : Nat} {cause : Fault} : d.tasks[id]? = some task →
      task.running = false →
      Stack.prepare bottom (Stack.wordsFor stackBytes) d.platform.taskReturn = .error cause →
      Prepared d id start stackBytes (d.fail cause)
  | done {task : Task} {stack : Stack} {context : Context} {arena : Arena} :
      d.tasks[id]? = some task → task.running = false →
      d.furnish? start stackBytes = some (stack, context, arena) →
      Prepared d id start stackBytes
        (.done ({ d with arena }.store id { task with stack, context }) ())

theorem prepared (d : Dispatcher) (id : TaskId) (start : Task.Start) (stackBytes : Nat) :
    d.Prepared id start stackBytes (d.prepareWith id start stackBytes) := by
  unfold prepareWith
  cases hlive : d.tasks[id]? with
  | none => exact .gone hlive
  | some task =>
      simp only
      by_cases hrunning : task.running = true
      · simp only [Task.prepare, if_pos hrunning]
        exact .running hlive hrunning
      have hasleep : task.running = false := Bool.not_eq_true _ ▸ hrunning
      simp only [Task.prepare, if_neg hrunning]
      cases hroom : d.arena.reserve (Stack.wordsFor stackBytes) with
      | none => exact .homeless hlive hasleep hroom
      | some room =>
          obtain ⟨bottom, arena⟩ := room
          simp only [Option.map_some]
          cases hstack : Stack.prepare bottom (Stack.wordsFor stackBytes)
              d.platform.taskReturn with
          | error cause => exact .broken hlive hasleep hstack
          | ok built =>
              obtain ⟨stack, pointer⟩ := built
              refine .done hlive hasleep ?_
              simp only [furnish?, hroom, hstack, Option.bind_some, Except.toOption,
                Option.map_some, Option.elim_some]

/-- A refused request for a stack leaves no trace. -/
theorem state_prepareWith_of_error {cause : Stop}
    (h : (d.prepareWith id start stackBytes).answer = .error cause) :
    (d.prepareWith id start stackBytes).state = d := by
  have hprepared := prepared d id start stackBytes
  generalize d.prepareWith id start stackBytes = outcome at h hprepared ⊢
  cases hprepared with
  | gone | running | homeless | broken => rfl
  | done => simp at h

/-- The stack and the context are those that a sleeping task is prepared with. -/
theorem prepare_of_furnish (task : Task) {stack : Stack} {context : Context} {arena : Arena}
    (h : d.furnish? start stackBytes = some (stack, context, arena))
    (hasleep : task.running = false) :
    ∃ block, task.prepare start stackBytes d.platform block = .ok { task with stack, context } := by
  obtain ⟨⟨bottom, room⟩, _, hbuilt⟩ := Option.bind_eq_some_iff.mp h
  obtain ⟨⟨built, pointer⟩, hstack, hsame⟩ := Option.map_eq_some_iff.mp hbuilt
  have hready : Stack.prepare bottom (Stack.wordsFor stackBytes) d.platform.taskReturn =
      .ok (built, pointer) := by
    cases hstack' : Stack.prepare bottom (Stack.wordsFor stackBytes) d.platform.taskReturn with
    | error cause => simp [hstack', Except.toOption] at hstack
    | ok other =>
        rw [hstack'] at hstack
        exact congrArg Except.ok (Option.some.inj hstack)
  cases hsame
  refine ⟨some bottom, ?_⟩
  unfold Task.prepare
  simp only [hasleep, hready, Bool.false_eq_true, if_false]

/-! ## New tasks -/

/-- The state with a new sleeping task, which has the next number. -/
def enlisted (d : Dispatcher) : Dispatcher :=
  { d with newest := d.newest + 1 }.store (d.newest + 1) { id := d.newest + 1 }

/-- The newest task has its stack. -/
def housed (d : Dispatcher) (stack : Stack) (context : Context) (arena : Arena) : Dispatcher :=
  { d with arena }.store d.newest { id := d.newest, stack, context }

/-- What the request for a new runnable task comes to. -/
inductive Launched (d : Dispatcher) (entry data : UInt64) (level : Option Nat) :
    Result TaskId → Prop
  | denied {cause : Refusal} : d.config.grantLevel? level = .error cause →
      Launched d entry data level (d.refuse cause)
  | full {granted : Option Level} : d.config.grantLevel? level = .ok granted →
      ¬ d.newest + 1 < Word.size → Launched d entry data level (d.release.fail (.overflow .add))
  | discarded {granted : Option Level} : d.config.grantLevel? level = .ok granted →
      d.newest + 1 < Word.size →
      Launched d entry data level
        (({ d.release with
            newest := d.newest + 1
            tasks := d.tasks.erase (d.newest + 1) } : Dispatcher).refuse .noStack)
  | broken {granted : Option Level} {bottom : Nat} {cause : Fault} :
      d.config.grantLevel? level = .ok granted → d.newest + 1 < Word.size →
      Stack.prepare bottom (Stack.wordsFor d.config.stackBytes) d.platform.taskReturn =
        .error cause →
      Launched d entry data level (d.release.enlisted.fail cause)
  | done {granted : Option Level} {stack : Stack} {context : Context} {arena : Arena} :
      d.config.grantLevel? level = .ok granted → d.newest + 1 < Word.size →
      d.furnish? { entry, first := UInt64.ofNat (d.newest + 1), second := data }
        d.config.stackBytes = some (stack, context, arena) →
      Launched d entry data level
        (.after [.launched (d.newest + 1) (granted.getD Level.standard)]
          (.done ((d.release.enlisted.housed stack context arena).makeRunnable (d.newest + 1)
            { id := d.newest + 1, stack, context } (granted.getD Level.standard)) (d.newest + 1)))

theorem create_done (h : d.newest + 1 < Word.size) :
    d.create = .done d.release.enlisted (d.newest + 1) := by
  have hadd : Word.add d.release.newest 1 = .ok (d.newest + 1) := Word.add_eq_ok.mpr ⟨h, rfl⟩
  unfold create
  simp only [hadd]
  rfl

theorem create_full (h : ¬ d.newest + 1 < Word.size) :
    d.create = d.release.fail (.overflow .add) := by
  have hadd : Word.add d.release.newest 1 = .error (.overflow .add) := if_neg h
  unfold create
  simp only [hadd]

/-- A number that was given to nobody else is used up when its task is taken away again. -/
theorem erase_enlisted (d : Dispatcher) :
    d.enlisted.tasks.erase (d.newest + 1) = d.tasks.erase (d.newest + 1) := by
  apply Std.ExtTreeMap.ext_getElem?
  intro id
  simp only [enlisted, store, Std.ExtTreeMap.getElem?_erase, Std.ExtTreeMap.getElem?_insert]
  by_cases hid : compare (d.newest + 1) id = .eq
  · simp only [hid, if_true]
  · simp only [hid, if_false]

theorem wakeAt_of_sleeping {task : Task} (hlive : d.tasks[id]? = some task)
    (hasleep : task.running = false) (level : Option Level) :
    d.wakeAt id level = .ok (d.makeRunnable id task (level.getD task.level)) := by
  unfold wakeAt
  simp only [hlive, hasleep, Bool.false_eq_true, if_false]

theorem find?_makeRunnable (d : Dispatcher) (id : TaskId) (task : Task) (level : Level) :
    (d.makeRunnable id task level).find? id = some { task with level, running := true } :=
  Std.ExtTreeMap.getElem?_insert_self

theorem launched (d : Dispatcher) (entry data : UInt64) (level : Option Nat) :
    d.Launched entry data level (d.launch entry data level) := by
  unfold launch
  cases hgrant : d.config.grantLevel? level with
  | error cause => exact .denied hgrant
  | ok granted =>
      simp only
      by_cases hfits : d.newest + 1 < Word.size
      · rw [create_done hfits, Outcome.done_bind]
        -- The new task sleeps, so all that it can lack is a stack.
        have hlive : d.release.enlisted.tasks[d.newest + 1]? = some { id := d.newest + 1 } :=
          Std.ExtTreeMap.getElem?_insert_self
        have hready := prepared d.release.enlisted (d.newest + 1)
          { entry, first := UInt64.ofNat (d.newest + 1), second := data }
          d.release.enlisted.config.stackBytes
        unfold prepare
        generalize d.release.enlisted.prepareWith _ _ _ = ready at hready ⊢
        cases hready with
        | gone hgone => exact absurd (hgone.symm.trans hlive) (by simp)
        | running hfound hrunning =>
            cases Option.some.inj (hfound.symm.trans hlive)
            exact absurd hrunning (by simp)
        | homeless =>
            have hstate : ({ d.release.enlisted with
                tasks := d.release.enlisted.tasks.erase (d.newest + 1) } : Dispatcher) =
                  { d.release with newest := d.newest + 1, tasks := d.tasks.erase (d.newest + 1) } :=
              congrArg (fun tasks => ({ d.release.enlisted with tasks } : Dispatcher))
                (erase_enlisted d.release)
            simp only [answer_refuse, state_refuse, hstate]
            exact .discarded hgrant hfits
        | broken _ _ hstack => exact .broken hgrant hfits hstack
        | @done task stack context arena hfound _ hfurnished =>
            cases Option.some.inj (hfound.symm.trans hlive)
            simp only [Outcome.answer_done, Outcome.state_done]
            have hhoused : ({ d.release.enlisted with arena }.store (d.newest + 1)
                { id := d.newest + 1, stack, context }).tasks[d.newest + 1]? =
                  some { id := d.newest + 1, stack, context } :=
              Std.ExtTreeMap.getElem?_insert_self
            rw [wakeAt_of_sleeping hhoused rfl]
            simp only [find?_makeRunnable, Option.elim_some]
            exact .done hgrant hfits hfurnished
      · rw [create_full hfits]
        exact .full hgrant hfits

/-! ## Wake-ups -/

/-- What the request to wake a task comes to. -/
inductive Woken (d : Dispatcher) (id : TaskId) (level : Option Nat) : Result Unit → Prop
  | refused {cause : Refusal} : Woken d id level (d.refuse cause)
  | roused {granted : Option Level} {task : Task} : d.config.grantLevel? level = .ok granted →
      d.tasks[id]? = some task → task.running = false →
      Woken d id level (.done (d.makeRunnable id task (granted.getD task.level)) ())
  | moved {granted : Option Level} {task : Task} : d.config.grantLevel? level = .ok granted →
      d.tasks[id]? = some task → task.running = true →
      Woken d id level (.done (d.changeLevel id task (granted.getD task.level)) ())

theorem woken (d : Dispatcher) (id : TaskId) (level : Option Nat) :
    d.Woken id level (d.wake id level) := by
  unfold wake
  cases hgrant : d.config.grantLevel? level with
  | error cause => exact .refused
  | ok granted =>
      simp only [wakeAt]
      cases hlive : d.tasks[id]? with
      | none => exact .refused
      | some task =>
          simp only
          by_cases hrunning : task.running = true
          · rw [if_pos hrunning]
            exact .moved hgrant hlive hrunning
          · rw [if_neg hrunning]
            exact .roused hgrant hlive (Bool.not_eq_true _ ▸ hrunning)

end TaskKernel.Dispatcher
