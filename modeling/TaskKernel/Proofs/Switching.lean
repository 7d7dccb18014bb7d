import TaskKernel.Kernel.Call
import TaskKernel.Proofs.Decisions

/-!
# Carrying out the dispatcher's switches

The dispatcher decides that another task is to go on, and the kernel then moves the processor. Which
task the processor runs can be told from the events alone (`processor`): a switch or a resumption
leads to the task that it names. The kernel is `Attuned` to a task if that task executes, and nobody
uses the kernel's parts.

* `onTasks_apply`, `carryOut_apply` — what the two building blocks of a method do, in one equation.
* `Faithful` — each switch saves the task that the processor runs at that moment.
* `switching_decision` — an operation that may put the executing task to sleep, and the switch that
  follows it, lead from one attuned state to the next.
* `switching_attempts` — so does a loop of them, and it ends: each attempt that fails takes one task
  out of the run queues.
-/

namespace TaskKernel

namespace Kernel

variable {α β : Type} {k : Kernel} {cpu : TaskId}

/-! ## The methods in equations -/

theorem masked_apply (body : Method α) (k : Kernel) :
    masked body k = (body { k with interrupts := false }).mapState fun k' =>
      { k' with interrupts := k'.interrupts || k.interrupts } := rfl

/-- An operation of the dispatcher, if that is not in use. -/
theorem onTasks_apply (hfree : k.tasks.borrowed = false)
    (operation : Dispatcher → Dispatcher.Result α) :
    onTasks operation k =
      { answer := (operation k.tasks.value).answer.mapError .stop
        state := { k with tasks := Cell.new (operation k.tasks.value).state }
        events := .entered .tasks { k.view with tasksInUse := true } ::
          (operation k.tasks.value).events.map .notice } := by
  unfold onTasks usingTasks
  simp only [Cell.borrow, hfree, Bool.false_eq_true, if_false]
  rfl

/-- A switch from one live task to another is carried out. -/
theorem carryOut_apply {switch : Switch} (hfree : k.tasks.borrowed = false)
    (hne : switch.next ≠ switch.current) (hnext : switch.next ∈ k.tasks.value.tasks)
    (hcurrent : switch.current ∈ k.tasks.value.tasks) :
    carryOut switch k =
      { answer := .ok ()
        state := k
        events :=
          [.entered .tasks { k.view with tasksInUse := true }, .switched switch k.view] } := by
  obtain ⟨next, hnext⟩ := Dispatcher.mem_tasks_iff.mp hnext
  obtain ⟨current, hcurrent⟩ := Dispatcher.mem_tasks_iff.mp hcurrent
  have hpossible : ((k.tasks.value.context? switch.next).isSome &&
      (k.tasks.value.context? switch.current).isSome) = true := by
    simp [Dispatcher.context?, hnext, hcurrent]
  have hkept : ({ k with tasks := Cell.new k.tasks.value } : Kernel) = k := by
    rw [Cell.new, ← hfree]
  unfold carryOut
  rw [if_pos hne, Act.bind_apply, onTasks_apply hfree]
  simp only [Outcome.answer_done, Outcome.state_done, hpossible, hkept, Outcome.bind,
    Except.mapError]
  rfl

/-! ## Following the processor -/

/-- The task that the processor runs after an event. -/
def Event.follow (cpu : TaskId) : Event → TaskId
  | .switched switch _ => switch.next
  | .resumed next _ => next
  | .notice _ | .entered _ _ => cpu

/-- The task that the processor runs after some events. -/
def processor (cpu : TaskId) (events : List Event) : TaskId := events.foldl Event.follow cpu

/-- A switch saves the task that the processor runs, and goes on with another one. -/
def Event.Faithful (cpu : TaskId) : Event → Prop
  | .switched switch _ => switch.current = cpu ∧ switch.next ≠ cpu
  | _ => True

/-- Each of some events is faithful at its moment. -/
def Faithful : TaskId → List Event → Prop
  | _, [] => True
  | cpu, event :: rest => event.Faithful cpu ∧ Faithful (event.follow cpu) rest

theorem processor_append (cpu : TaskId) (first second : List Event) :
    processor cpu (first ++ second) = processor (processor cpu first) second :=
  List.foldl_append

theorem faithful_append {first second : List Event} :
    Faithful cpu (first ++ second) ↔
      Faithful cpu first ∧ Faithful (processor cpu first) second := by
  induction first generalizing cpu with
  | nil => simp [Faithful, processor]
  | cons event rest ih =>
      show event.Faithful cpu ∧ Faithful (event.follow cpu) (rest ++ second) ↔
        (event.Faithful cpu ∧ Faithful (event.follow cpu) rest) ∧
          Faithful (processor (event.follow cpu) rest) second
      rw [ih, and_assoc]

/-- An event that has nothing to do with the processor. -/
def Event.Silent : Event → Prop
  | .notice _ | .entered _ _ => True
  | .switched _ _ | .resumed _ _ => False

theorem faithful_of_silent {events : List Event} (h : ∀ event ∈ events, event.Silent) :
    Faithful cpu events := by
  induction events generalizing cpu with
  | nil => trivial
  | cons event rest ih =>
      obtain ⟨hevent, hrest⟩ := List.forall_mem_cons.mp h
      refine ⟨?_, ih hrest⟩
      cases event with
      | notice | entered => trivial
      | switched | resumed => exact hevent.elim

theorem processor_of_silent {events : List Event} (h : ∀ event ∈ events, event.Silent) :
    processor cpu events = cpu := by
  induction events generalizing cpu with
  | nil => rfl
  | cons event rest ih =>
      obtain ⟨hevent, hrest⟩ := List.forall_mem_cons.mp h
      show processor (event.follow cpu) rest = cpu
      rw [ih hrest]
      cases event with
      | notice | entered => rfl
      | switched | resumed => exact hevent.elim

theorem silent_nil : ∀ event ∈ ([] : List Event), event.Silent := by simp

theorem silent_notices (notices : List Notice) :
    ∀ event ∈ notices.map Event.notice, event.Silent := by
  intro event hmem
  obtain ⟨notice, _, rfl⟩ := List.mem_map.mp hmem
  trivial

theorem silent_entered (view : View) (notices : List Notice) :
    ∀ event ∈ Event.entered .tasks view :: notices.map .notice, event.Silent :=
  List.forall_mem_cons.mpr ⟨trivial, silent_notices notices⟩

/-! ## Agreement -/

/-- Nobody uses the kernel, its run queues are as they should be, and the processor runs the task
that executes. -/
structure Attuned (k : Kernel) (cpu : TaskId) : Prop where
  tasks_free : k.tasks.borrowed = false
  timers_free : k.timers.borrowed = false
  accounted : k.tasks.value.Accounted
  executing : k.tasks.value.executing? = some cpu

/-- A method stopped for want of a task. -/
def Exhausted (outcome : Outcome Exit Event Kernel α) : Prop :=
  ∃ level, outcome.answer = .error (.stop (.fault (.emptyQueue level)))

/-- The processor and the dispatcher agree on what a method does. -/
structure Agrees (k : Kernel) (cpu : TaskId) (outcome : Outcome Exit Event Kernel α) : Prop where
  faithful : Faithful cpu outcome.events
  /-- Both tasks of a switch are live, and while a method switches nobody comes to live or ends. -/
  live : ∀ switch view, .switched switch view ∈ outcome.events →
    (switch.next ∈ k.tasks.value.tasks ∧ switch.current ∈ k.tasks.value.tasks) ∧
      ∀ id, id ∈ outcome.state.tasks.value.tasks ↔ id ∈ k.tasks.value.tasks
  attuned : Exhausted outcome ∨ outcome.state.Attuned (processor cpu outcome.events)
  ne_spinning : outcome.answer ≠ .error .spinning

/-- Masking interrupts does not disturb the agreement. -/
theorem Attuned.mask (h : k.Attuned cpu) (interrupts : Bool) :
    ({ k with interrupts } : Kernel).Attuned cpu :=
  ⟨h.tasks_free, h.timers_free, h.accounted, h.executing⟩

theorem Agrees.masked {body : Method α}
    (h : Agrees { k with interrupts := false } cpu (body { k with interrupts := false })) :
    Agrees k cpu (Kernel.masked body k) := by
  rw [masked_apply]
  refine ⟨h.faithful, h.live, ?_, h.ne_spinning⟩
  rcases h.attuned with hempty | hattuned
  · exact .inl hempty
  · exact .inr (hattuned.mask _)

/-- Nothing is seen of the processor, and it runs the task that executes. -/
theorem agrees_of_silent {outcome : Outcome Exit Event Kernel α}
    (hsilent : ∀ event ∈ outcome.events, event.Silent)
    (hattuned : Exhausted outcome ∨ outcome.state.Attuned cpu)
    (hspinning : outcome.answer ≠ .error .spinning) : Agrees k cpu outcome where
  faithful := faithful_of_silent hsilent
  live := fun _ _ hmem => absurd (hsilent _ hmem) id
  attuned := by
    rw [processor_of_silent hsilent]
    exact hattuned
  ne_spinning := hspinning

/-- What a method does that may put the executing task to sleep: nobody comes to live or ends. -/
structure Switching (k : Kernel) (cpu : TaskId) (outcome : Outcome Exit Event Kernel α) : Prop
    extends Agrees k cpu outcome where
  kept : ∀ id, id ∈ outcome.state.tasks.value.tasks ↔ id ∈ k.tasks.value.tasks

theorem Agrees.attuned_of_ok {outcome : Outcome Exit Event Kernel α} {value : α}
    (h : Agrees k cpu outcome) (hanswer : outcome.answer = .ok value) :
    outcome.state.Attuned (processor cpu outcome.events) := by
  rcases h.attuned with ⟨level, hempty⟩ | hattuned
  · rw [hanswer] at hempty
    exact absurd hempty (by simp)
  · exact hattuned

/-- One such method after another. -/
theorem Switching.bind {first : Outcome Exit Event Kernel α}
    {next : α → Kernel → Outcome Exit Event Kernel β} (hfirst : Switching k cpu first)
    (hnext : ∀ value, first.answer = .ok value →
      Switching first.state (processor cpu first.events) (next value first.state)) :
    Switching k cpu (first.bind next) := by
  cases hanswer : first.answer with
  | error cause =>
      -- The cause is passed on, and so is everything else.
      unfold Outcome.bind
      rw [hanswer]
      refine ⟨⟨hfirst.faithful, hfirst.live, ?_, ?_⟩, hfirst.kept⟩
      · rcases hfirst.attuned with ⟨level, hempty⟩ | hattuned
        · rw [hanswer] at hempty
          exact .inl ⟨level, congrArg Except.error (Except.error.inj hempty)⟩
        · exact .inr hattuned
      · intro hspinning
        have hcause := Except.error.inj hspinning
        exact hfirst.ne_spinning (hcause ▸ hanswer)
  | ok value =>
      have hsecond := hnext value hanswer
      have hkept : ∀ id, id ∈ (next value first.state).state.tasks.value.tasks ↔
          id ∈ k.tasks.value.tasks := fun id => (hsecond.kept id).trans (hfirst.kept id)
      unfold Outcome.bind
      rw [hanswer]
      refine ⟨⟨faithful_append.mpr ⟨hfirst.faithful, hsecond.faithful⟩, ?_, ?_,
        hsecond.ne_spinning⟩, hkept⟩
      · intro switch view hmem
        rcases List.mem_append.mp hmem with hmem | hmem
        · exact ⟨(hfirst.live switch view hmem).1, hkept⟩
        · obtain ⟨⟨hnext, hcurrent⟩, _⟩ := hsecond.live switch view hmem
          exact ⟨⟨(hfirst.kept _).mp hnext, (hfirst.kept _).mp hcurrent⟩, hkept⟩
      · rcases hsecond.attuned with hempty | hattuned
        · exact .inl hempty
        · exact .inr (processor_append cpu _ _ ▸ hattuned)

theorem Switching.masked {body : Method α}
    (h : Switching { k with interrupts := false } cpu (body { k with interrupts := false })) :
    Switching k cpu (Kernel.masked body k) :=
  ⟨h.toAgrees.masked, h.kept⟩

/-! ## A decision and its switch -/

/-- The number of runnable tasks. -/
def runnableCount (k : Kernel) : Nat := k.tasks.value.queues.toList.length

/-- A switch from the task that the processor runs to the one that executes. -/
theorem switching_carryOut {k' : Kernel} {next : TaskId} {events : List Event}
    (hsilent : ∀ event ∈ events, event.Silent) (hattuned : k'.Attuned next) (hne : next ≠ cpu)
    (hcpu : cpu ∈ k.tasks.value.tasks)
    (hkept : ∀ id, id ∈ k'.tasks.value.tasks ↔ id ∈ k.tasks.value.tasks) (waiting : β) :
    Switching k cpu
        (.after events ((carryOut { next, current := cpu } k').map fun () => waiting)) ∧
      (carryOut { next, current := cpu } k').state = k' := by
  have hnext : next ∈ k'.tasks.value.tasks := hattuned.accounted.mem_executing hattuned.executing
  rw [carryOut_apply hattuned.tasks_free hne hnext ((hkept cpu).mpr hcpu)]
  refine ⟨⟨⟨?_, ?_, .inr ?_, ?_⟩, hkept⟩, rfl⟩
  -- Nothing happens to the processor before the switch, so it still runs the task that is saved.
  · refine faithful_append.mpr ⟨faithful_of_silent hsilent, ?_⟩
    rw [processor_of_silent hsilent]
    exact ⟨trivial, ⟨rfl, hne⟩, trivial⟩
  · intro switch view hmem
    have hswitch : switch = { next, current := cpu } := by
      rcases List.mem_append.mp hmem with hmem | hmem
      · exact absurd (hsilent _ hmem) id
      · simp only [Outcome.map, List.mem_cons, reduceCtorEq, Event.switched.injEq,
          List.not_mem_nil, or_false, false_or] at hmem
        exact hmem.1
    rw [hswitch]
    exact ⟨⟨(hkept next).mp hnext, hcpu⟩, hkept⟩
  · show k'.Attuned (processor cpu (events ++ _))
    rw [processor_append]
    exact hattuned
  · simp [Outcome.after, Outcome.map, Except.map]

/-- The dispatcher decides, and the kernel carries out what it decided on. A method that had to wait
leaves one runnable task less. -/
theorem switching_decision {operation : Dispatcher → Dispatcher.Result α} {settled : α → Prop}
    {told : Switch → α} {body : α → Method β} (Answered : β → Prop) (waiting : β)
    (h : k.Attuned cpu)
    (hdecided : k.tasks.value.Decided cpu settled told (operation k.tasks.value))
    (horderly : k.tasks.value.Orderly (operation k.tasks.value))
    (hsettled : ∀ value, settled value →
      ∃ result, Answered result ∧ ∀ k, body value k = .done k result)
    (htold : ∀ switch k, body (told switch) k = (carryOut switch k).map fun () => waiting) :
    Switching k cpu ((onTasks operation >>= body) k) ∧
      ∀ result, ((onTasks operation >>= body) k).answer = .ok result →
        Answered result ∨
          ((onTasks operation >>= body) k).state.runnableCount + 1 = k.runnableCount := by
  obtain ⟨hkept, haccounted⟩ := horderly
  rw [Act.bind_apply, onTasks_apply h.tasks_free]
  generalize operation k.tasks.value = outcome at hdecided hkept haccounted ⊢
  have hsilent := silent_entered { k.view with tasksInUse := true } outcome.events
  generalize Event.entered .tasks { k.view with tasksInUse := true } ::
    outcome.events.map .notice = events at hsilent ⊢
  -- Whoever executes when the dispatcher has answered is who the kernel has to agree with.
  have hattuned : ∀ {x : TaskId}, outcome.state.executing? = some x →
      ({ k with tasks := Cell.new outcome.state } : Kernel).Attuned x :=
    fun hx => ⟨rfl, h.timers_free, haccounted, hx⟩
  cases hdecided with
  | stays hanswer hvalue hx =>
      obtain ⟨result, hresult, hbody⟩ := hsettled _ hvalue
      simp only [hanswer, Except.mapError, Outcome.bind, hbody, Outcome.done, List.append_nil]
      refine ⟨⟨agrees_of_silent hsilent (.inr (hattuned hx)) (by simp), hkept⟩, ?_⟩
      intro value hok
      exact .inl (Except.ok.inj hok ▸ hresult)
  | @moves next hanswer hx hne hlength =>
      have hcpu : cpu ∈ k.tasks.value.tasks := h.accounted.mem_executing h.executing
      obtain ⟨hswitching, hstate⟩ :=
        switching_carryOut hsilent (hattuned hx) hne hcpu hkept waiting
      simp only [hanswer, Except.mapError, Outcome.bind, htold]
      refine ⟨hswitching, fun _ _ => .inr ?_⟩
      rw [Outcome.state_map, hstate]
      exact hlength
  | refused hanswer hx =>
      simp only [hanswer, Except.mapError, Outcome.bind]
      exact ⟨⟨agrees_of_silent hsilent (.inr (hattuned hx)) (by simp), hkept⟩, by simp⟩
  | exhausted hanswer =>
      simp only [hanswer, Except.mapError, Outcome.bind]
      exact ⟨⟨agrees_of_silent hsilent (.inl ⟨_, rfl⟩) (by simp), hkept⟩, by simp⟩

/-! ## The methods that may switch -/

theorem map_unit (outcome : Outcome Exit Event Kernel Unit) :
    outcome.map (fun () => ()) = outcome := by
  unfold Outcome.map
  cases h : outcome.answer with
  | error cause => simp only [Except.map, ← h]
  | ok value => simp only [Except.map, ← h]

theorem switching_suspend (h : k.Attuned cpu) (id : TaskId) : Switching k cpu (suspend id k) := by
  refine Switching.masked (switching_decision (fun _ => True) () (h.mask false)
    (Dispatcher.suspend_decides h.accounted h.executing id)
    (Dispatcher.suspend_orderly h.accounted id) ?_ ?_).1
  · rintro _ rfl
    exact ⟨(), trivial, fun _ => rfl⟩
  · intro switch k
    exact (map_unit _).symm

theorem attempt_bind_apply {method : Method α} {next : Except Refusal α → Method β}
    (h : ∀ cause, (method k).answer ≠ .error (.stop (.refused cause))) :
    (attempt method >>= next) k = (method >>= fun value => next (.ok value)) k := by
  simp only [Act.bind_apply, attempt, Outcome.bind]
  cases hanswer : (method k).answer with
  | ok value => rfl
  | error cause =>
      cases cause with
      | stop cause =>
          cases cause with
          | refused cause => exact absurd hanswer (h cause)
          | fault cause => rfl
      | resumed next => rfl
      | spinning => rfl

theorem switching_suspendCurrent (h : k.Attuned cpu) : Switching k cpu (suspendCurrent k) := by
  have hself : k.tasks.value.withCurrent k.tasks.value.suspend = k.tasks.value.suspend cpu :=
    Dispatcher.withCurrent_of_executing h.executing _
  refine Switching.masked ?_
  -- The executing task is live, so it is not refused.
  rw [attempt_bind_apply]
  · refine (switching_decision (fun _ => True) () (h.mask false)
      (hself ▸ Dispatcher.suspend_decides h.accounted h.executing cpu)
      (hself ▸ Dispatcher.suspend_orderly h.accounted cpu) ?_ ?_).1
    · rintro _ rfl
      exact ⟨(), trivial, fun _ => rfl⟩
    · intro switch k
      exact (map_unit _).symm
  · intro cause hrefused
    rw [onTasks_apply (h.mask false).tasks_free] at hrefused
    simp only [hself] at hrefused
    have hanswered := Dispatcher.suspend_ne_refused h.accounted h.executing cause
    cases hanswer : (k.tasks.value.suspend cpu).answer with
    | error other =>
        rw [hanswer] at hrefused hanswered
        have hother : other = .refused cause := Exit.stop.inj (Except.error.inj hrefused)
        exact hanswered (congrArg Except.error hother)
    | ok switch =>
        rw [hanswer] at hrefused
        exact nomatch hrefused

/-- An attempt that did not succeed left one runnable task less. -/
structure Attempting (k : Kernel) (cpu : TaskId) (outcome : Outcome Exit Event Kernel (Option α)) :
    Prop extends Switching k cpu outcome where
  progress : outcome.answer = .ok none → outcome.state.runnableCount + 1 = k.runnableCount

theorem attempting_decision {operation : Dispatcher → Dispatcher.Result α} {settled : α → Prop}
    {told : Switch → α} {body : α → Method (Option β)} (h : k.Attuned cpu)
    (hdecided : k.tasks.value.Decided cpu settled told (operation k.tasks.value))
    (horderly : k.tasks.value.Orderly (operation k.tasks.value))
    (hsettled : ∀ value, settled value → ∃ result, ∀ k, body value k = .done k (some result))
    (htold : ∀ switch k, body (told switch) k = (carryOut switch k).map fun () => none) :
    Attempting k cpu (masked (onTasks operation >>= body) k) := by
  have hanswered : ∀ value, settled value →
      ∃ result, result ≠ none ∧ ∀ k, body value k = .done k result := by
    intro value hvalue
    obtain ⟨result, hbody⟩ := hsettled value hvalue
    exact ⟨some result, by simp, hbody⟩
  obtain ⟨hswitching, hprogress⟩ := switching_decision (· ≠ none) none (h.mask false) hdecided
    horderly hanswered htold
  refine ⟨hswitching.masked, fun hanswer => ?_⟩
  exact (hprogress none hanswer).resolve_left fun hsome => hsome rfl

theorem attempting_exitAttempt (h : k.Attuned cpu) (target : TaskId) :
    Attempting k cpu (exitAttempt target k) := by
  have hself : k.tasks.value.withCurrent (k.tasks.value.awaitExit · target) =
      k.tasks.value.awaitExit cpu target := Dispatcher.withCurrent_of_executing h.executing _
  refine attempting_decision h
    (hself ▸ Dispatcher.awaitExit_decides h.accounted h.executing target)
    (hself ▸ Dispatcher.awaitExit_orderly h.accounted cpu target) ?_ ?_
  · rintro _ ⟨code, rfl⟩
    exact ⟨code, fun _ => rfl⟩
  · intro switch k
    exact Outcome.bind_done (carryOut switch k) fun () => none

theorem attempting_messageAttempt (h : k.Attuned cpu) :
    Attempting k cpu (messageAttempt k) := by
  refine attempting_decision h (Dispatcher.receiveOrSuspend_decides h.accounted h.executing)
    (Dispatcher.receiveOrSuspend_orderly h.accounted) ?_ ?_
  · rintro _ ⟨message, rfl⟩
    exact ⟨message, fun _ => rfl⟩
  · intro switch k
    exact Outcome.bind_done (carryOut switch k) fun () => none

/-- A loop of attempts ends before they run out: each that fails leaves one runnable task less, and
as long as somebody executes there is one. -/
theorem switching_attempts {attempt : Method (Option α)} {attempts : Nat → Method α}
    (hattempt : ∀ {k : Kernel} {cpu : TaskId}, k.Attuned cpu → Attempting k cpu (attempt k))
    (hnext : ∀ n, attempts (n + 1) = attempt >>= (·.elim (attempts n) pure))
    {n : Nat} (h : k.Attuned cpu) (hn : k.runnableCount < n) :
    Switching k cpu (attempts n k) := by
  -- On the attempts that are left; that they outnumber the runnable tasks is kept.
  induction n generalizing k cpu with
  | zero => exact absurd hn (Nat.not_lt_zero _)
  | succ n ih =>
      have hfirst := hattempt h
      rw [hnext, Act.bind_apply]
      refine hfirst.toSwitching.bind fun value hanswer => ?_
      have hattuned := hfirst.attuned_of_ok hanswer
      cases value with
      | some value =>
          exact ⟨agrees_of_silent silent_nil (.inr hattuned)
            (by simp), fun _ => .rfl⟩
      | none =>
          have hcount := hfirst.progress hanswer
          exact ih hattuned (by omega)

theorem exitAttempts_succ (target : TaskId) (n : Nat) :
    exitAttempts target (n + 1) =
      exitAttempt target >>= (·.elim (exitAttempts target n) pure) := by
  refine congrArg (exitAttempt target >>= ·) (funext fun answer => ?_)
  cases answer with
  | none => rfl
  | some code => rfl

theorem messageAttempts_succ (n : Nat) :
    messageAttempts (n + 1) = messageAttempt >>= (·.elim (messageAttempts n) pure) := by
  refine congrArg (messageAttempt >>= ·) (funext fun answer => ?_)
  cases answer with
  | none => rfl
  | some message => rfl

theorem switching_awaitExit (h : k.Attuned cpu) (target : TaskId) :
    Switching k cpu (awaitExit target k) :=
  switching_attempts (fun h => attempting_exitAttempt h target) (exitAttempts_succ target) h
    (Nat.lt_succ_self k.runnableCount)

theorem switching_awaitMessage (h : k.Attuned cpu) : Switching k cpu (awaitMessage k) :=
  switching_attempts attempting_messageAttempt messageAttempts_succ h
    (Nat.lt_succ_self k.runnableCount)

end Kernel

end TaskKernel
