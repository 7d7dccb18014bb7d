import TaskKernel.Machine.Boot
import TaskKernel.Proofs.Stimuli

/-!
# Keystrokes reach the console

The machine that was started does not depend on what the firmware left: its kernel has run one
history of the scheduler, and four tasks wait to go on. So the start can be evaluated, and what it
leads to is an instance of what a ready machine does:

* `started_boot` — every machine that was started came about in this way;
* `leaves_createTasks` — the started kernel's tasks have a history;
* `ready_of_started` — the machine is ready, nothing was typed, and its clock is at zero;
* `keystrokes_kept` — from then on, whatever happens in whatever order, what was typed is shown or
  still on its way, and the reader of the keyboard does not sleep over a keystroke.
-/

namespace TaskKernel

/-! ## Starting -/

namespace Act

variable {ε ω σ α β : Type}

/-- Whenever the act returns, its value is so. -/
def Ensures (act : Act ε ω σ α) (P : α → Prop) : Prop :=
  ∀ state value, (act state).answer = .ok value → P value

theorem ensures_true (act : Act ε ω σ α) : act.Ensures fun _ => True := fun _ _ _ => trivial

theorem ensures_pure {P : α → Prop} {value : α} (h : P value) :
    (pure value : Act ε ω σ α).Ensures P := by
  intro state returned hreturned
  cases hreturned
  exact h

theorem Ensures.bind {act : Act ε ω σ α} {next : α → Act ε ω σ β} {P : α → Prop} {Q : β → Prop}
    (h : act.Ensures P) (hnext : ∀ value, P value → (next value).Ensures Q) :
    (act >>= next).Ensures Q := by
  intro state value hvalue
  cases hanswer : (act state).answer with
  | error cause => exact nomatch (Outcome.answer_bind_of_error hanswer next).symm.trans hvalue
  | ok first =>
      have hrest := (Outcome.answer_bind_of_ok hanswer next).symm.trans hvalue
      exact hnext first (h state first hanswer) _ value hrest

end Act

namespace Machine

open Scheduler

deriving instance DecidableEq for Flow

/-- The machine with a kernel that has created its tasks. -/
def demonstration (kernel : Kernel) (flows : List (TaskId × Flow)) : Machine where
  kernel := { kernel with interrupts := true }
  keyboard := Keyboard.Decoder.start
  controller := Controller.start
  keyboardData := 0
  executing := 1
  flows := Std.ExtTreeMap.ofList flows
  halted := false

/-- How the machine that was started came about. -/
def Started (m : Machine) : Prop :=
  ∃ k flows, Kernel.start {} Platform.simulated heapArena false = .ok k ∧
    (createTasks k).answer = .ok flows ∧ m = demonstration (createTasks k).state flows

theorem ensures_checked {σ α : Type} (result : Except Fault α) :
    (checked result : Start σ α).Ensures fun value => result = .ok value := by
  intro state value hvalue
  cases result with
  | error cause => exact nomatch hvalue
  | ok first => exact congrArg Except.ok (Except.ok.inj hvalue)

theorem ensures_install (kernel : Kernel) :
    (install kernel).Ensures fun installed => installed = kernel := by
  intro registry installed hinstalled
  have hvalue : ((registry.install kernel).answer.mapError Panic.fault).map (fun () => kernel) =
    .ok installed := hinstalled
  cases hanswer : (registry.install kernel).answer with
  | error cause =>
      rw [hanswer] at hvalue
      exact nomatch hvalue
  | ok _ =>
      rw [hanswer] at hvalue
      exact (Except.ok.inj hvalue).symm

theorem ensures_onKernel {σ α : Type} (kernel : Kernel) (act : Start Kernel α) :
    (onKernel kernel act : Start σ (α × Kernel)).Ensures fun result =>
      (act kernel).answer = .ok result.1 ∧ result.2 = (act kernel).state := by
  intro state result hresult
  have hvalue : (act kernel).answer.map (fun value => (value, (act kernel).state)) = .ok result :=
    hresult
  cases hanswer : (act kernel).answer with
  | error cause =>
      rw [hanswer] at hvalue
      exact nomatch hvalue
  | ok value =>
      rw [hanswer] at hvalue
      obtain rfl := Except.ok.inj hvalue
      exact ⟨rfl, rfl⟩

theorem ensures_bringUp (firmware : Firmware) : (bringUp firmware).Ensures Started := by
  refine (Act.ensures_true _).bind fun _ _ => ?_
  refine (Act.ensures_true _).bind fun _ _ => ?_
  refine (Act.ensures_true _).bind fun _ _ => ?_
  refine (Act.ensures_true _).bind fun _ _ => ?_
  refine (ensures_checked _).bind fun kernel hkernel => ?_
  refine (ensures_install kernel).bind fun installed hinstalled => ?_
  refine (ensures_onKernel installed createTasks).bind fun result hresult => ?_
  refine (Act.ensures_true _).bind fun _ _ => ?_
  refine (Act.ensures_true _).bind fun _ _ => ?_
  refine Act.ensures_pure ?_
  obtain ⟨flows, launched⟩ := result
  obtain ⟨hflows, rfl⟩ := hresult
  subst hinstalled
  exact ⟨installed, flows, hkernel, hflows, rfl⟩

theorem started_boot {firmware : Firmware} {m : Machine} (h : (boot firmware).2 = some m) :
    Started m := by
  unfold boot at h
  cases hanswer : (bringUp firmware Kernel.Registry.empty).answer with
  | error cause =>
      simp only [hanswer] at h
      exact nomatch h
  | ok machine =>
      simp only [hanswer] at h
      obtain rfl := Option.some.inj h
      exact ensures_bringUp firmware _ _ hanswer

/-! ## The history of the start -/

/-- Whatever comes of the act, the kernel has taken some steps. -/
def TakesSteps {α : Type} (act : Start Kernel α) : Prop :=
  ∀ k, ∃ steps, (act k).state = k.after steps

theorem TakesSteps.bind {α β : Type} {act : Start Kernel α} {next : α → Start Kernel β}
    (h : TakesSteps act) (hnext : ∀ value, TakesSteps (next value)) : TakesSteps (act >>= next) := by
  intro k
  obtain ⟨first, hfirst⟩ := h k
  cases hanswer : (act k).answer with
  | error cause => exact ⟨first, (Outcome.state_bind_of_error hanswer next).trans hfirst⟩
  | ok value =>
      obtain ⟨second, hsecond⟩ := hnext value (act k).state
      refine ⟨first ++ second, (Outcome.state_bind_of_ok hanswer next).trans ?_⟩
      rw [hsecond, hfirst]
      exact List.foldl_append.symm

theorem takesSteps_pure {α : Type} (value : α) : TakesSteps (pure value) := fun _ => ⟨[], rfl⟩

theorem takesSteps_callKernel {α : Type} (method : Kernel.Method α) (call : Kernel.Call)
    (hmethod : ∀ k, (method k).state = k.apply (.call call)) : TakesSteps (callKernel method) :=
  fun k => ⟨[.call call], hmethod k⟩

theorem state_fmap {α β : Type} (f : α → β) (method : Kernel.Method α) (k : Kernel) :
    (method k).state = ((f <$> method) k).state := by
  rw [Act.map_apply, Outcome.state_map]

theorem takesSteps_create (d : Demonstration) : TakesSteps (create d) :=
  (takesSteps_callKernel (Kernel.launch d.entry (UInt64.ofNat d.data) d.level)
    (.launch d.entry (UInt64.ofNat d.data) d.level) (state_fmap _ _)).bind
      fun _ => takesSteps_pure _

theorem takesSteps_createTasks : TakesSteps createTasks := by
  refine (takesSteps_callKernel Kernel.current .current (state_fmap _ _)).bind fun self => ?_
  refine (takesSteps_callKernel (Kernel.giveFocus (some self)) (.giveFocus (some self))
    fun _ => rfl).bind fun _ => ?_
  refine (takesSteps_create idleTask).bind fun _ => ?_
  refine (takesSteps_create blinkTask).bind fun _ => ?_
  exact (takesSteps_create workerTask).bind fun _ => takesSteps_pure _

/-- The tasks of the started kernel are those of a scheduler with a history. -/
theorem leaves_createTasks {k : Kernel}
    (h : Kernel.start {} Platform.simulated heapArena false = .ok k) :
    ∃ s : Scheduler, s.Reachable ∧ Kernel.Leaves s (createTasks k).state := by
  have hstart := Kernel.leaves_start h
  obtain ⟨steps, hsteps⟩ := takesSteps_createTasks k
  have hafter := Kernel.after_refines hstart.toIdle steps
  rw [← hsteps, hstart.scheduler_eq, ← run_append] at hafter
  exact ⟨_, ⟨{}, Platform.simulated, heapArena, _, rfl⟩, hafter⟩

/-- The kernel starts on the spot: it has four tasks, of which the first executes. -/
theorem createTasks_start : ∃ k, Kernel.start {} Platform.simulated heapArena false = .ok k ∧
    (createTasks k).answer =
      .ok [(1, .awaiting 4), (2, .idling), (3, .blinking 500), (4, .summing 1000)] ∧
    (createTasks k).state.focus = some 1 ∧
    (createTasks k).state.tasks.value.executing? = some 1 ∧
    (createTasks k).state.tasks.value.mail 1 = [] ∧
    (createTasks k).state.tasks.value.Runs 2 ∧
    (createTasks k).state.timers.value.Paced 0 := by
  refine ⟨_, rfl, ?_, ?_, ?_, ?_, Option.map_eq_some_iff.mp ?_, ?_, ?_, ?_, ?_⟩ <;> decide +kernel

/-- The flows of the demonstration. -/
theorem flowOf_demonstration (kernel : Kernel) (a b c d : Flow) (id : TaskId) :
    (demonstration kernel [(1, a), (2, b), (3, c), (4, d)]).flowOf id =
      if 4 = id then d else if 3 = id then c else if 2 = id then b else if 1 = id then a
      else .idling := by
  unfold flowOf demonstration
  simp only [Std.ExtTreeMap.ofList_cons, Std.ExtTreeMap.insertMany_cons,
    Std.ExtTreeMap.insertMany_nil, Std.ExtTreeMap.getElem?_insert, Nat.compare_eq_eq]
  split_ifs <;> simp

/-- The numbers that the tasks of the demonstration compute with fit their words. -/
theorem fits_start : (Flow.blinking 500).Fits ∧ (Flow.summing 1000).Fits :=
  ⟨⟨50, by decide⟩, ⟨500500, by decide +kernel⟩⟩

variable {m : Machine}

/-- The machine starts ready, with nothing typed, and its clock at zero. -/
theorem ready_of_started (h : Started m) :
    m.Ready 1 2 ∧ m.pending 1 = [] ∧ m.keyboard = Keyboard.Decoder.start ∧ m.halted = false ∧
      m.kernel.timers.value.Paced 0 := by
  obtain ⟨k, flows, hk, hflows, rfl⟩ := h
  obtain ⟨k', hstart, hanswer, hfocus, hexecuting, hmail, hidles, hpaced⟩ := createTasks_start
  obtain rfl := Except.ok.inj (hk.symm.trans hstart)
  obtain rfl := Except.ok.inj (hflows.symm.trans hanswer)
  obtain ⟨s, hreachable, hleaves⟩ := leaves_createTasks hk
  have htasks : (createTasks k).state.tasks.value = s.tasks :=
    congrArg Scheduler.tasks hleaves.scheduler_eq
  have haccounted : (createTasks k).state.tasks.value.Accounted := by
    rw [htasks]
    exact hreachable.accounted
  have hsettled : (createTasks k).state.tasks.value.Settled := by
    refine Dispatcher.Settled.of_vigilant ?_ hexecuting
    rw [htasks]
    exact hreachable.vigilant
  have hattuned : (createTasks k).state.Attuned 1 :=
    ⟨hleaves.tasks_free, hleaves.timers_free, haccounted, hexecuting⟩
  have hsteady : (createTasks k).state.Steady 1 2 1 :=
    ⟨hattuned, hsettled, haccounted.mem_executing hexecuting, hidles, hfocus⟩
  have hflow := flowOf_demonstration (createTasks k).state (.awaiting 4) .idling (.blinking 500)
    (.summing 1000)
  refine ⟨⟨⟨hsteady.mask true, fun id => ?_, ?_, fun id => ?_, fun hawake => ?_⟩, fun _ => rfl⟩,
    ?_, rfl, rfl, hpaced⟩
  · rw [hflow]
    split_ifs with hworker hblinks hidle hself
    · exact ⟨fun hreads => hreads.elim, fun hid => absurd (hworker.trans hid) (by decide)⟩
    · exact ⟨fun hreads => hreads.elim, fun hid => absurd (hblinks.trans hid) (by decide)⟩
    · exact ⟨fun hreads => hreads.elim, fun hid => absurd (hidle.trans hid) (by decide)⟩
    · exact ⟨fun _ => hself.symm, fun _ => trivial⟩
    · exact ⟨fun hreads => hreads.elim, fun hid => absurd hid.symm hself⟩
  · rw [hflow]
    rfl
  · rw [hflow]
    split_ifs
    · exact fits_start.2
    · exact fits_start.1
    · exact trivial
    · exact trivial
    · exact trivial
  · rw [hflow] at hawake
    exact absurd trivial hawake
  · rw [pending, hflow, unread]
    exact congrArg (List.filterMap typed) hmail

/-! ## Keystrokes -/

/-- What is seen of keystrokes after some stimuli. -/
structure KeystrokesKept (m : Machine) (reader : TaskId) (stimuli : List Stimulus) : Prop where
  /-- What the reader of the keyboard has shown, holds and has not taken yet are the characters of
  the keys that were pressed, in order. -/
  conserved : echoed (m.respondAll stimuli).1 ++
      ((m.respondAll stimuli).2.flowOf reader).held ++
      ((m.respondAll stimuli).2.kernel.tasks.value.mail reader).filterMap typed =
    (Keyboard.Decoder.start.reports (m.heardAll stimuli)).1.filterMap typedBy
  /-- The reader lives; and asleep, it waits for the worker or has taken every message. -/
  drained : ∃ task, (m.respondAll stimuli).2.kernel.tasks.value.find? reader = some task ∧
    (task.running = false → ¬ ((m.respondAll stimuli).2.flowOf reader).Awaits →
      task.mailbox.messages = [])
  /-- The machine runs as long as the clock fits its word, and while it runs it hears every byte. -/
  lasts : stimuli.length + 3 < Word.size → (m.respondAll stimuli).2.halted = false
  heard : (m.respondAll stimuli).2.halted = false →
    m.heardAll stimuli = stimuli.filterMap Stimulus.byte?

/-- **Keystrokes reach the console once and in order.** From the start, whatever steps the processor
takes, and whatever interrupts of the timer and the keyboard arrive between them: what was typed is
shown or on its way, in order. -/
theorem keystrokes_kept {firmware : Firmware} (h : (boot firmware).2 = some m)
    (stimuli : List Stimulus) : m.KeystrokesKept 1 stimuli := by
  obtain ⟨hready, hpending, hkeyboard, hruns, hpaced⟩ := ready_of_started (started_boot h)
  have hresponds := hready.responds_all stimuli
  have hconserved := hresponds.conserved
  rw [hpending, hkeyboard, pending, ← List.append_assoc, List.nil_append] at hconserved
  obtain ⟨task, hlive⟩ := Dispatcher.mem_tasks_iff.mp hresponds.ready.steady.reads
  refine ⟨hconserved, ⟨task, hlive, fun hasleep hlistens => ?_⟩, fun hroom => ?_,
    hready.heardAll_eq⟩
  · exact hresponds.ready.attentive hlistens task hlive hasleep
  · exact (hresponds.lasts 0 hpaced (by omega) hruns).1

/-- Two keys go down while the first task still waits for the worker. -/
theorem keystrokes_kept_early :
    ∃ m, (boot ⟨[⟨0, 0x1000000, .usable⟩], true, (0, 0)⟩).2 = some m ∧
      m.KeystrokesKept 1 [.key 0x23, .step, .key 0x17] := by
  have hboots : (boot ⟨[⟨0, 0x1000000, .usable⟩], true, (0, 0)⟩).2.isSome = true := by
    decide +kernel
  obtain ⟨m, hm⟩ := Option.isSome_iff_exists.mp hboots
  exact ⟨m, hm, keystrokes_kept hm _⟩

end Machine

end TaskKernel
