import TaskKernel.Proofs.Flows
import TaskKernel.Proofs.HeldKeys

/-!
# How the machine responds to stimuli

Between two stimuli the demonstration goes on if the kernel is steady, only one task reads the
keyboard and it does not sleep over a message, and one task idles (`Demonstrates`). What is pending
is the character that the reader holds, and behind it those in its mailbox (`pending`).

* `Demonstrates.proceed` — a step shows what the executing task held, and loses nothing;
* `handles_timer`, `handles_keyboard` — so does the handler of the timer; that of the keyboard puts
  what was typed behind all that is pending;
* `Ready.responds` — so every stimulus conserves what was typed and leaves the machine ready for the
  next one; only a clock that does not fit its word any more stops it;
* `Ready.responds_all` — hence all stimuli do, in any order and number.
-/

namespace TaskKernel

namespace Machine

open Dispatcher Scheduler

variable {m m' m'' : Machine} {reader idler id : TaskId} {new : List UInt8}

/-! ## Between two stimuli -/

/-- What a task does next; a task of which nothing is known idles. -/
def flowOf (m : Machine) (id : TaskId) : Flow := m.flows[id]?.getD .idling

/-- The characters that the reader of the keyboard has not shown yet: the one that it holds, and
those that wait in its mailbox. -/
def pending (m : Machine) (reader : TaskId) : List UInt8 :=
  (m.flowOf reader).held ++ unread m.kernel.tasks.value reader

/-- One task reads the keyboard and does not sleep over a message, unless it waits for another one;
one task idles; the kernel is steady; and whatever a task computes fits its words. -/
structure Demonstrates (m : Machine) (reader idler : TaskId) : Prop where
  steady : m.kernel.Steady reader idler m.executing
  reads_iff : ∀ id, (m.flowOf id).Reads ↔ id = reader
  idles : m.flowOf idler = .idling
  fits : ∀ id, (m.flowOf id).Fits
  attentive : ¬ (m.flowOf reader).Awaits → m.kernel.tasks.value.Attentive reader

/-- So it is, and as long as the machine runs, every interrupt was acknowledged. -/
structure Ready (m : Machine) (reader idler : TaskId) : Prop
    extends m.Demonstrates reader idler where
  acknowledged : m.halted = false → m.controller = Controller.start

/-- What the processor's own flag and the devices hold does not matter to the tasks. -/
theorem Demonstrates.congr (h : m.Demonstrates reader idler) (interrupts : Bool)
    (hkernel : m'.kernel = { m.kernel with interrupts }) (hexecuting : m'.executing = m.executing)
    (hflows : m'.flows = m.flows) : m'.Demonstrates reader idler := by
  have hflowOf : ∀ id, m'.flowOf id = m.flowOf id := fun id => by rw [flowOf, hflows, flowOf]
  refine ⟨?_, ?_, ?_, ?_, ?_⟩
  · rw [hkernel, hexecuting]
    exact h.steady.mask interrupts
  · simpa only [hflowOf] using h.reads_iff
  · rw [hflowOf, h.idles]
  · simpa only [hflowOf] using h.fits
  · rw [hflowOf, hkernel]
    exact h.attentive

/-! ## A step -/

theorem flowOf_insert (m : Machine) (id : TaskId) (flow : Flow) (x : TaskId) :
    ({ m with flows := m.flows.insert id flow } : Machine).flowOf x =
      if id = x then flow else m.flowOf x := by
  unfold flowOf
  simp only [Std.ExtTreeMap.getElem?_insert, Nat.compare_eq_eq]
  split <;> rfl

/-- The flow of the executing task goes on; the others' flows are as they were. -/
def proceed (outcome : Outcome Kernel.Exit Effect Machine Flow) (id : TaskId) :
    Outcome Kernel.Exit Effect Machine Unit :=
  outcome.bind fun next m => .done { m with flows := m.flows.insert id next } ()

theorem step_eq (h : m.halted = false) :
    m.step = settle (proceed (m.flow.take m.executing m) m.executing) := by
  rw [step, h]
  rfl

variable {outcome : Outcome Kernel.Exit Effect Machine Flow}

theorem echoed_proceed (outcome : Outcome Kernel.Exit Effect Machine Flow) (id : TaskId) :
    echoed (proceed outcome id).events = echoed outcome.events := by
  unfold proceed Outcome.bind
  cases outcome.answer with
  | error cause => rfl
  | ok next => simp only [Outcome.done, List.append_nil]

theorem answer_proceed_eq_stop_iff {id : TaskId} {cause : Stop} :
    (proceed outcome id).answer = .error (.stop cause) ↔ outcome.answer = .error (.stop cause) := by
  unfold proceed Outcome.bind
  cases outcome.answer with
  | error cause => simp only [Except.error.injEq]
  | ok next => simp only [Outcome.done, reduceCtorEq]

theorem state_proceed (outcome : Outcome Kernel.Exit Effect Machine Flow) (id : TaskId) :
    ∃ flows, (proceed outcome id).state = { outcome.state with flows } ∧
      ∀ x, (proceed outcome id).state.flowOf x =
        if id = x then (outcome.state.flowOf id).after outcome else outcome.state.flowOf x := by
  unfold proceed Outcome.bind Flow.after
  cases outcome.answer with
  | error cause =>
      refine ⟨outcome.state.flows, rfl, fun x => ?_⟩
      by_cases hx : id = x
      · rw [if_pos hx, hx]
        rfl
      · rw [if_neg hx]
  | ok next => exact ⟨_, rfl, flowOf_insert _ id next⟩

theorem Flow.held_of_not_reads {flow : Flow} (h : ¬ flow.Reads) : flow.held = [] := by
  cases flow with
  | echoing character => exact absurd trivial h
  | awaiting | announcing | listening | idling | blinking | arming | watching | dotting | summing
  | ending => rfl

theorem Flow.reads_of_awaits {flow : Flow} (h : flow.Awaits) : flow.Reads := by
  cases flow with
  | awaiting worker => exact trivial
  | announcing | listening | echoing | idling | blinking | arming | watching | dotting | summing
  | ending => exact h.elim

/-- What the executing task does in a step keeps the demonstration going, and no character is lost,
doubled or passed by another one. -/
theorem Demonstrates.proceed (h : m.Demonstrates reader idler)
    (hgoes : m.Goes reader idler m.flow outcome) :
    (proceed outcome m.executing).state.Demonstrates reader idler ∧
      echoed (proceed outcome m.executing).events ++
        (proceed outcome m.executing).state.pending reader = m.pending reader := by
  obtain ⟨flows, hstate, hflow⟩ := state_proceed outcome m.executing
  have hflowOf : ∀ x, (Machine.proceed outcome m.executing).state.flowOf x =
      if m.executing = x then m.flow.after outcome else m.flowOf x := by
    intro x
    rw [hflow, hgoes.rest]
    rfl
  have hkernel : (Machine.proceed outcome m.executing).state.kernel = outcome.state.kernel := by
    rw [hstate]
  have hreads : m.flow.Reads ↔ m.executing = reader := h.reads_iff m.executing
  refine ⟨⟨?_, fun x => ?_, ?_, fun x => ?_, fun hawake => ?_⟩, ?_⟩
  · rw [hstate]
    exact hgoes.steady
  · rw [hflowOf]
    by_cases hx : m.executing = x
    · rw [if_pos hx, hgoes.reads_iff, hreads, hx]
    · rw [if_neg hx]
      exact h.reads_iff x
  · rw [hflowOf]
    by_cases hx : m.executing = idler
    · rw [if_pos hx]
      exact hgoes.idles ((congrArg m.flowOf hx).trans h.idles)
    · rw [if_neg hx, h.idles]
  · rw [hflowOf]
    by_cases hx : m.executing = x
    · rw [if_pos hx]
      exact hgoes.fits
    · rw [if_neg hx]
      exact h.fits x
  · rw [hflowOf] at hawake
    rw [hkernel]
    by_cases hx : m.executing = reader
    · rw [if_pos hx] at hawake
      exact hgoes.attentive (fun hbusy => h.attentive (hx ▸ hbusy)) hawake
    · rw [if_neg hx] at hawake
      refine hgoes.attentive (fun _ => h.attentive hawake) fun hawaits => hx ?_
      exact hreads.mp (hgoes.reads_iff.mp (Flow.reads_of_awaits hawaits))
  · rw [echoed_proceed, hgoes.echoed_eq, pending, pending, hflowOf, hkernel]
    by_cases hx : m.executing = reader
    · rw [if_pos hx, hgoes.unread_eq, ← hx]
      rfl
    · have hforeign : ¬ m.flow.Reads := fun hself => hx (hreads.mp hself)
      have hunread := hgoes.unread_eq
      rw [Flow.held_of_not_reads (fun hself => hforeign (hgoes.reads_iff.mp hself)),
        List.nil_append] at hunread
      rw [if_neg hx, Flow.held_of_not_reads hforeign, List.nil_append, hunread]

/-! ## After the machine did something -/

/-- What the machine makes of how something ended: the processor's own flag may change, and the
machine stops on a fault. -/
theorem settle_spec (outcome : Outcome Kernel.Exit Effect Machine Unit) :
    ∃ interrupts halted, (settle outcome).2 = { outcome.state with
        kernel := { outcome.state.kernel with interrupts }, halted } ∧
      echoed (settle outcome).1 = echoed outcome.events ∧
      (halted = false → outcome.state.halted = false ∧
        ∀ cause, outcome.answer ≠ .error (.stop cause)) ∧
      ((∀ cause, outcome.answer ≠ .error (.stop cause)) → halted = outcome.state.halted) := by
  unfold settle
  cases hanswer : outcome.answer with
  | ok _ =>
      exact ⟨outcome.state.kernel.interrupts, outcome.state.halted, rfl, rfl, by simp, by simp⟩
  | error cause =>
      cases cause with
      | resumed next => exact ⟨true, outcome.state.halted, rfl, rfl, by simp, by simp⟩
      | spinning =>
          exact ⟨outcome.state.kernel.interrupts, outcome.state.halted, rfl, rfl, by simp, by simp⟩
      | stop cause =>
          refine ⟨false, true, rfl, ?_, nofun, fun hgoes => absurd rfl (hgoes cause)⟩
          simp only [giveUp, echoed_append]
          exact List.append_nil _

/-! ## One stimulus -/

/-- The byte of the keyboard that the machine takes in. Once it has stopped it takes none. -/
def heard (m : Machine) : Stimulus → List UInt8
  | .key byte => if m.halted then [] else [byte]
  | .step | .timer => []

/-- The character that a report types: that of a key that goes down, if it has one. -/
def typedBy (report : KeyPush) : Option UInt8 := typed { payload := .keyPush report }

/-- Two keys go down, one after the other, and the first one goes up. -/
example : (Keyboard.Decoder.start.reports [0x23, 0x17, 0xa3]).1.filterMap typedBy = [104, 105] := by
  decide +kernel

/-- What so many stimuli lead to, of which the keyboard's bring these bytes: what was pending and
what is typed is shown or still pending, in order; the demonstration goes on; and as long as the
clock fits its word, so does the machine. -/
structure Responds (m : Machine) (reader idler : TaskId) (count : Nat) (bytes : List UInt8)
    (response : List Effect × Machine) : Prop where
  ready : response.2.Ready reader idler
  conserved : echoed response.1 ++ response.2.pending reader =
    m.pending reader ++ (m.keyboard.reports bytes).1.filterMap typedBy
  keyboard_eq : response.2.keyboard = (m.keyboard.reports bytes).2
  ran : response.2.halted = false → m.halted = false
  lasts : ∀ n, m.kernel.timers.value.Paced n → n + count + 3 < Word.size → m.halted = false →
    response.2.halted = false ∧ response.2.kernel.timers.value.Paced (n + count)

theorem pending_congr {interrupts : Bool} (hkernel : m'.kernel = { m.kernel with interrupts })
    (hflows : m'.flows = m.flows) (reader : TaskId) : m'.pending reader = m.pending reader := by
  rw [pending, pending, flowOf, flowOf, hkernel, hflows]

theorem Ready.responds_stopped (h : m.Ready reader idler) (hhalted : m.halted = true) :
    m.Responds reader idler 1 [] ([], m) := by
  refine ⟨h, (List.append_nil _).symm, rfl, id, fun _ _ _ hruns => ?_⟩
  exact nomatch hhalted.symm.trans hruns

/-- How something that keeps the demonstration going is settled. -/
theorem responds_settle {outcome : Outcome Kernel.Exit Effect Machine Unit} {bytes : List UInt8}
    (hdemonstrates : outcome.state.Demonstrates reader idler)
    (hconserved : echoed outcome.events ++ outcome.state.pending reader =
      m.pending reader ++ (m.keyboard.reports bytes).1.filterMap typedBy)
    (hkeyboard : outcome.state.keyboard = (m.keyboard.reports bytes).2)
    (hhalted : outcome.state.halted = m.halted)
    (hacknowledged : (∀ cause, outcome.answer ≠ .error (.stop cause)) → m.halted = false →
      outcome.state.controller = Controller.start)
    (hlasts : ∀ n, m.kernel.timers.value.Paced n → n + 4 < Word.size →
      (∀ cause, outcome.answer ≠ .error (.stop cause)) ∧
        outcome.state.kernel.timers.value.Paced (n + 1)) :
    m.Responds reader idler 1 bytes (settle outcome) := by
  obtain ⟨interrupts, halted, hstate, hechoed, hran, hgoes⟩ := settle_spec outcome
  refine ⟨⟨?_, ?_⟩, ?_, ?_, ?_, ?_⟩
  · rw [hstate]
    exact hdemonstrates.congr interrupts rfl rfl rfl
  · rw [hstate]
    intro hruns
    obtain ⟨hbefore, hanswer⟩ := hran hruns
    exact hacknowledged hanswer (hhalted ▸ hbefore)
  · have hpending : (settle outcome).2.pending reader = outcome.state.pending reader :=
      pending_congr (congrArg kernel hstate) (congrArg flows hstate) reader
    rw [hechoed, hpending, hconserved]
  · rw [hstate]
    exact hkeyboard
  · rw [hstate]
    exact fun hruns => hhalted ▸ (hran hruns).1
  · intro n hpaced hroom hruns
    obtain ⟨hanswer, hpaced'⟩ := hlasts n hpaced hroom
    rw [hstate]
    exact ⟨(hgoes hanswer).trans (hhalted.trans hruns), hpaced'⟩

theorem Ready.responds_step (h : m.Ready reader idler) : m.Responds reader idler 1 [] m.step := by
  cases hhalted : m.halted with
  | true =>
      have hstep : m.step = ([], m) := by rw [step, if_pos hhalted]
      rw [hstep]
      exact h.responds_stopped hhalted
  | false =>
      have hgoes : m.Goes reader idler m.flow (m.flow.take m.executing m) :=
        goes_take h.steady (h.reads_iff m.executing)
          (fun hx => (congrArg m.flowOf hx).trans h.idles) (h.fits m.executing)
      obtain ⟨hdemonstrates, hconserved⟩ := h.toDemonstrates.proceed hgoes
      obtain ⟨flows, hstate, _⟩ := state_proceed (m.flow.take m.executing m) m.executing
      rw [step_eq hhalted]
      refine responds_settle hdemonstrates ?_ ?_ ?_ ?_ ?_
      · rw [hconserved]
        exact (List.append_nil _).symm
      · rw [hstate, hgoes.rest]
        rfl
      · rw [hstate, hgoes.rest]
      · intro _ _
        rw [hstate, hgoes.rest]
        exact h.acknowledged hhalted
      · intro n hpaced hroom
        obtain ⟨hlasts, hpaced'⟩ := hgoes.paced n hpaced hroom
        rw [hstate]
        exact ⟨fun cause hstop => hlasts cause (answer_proceed_eq_stop_iff.mp hstop), hpaced'⟩

/-! ## Interrupts -/

variable {α : Type} {operation : Operation}

theorem Carries.demonstrates {outcome : Outcome Kernel.Exit Effect Machine α}
    (hcarries : m.Carries reader idler operation outcome) (h : m.Demonstrates reader idler)
    (hspares : ¬ operation.Lulls m.kernel.tasks.value reader) :
    outcome.state.Demonstrates reader idler := by
  have hflowOf : ∀ id, outcome.state.flowOf id = m.flowOf id := by
    intro id
    rw [hcarries.rest]
    rfl
  refine ⟨hcarries.steady, ?_, ?_, ?_, ?_⟩
  · simpa only [hflowOf] using h.reads_iff
  · rw [hflowOf, h.idles]
  · simpa only [hflowOf] using h.fits
  · rw [hflowOf]
    exact fun hawake => hcarries.attentive h.steady hspares (h.attentive hawake)

theorem Carries.pending_eq {outcome : Outcome Kernel.Exit Effect Machine α}
    (hcarries : m.Carries reader idler operation outcome) (h : m.Demonstrates reader idler)
    (hlasts : ∀ code, operation ≠ .exit code)
    (hreceived : m.kernel.scheduler.received reader operation = []) :
    outcome.state.pending reader = m.pending reader ++
      (m.kernel.scheduler.accepted reader operation).filterMap typed := by
  have hunread : _ ++ unread (m.kernel.scheduler.perform operation).state.tasks reader =
      unread m.kernel.tasks.value reader ++ _ :=
    unread_perform h.steady.accounted fun code hexit => absurd hexit (hlasts code)
  rw [hreceived, List.filterMap_nil, List.nil_append] at hunread
  have hheld : outcome.state.flowOf reader = m.flowOf reader := by
    rw [hcarries.rest]
    rfl
  rw [pending, pending, hheld, hcarries.tasks_eq, hunread, List.append_assoc]

/-- What a handler does: it keeps the demonstration going, tells the controller, and shows nothing
that was typed. -/
structure Handles (m : Machine) (reader idler : TaskId) (new : List UInt8)
    (keyboard : Keyboard.Decoder) (outcome : Outcome Kernel.Exit Effect Machine Unit) : Prop where
  demonstrates : outcome.state.Demonstrates reader idler
  silent : echoed outcome.events = []
  pending_eq : outcome.state.pending reader = m.pending reader ++ new
  keyboard_eq : outcome.state.keyboard = keyboard
  halted_eq : outcome.state.halted = m.halted
  acknowledged : (∀ cause, outcome.answer ≠ .error (.stop cause)) →
    outcome.state.controller = m.controller.acknowledge
  paced : ∀ n, m.kernel.timers.value.Paced n → n + 4 < Word.size →
    (∀ cause, outcome.answer ≠ .error (.stop cause)) ∧
      outcome.state.kernel.timers.value.Paced (n + 1)

theorem Carries.paced {outcome : Outcome Kernel.Exit Effect Machine α}
    (hcarries : m.Carries reader idler operation outcome)
    (hregular : operation.Regular reader idler m.executing) {n : Nat}
    (hpaced : m.kernel.timers.value.Paced n) (hroom : n + 4 < Word.size) :
    outcome.state.kernel.timers.value.Paced (n + 1) := by
  have htimers : outcome.state.kernel.timers.value =
      (m.kernel.scheduler.perform operation).state.timers :=
    congrArg Scheduler.timers hcarries.scheduler_eq
  rw [htimers]
  exact paced_perform hregular hpaced hroom

theorem demonstrates_acknowledge (h : m.Demonstrates reader idler) :
    (acknowledge m).state.Demonstrates reader idler :=
  h.congr m.kernel.interrupts rfl rfl rfl

/-- The second part of the timer's handler: the controller is told, and if a decision is due the
executing task's turn is over. -/
def endTurn (due : Bool) : Work Unit := do
  acknowledge
  if due then call (Kernel.preempt Context.zero)

theorem handles_endTurn (h : m.Demonstrates reader idler) (due : Bool) :
    m.Handles reader idler [] m.keyboard (endTurn due m) ∧
      (∀ cause, (endTurn due m).answer ≠ .error (.stop cause)) ∧
      (endTurn due m).state.kernel.timers.value = m.kernel.timers.value := by
  cases due with
  | false =>
      have hlasts : ∀ cause, (endTurn false m).answer ≠ .error (.stop cause) := fun _ => nofun
      refine ⟨⟨demonstrates_acknowledge h, rfl, (List.append_nil _).symm, rfl, rfl, fun _ => rfl,
        ?_⟩, hlasts, rfl⟩
      exact fun n hpaced _ => ⟨hlasts, hpaced.succ⟩
  | true =>
      have hacknowledged := demonstrates_acknowledge h
      have hcarries := carries_call (Kernel.steady_preempt hacknowledged.steady Context.zero)
      have hturn : endTurn true m =
          (call (Kernel.preempt Context.zero) (acknowledge m).state).after acknowledgement := rfl
      have hpending := hcarries.pending_eq hacknowledged nofun rfl
      have htimers : (call (Kernel.preempt Context.zero)
          (acknowledge m).state).state.kernel.timers.value = m.kernel.timers.value :=
        congrArg Scheduler.timers hcarries.scheduler_eq
      have hlasts : ∀ cause, (endTurn true m).answer ≠ .error (.stop cause) := by
        intro cause hstop
        rcases Kernel.answer_preempt hacknowledged.steady.idle Context.zero with
          hok | ⟨next, hresumed⟩
        · exact nomatch hok.symm.trans hstop
        · exact nomatch hresumed.symm.trans hstop
      rw [hturn]
      refine ⟨⟨hcarries.demonstrates hacknowledged fun hlulls => hlulls, ?_, ?_, ?_, ?_, ?_, ?_⟩,
        hlasts, htimers⟩
      · exact (echoed_append _ _).trans hcarries.silent
      · exact hpending
      · rw [Outcome.state_after, hcarries.rest]
        rfl
      · rw [Outcome.state_after, hcarries.rest]
        rfl
      · intro _
        rw [Outcome.state_after, hcarries.rest]
        rfl
      · intro n hpaced _
        refine ⟨hlasts, ?_⟩
        rw [Outcome.state_after, htimers]
        exact hpaced.succ

theorem answer_tick_of_paced {s : Scheduler} {n : Nat} (h : s.timers.Paced n)
    (hroom : n + 4 < Word.size) : ∃ due, s.tick.answer = .ok due := by
  obtain ⟨due, hanswer, _⟩ := Outcome.answer_map_eq_ok_iff.mp (perform_tick (h.fits hroom)).1
  exact ⟨due, hanswer⟩

/-- The timer's handler, of which the first part was a tick. -/
theorem Carries.handles {first : Outcome Kernel.Exit Effect Machine Bool}
    {continuation : Bool → Machine → Outcome Kernel.Exit Effect Machine Unit}
    (hcarries : m.Carries reader idler .tick first) (h : m.Demonstrates reader idler)
    (hanswer : first.answer = m.kernel.scheduler.tick.answer.mapError .stop)
    (hcontinuation : ∀ due, continuation due first.state = endTurn due first.state) :
    m.Handles reader idler [] m.keyboard (first.bind continuation) := by
  have hregular : Operation.tick.Regular reader idler m.executing := trivial
  have hdemonstrates := hcarries.demonstrates h fun hlulls => hlulls
  have hsilent : (m.kernel.scheduler.accepted reader .tick).filterMap typed = [] :=
    typed_accepted nofun
  have hpending := hcarries.pending_eq h nofun rfl
  rw [hsilent] at hpending
  cases hticked : m.kernel.scheduler.tick.answer with
  | error cause =>
      -- The clock does not fit its word any more.
      rw [hticked] at hanswer
      rw [Outcome.bind_of_error hanswer]
      refine ⟨hdemonstrates, hcarries.silent, hpending, ?_, ?_, ?_, ?_⟩
      · simp only
        rw [hcarries.rest]
      · simp only
        rw [hcarries.rest]
      · exact fun hgoes => absurd rfl (hgoes cause)
      · intro n hpaced hroom
        obtain ⟨due, hfits⟩ := answer_tick_of_paced (s := m.kernel.scheduler) hpaced hroom
        exact nomatch hticked.symm.trans hfits
  | ok due =>
      rw [hticked] at hanswer
      obtain ⟨hturn, hlasts, htimers⟩ := handles_endTurn hdemonstrates due
      rw [Outcome.bind_of_ok hanswer, hcontinuation]
      refine ⟨hturn.demonstrates, ?_, hturn.pending_eq.trans ?_, hturn.keyboard_eq.trans ?_,
        hturn.halted_eq.trans ?_, fun hgoes => (hturn.acknowledged hgoes).trans ?_, ?_⟩
      · show echoed (_ ++ _) = []
        rw [echoed_append, hcarries.silent, hturn.silent]
        rfl
      · rw [hpending, List.append_nil]
      · rw [hcarries.rest]
      · rw [hcarries.rest]
      · rw [hcarries.rest]
      · intro n hpaced hroom
        refine ⟨hlasts, ?_⟩
        rw [Outcome.state_after, htimers]
        exact hcarries.paced hregular hpaced hroom

theorem handles_timer (h : m.Demonstrates reader idler) :
    m.Handles reader idler [] m.keyboard (handleTimer m) :=
  (carries_call (Kernel.steady_tick h.steady)).handles h (Kernel.answer_tick h.steady.idle)
    fun _ => rfl

/-- The machine after it has read the keyboard. -/
def afterReading (m : Machine) : Machine :=
  { m with keyboard := (m.keyboard.feed m.keyboardData).2 }

/-- The keyboard's handler, if the reader of the keyboard could be told. -/
theorem handleKeyboard_of_ok {delivery : Kernel.Delivery}
    (hanswer : (call (Kernel.deliver (m.keyboard.feed m.keyboardData).1) m.afterReading).answer =
      .ok delivery) (hsent : ∀ focus cause, delivery ≠ .dropped focus cause) :
    handleKeyboard m =
      (acknowledge
        (call (Kernel.deliver (m.keyboard.feed m.keyboardData).1) m.afterReading).state).after
          (call (Kernel.deliver (m.keyboard.feed m.keyboardData).1) m.afterReading).events := by
  simp only [handleKeyboard, Act.bind_apply, readKeyboard]
  refine (Outcome.done_bind m.afterReading (m.keyboard.feed m.keyboardData).1 _).trans ?_
  simp only [Act.bind_apply]
  refine (Outcome.bind_of_ok hanswer _).trans ?_
  cases delivery with
  | nothing | noFocus | sent => rfl
  | dropped focus cause => exact absurd rfl (hsent focus cause)

/-- What the keyboard reports is typed. -/
theorem typed_accepted_report (h : m.Demonstrates reader idler) (report : KeyPush) :
    (m.kernel.scheduler.accepted reader (.send reader { payload := .keyPush report })).filterMap
      typed = [report].filterMap typedBy := by
  have hlive : reader ∈ m.kernel.scheduler.tasks.tasks := h.steady.reads
  rw [accepted_send, if_pos ⟨rfl, hlive⟩]
  rfl

theorem handles_keyboard (h : m.Demonstrates reader idler) :
    m.Handles reader idler ((m.keyboard.feed m.keyboardData).1.toList.filterMap typedBy)
      (m.keyboard.feed m.keyboardData).2 (handleKeyboard m) := by
  have hread : m.afterReading.Demonstrates reader idler := h.congr m.kernel.interrupts rfl rfl rfl
  cases hreport : (m.keyboard.feed m.keyboardData).1 with
  | none =>
      have hanswer : (call (Kernel.deliver (m.keyboard.feed m.keyboardData).1)
          m.afterReading).answer = .ok .nothing := by
        rw [hreport]
        rfl
      have hlasts : ∀ cause, (handleKeyboard m).answer ≠ .error (.stop cause) := by
        rw [handleKeyboard_of_ok hanswer nofun]
        exact fun _ => nofun
      rw [handleKeyboard_of_ok hanswer nofun, hreport] at hlasts ⊢
      refine ⟨demonstrates_acknowledge hread, rfl, (List.append_nil _).symm, rfl, rfl,
        fun _ => rfl, fun n hpaced _ => ⟨hlasts, hpaced.succ⟩⟩
  | some report =>
      obtain ⟨hperforms, hsent⟩ := Kernel.steady_deliver hread.steady report
      have hcarries := carries_call hperforms
      have hregular : (Operation.send reader { payload := .keyPush report }).Regular reader idler
        m.afterReading.executing := trivial
      have hanswer : (call (Kernel.deliver (m.keyboard.feed m.keyboardData).1)
          m.afterReading).answer = .ok .sent := by
        rw [hreport]
        exact hsent
      have hlasts : ∀ cause, (handleKeyboard m).answer ≠ .error (.stop cause) := by
        rw [handleKeyboard_of_ok hanswer nofun]
        exact fun _ => nofun
      have hpending := hcarries.pending_eq hread nofun rfl
      rw [typed_accepted_report hread] at hpending
      rw [handleKeyboard_of_ok hanswer nofun, hreport] at hlasts ⊢
      refine ⟨demonstrates_acknowledge (hcarries.demonstrates hread fun hlulls => hlulls), ?_,
        hpending, ?_, ?_, fun _ => ?_,
        fun n hpaced hroom => ⟨hlasts, hcarries.paced hregular hpaced hroom⟩⟩
      · exact (echoed_append _ _).trans (congrArg (· ++ _) hcarries.silent)
      · exact congrArg keyboard hcarries.rest
      · exact (congrArg halted hcarries.rest).trans rfl
      · exact congrArg (fun m => m.controller.acknowledge) hcarries.rest

/-! ### Requests -/

/-- The machine when a line's interrupt is delivered. -/
def entered (m : Machine) (line : Line) : Machine :=
  { m with
    controller := { Controller.start with inService := [line] }
    kernel := { m.kernel with interrupts := false } }

/-- The lines of the timer and the keyboard are open. -/
theorem request_start {line : Line} (hline : line = timerLine ∨ line = keyboardLine) :
    Controller.start.request line =
      (.delivered, { Controller.start with inService := [line] }) := by
  rcases hline with rfl | rfl
  · decide
  · decide

theorem interrupt_of_ready (h : m.controller = Controller.start) {line : Line}
    (hline : line = timerLine ∨ line = keyboardLine) :
    (m.interrupt line).2 =
      settle ((handler line (m.entered line)).mapState withInterruptsOn) := by
  unfold interrupt
  rw [h, request_start hline]
  rfl

theorem responds_of_handles (line : Line) (byte : UInt8) {bytes : List UInt8}
    {outcome : Outcome Kernel.Exit Effect Machine Unit}
    (hhandles : (({ m with keyboardData := byte } : Machine).entered line).Handles reader idler
      ((m.keyboard.reports bytes).1.filterMap typedBy) (m.keyboard.reports bytes).2 outcome) :
    m.Responds reader idler 1 bytes (settle (outcome.mapState withInterruptsOn)) := by
  refine responds_settle ?_ ?_ hhandles.keyboard_eq hhandles.halted_eq ?_ hhandles.paced
  · exact hhandles.demonstrates.congr true rfl rfl rfl
  · exact (congrArg (· ++ _) hhandles.silent).trans hhandles.pending_eq
  · exact fun hgoes _ => hhandles.acknowledged hgoes

theorem Ready.responds (h : m.Ready reader idler) (stimulus : Stimulus) :
    m.Responds reader idler 1 (m.heard stimulus) (m.respond stimulus) := by
  cases hhalted : m.halted with
  | true =>
      cases stimulus with
      | step => exact h.responds_step
      | timer =>
          rw [respond, if_pos hhalted]
          exact h.responds_stopped hhalted
      | key byte =>
          rw [respond, heard, if_pos hhalted, if_pos hhalted]
          exact h.responds_stopped hhalted
  | false =>
      have hruns : ¬ m.halted = true := by simp [hhalted]
      cases stimulus with
      | step => exact h.responds_step
      | timer =>
          rw [respond, if_neg hruns, interrupt_of_ready (h.acknowledged hhalted) (.inl rfl)]
          have hentered : (m.entered timerLine).Demonstrates reader idler :=
            h.toDemonstrates.congr false rfl rfl rfl
          exact responds_of_handles timerLine m.keyboardData (handles_timer hentered)
      | key byte =>
          rw [respond, heard, if_neg hruns, if_neg hruns]
          have hready : ({ m with keyboardData := byte } : Machine).controller = Controller.start :=
            h.acknowledged hhalted
          rw [interrupt_of_ready hready (.inr rfl)]
          have hentered : (({ m with keyboardData := byte } : Machine).entered
              keyboardLine).Demonstrates reader idler :=
            h.toDemonstrates.congr false rfl rfl rfl
          refine responds_of_handles keyboardLine byte ?_
          rw [Keyboard.Decoder.reports_singleton]
          exact handles_keyboard hentered

/-! ## Many stimuli -/

theorem Ready.responds_nil (h : m.Ready reader idler) : m.Responds reader idler 0 [] ([], m) :=
  ⟨h, (List.append_nil _).symm, rfl, id, fun _ hpaced _ hruns => ⟨hruns, hpaced⟩⟩

theorem Responds.trans {first second : Nat} {bytes others : List UInt8}
    {response next : List Effect × Machine} (h : m.Responds reader idler first bytes response)
    (hnext : response.2.Responds reader idler second others next) :
    m.Responds reader idler (first + second) (bytes ++ others)
      (response.1 ++ next.1, next.2) := by
  have hreports := m.keyboard.reports_append bytes others
  have hconserved := hnext.conserved
  rw [h.keyboard_eq] at hconserved
  refine ⟨hnext.ready, ?_, ?_, fun hruns => h.ran (hnext.ran hruns), ?_⟩
  · rw [hreports, List.filterMap_append, ← List.append_assoc (m.pending reader), ← h.conserved,
      List.append_assoc, ← hconserved, echoed_append, List.append_assoc]
  · rw [hreports, hnext.keyboard_eq, h.keyboard_eq]
  · intro n hpaced hroom hruns
    obtain ⟨hruns', hpaced'⟩ := h.lasts n hpaced (by omega) hruns
    rw [← Nat.add_assoc]
    exact hnext.lasts (n + first) hpaced' (by omega) hruns'

/-- The bytes of the keyboard that the machine takes in among several stimuli. -/
def heardAll (m : Machine) : List Stimulus → List UInt8
  | [] => []
  | stimulus :: rest => m.heard stimulus ++ (m.respond stimulus).2.heardAll rest

theorem Ready.responds_all (h : m.Ready reader idler) (stimuli : List Stimulus) :
    m.Responds reader idler stimuli.length (m.heardAll stimuli) (m.respondAll stimuli) := by
  induction stimuli generalizing m with
  | nil => exact h.responds_nil
  | cons stimulus rest ih =>
      have hfirst := h.responds stimulus
      have hall := hfirst.trans (ih hfirst.ready)
      rw [Nat.add_comm] at hall
      exact hall

/-- The byte that a stimulus brings. -/
def Stimulus.byte? : Stimulus → Option UInt8
  | .key byte => some byte
  | .step | .timer => none

/-- While the machine runs it takes in every byte. -/
theorem Ready.heardAll_eq (h : m.Ready reader idler) {stimuli : List Stimulus}
    (hruns : (m.respondAll stimuli).2.halted = false) :
    m.heardAll stimuli = stimuli.filterMap Stimulus.byte? := by
  induction stimuli generalizing m with
  | nil => rfl
  | cons stimulus rest ih =>
      have hfirst := h.responds stimulus
      have hruns' : ((m.respond stimulus).2.respondAll rest).2.halted = false := hruns
      have hnow := hfirst.ran ((hfirst.ready.responds_all rest).ran hruns')
      rw [heardAll, ih hfirst.ready hruns']
      cases stimulus with
      | step | timer => rfl
      | key byte =>
          rw [heard, hnow]
          rfl

end Machine

end TaskKernel
