import TaskKernel.Machine.Interrupts
import TaskKernel.Proofs.Cadence
import TaskKernel.Proofs.Calls
import TaskKernel.Proofs.Wakeups

/-!
# The steps of the demonstration's tasks

A step of a flow shows what the task held, calls the kernel at most once, and leaves the flow as it
goes on. For the task that reads the keyboard, what it holds afterwards is the first of what waited
for it; the other tasks neither hold nor take anything that was typed (`Goes`). There is one lemma
for each flow, from two general ones: of a step that leaves the kernel alone (`goes_still`), and of a
step that calls it (`Carries.goes`). `goes_take` is the case analysis.

* `Timers.Paced` — how far the clock and the numbers of the timers have run; while there is room, no
  operation of the demonstration stops on a fault (`paced_perform`);
* `unread_perform` — what is typed comes behind what waits in a mailbox, and the oldest is taken
  first.
-/

namespace TaskKernel

/-! ## The clock -/

namespace Timers

variable {t : Timers} {timer : Timer} {n : Nat}

/-- Neither the clock nor the numbers of the timers have run far beyond `n`, and the scheduler has
one timer at most. -/
structure Paced (t : Timers) (n : Nat) : Prop where
  now_le : t.now ≤ n
  serial_le : t.nextSerial ≤ n + 1
  period_le : t.period ≤ standardPeriod
  lone : t.armed.countP Timer.periodic ≤ 1

theorem Paced.succ (h : t.Paced n) : t.Paced (n + 1) :=
  ⟨Nat.le_succ_of_le h.now_le, Nat.le_succ_of_le h.serial_le, h.period_le, h.lone⟩

theorem Paced.add (h : t.Paced n) (huser : timer.periodic = false) :
    (t.add timer).Paced (n + 1) := by
  refine ⟨Nat.le_succ_of_le h.now_le, Nat.succ_le_succ h.serial_le, h.period_le, ?_⟩
  have hsame : ({ timer with serial := t.nextSerial } : Timer).periodic = false := huser
  show (insert _ t.armed).countP Timer.periodic ≤ 1
  rw [countP_insert, hsame]
  exact h.lone

theorem Paced.countP_due_le (h : t.Paced n) : t.due.countP Timer.periodic ≤ 1 :=
  (List.takeWhile_sublist _).countP_le.trans h.lone

theorem Paced.elapse (h : t.Paced n) : t.elapse.Paced (n + 1) := by
  obtain ⟨hserial, harmed⟩ :=
    renewAll_counts { t with now := t.now + 1, armed := t.later } t.due
  have hdue := h.countP_due_le
  have hserial_le := h.serial_le
  refine ⟨?_, ?_, ?_, ?_⟩
  · rw [now_elapse]
    exact Nat.succ_le_succ h.now_le
  · show t.elapse.nextSerial ≤ _
    rw [Timers.elapse, hserial]
    show t.nextSerial + _ ≤ _
    omega
  · rw [period_elapse]
    exact h.period_le
  · rw [Timers.elapse, harmed]
    show t.later.countP _ + t.due.countP _ ≤ 1
    rw [Nat.add_comm, ← List.countP_append, due_append_later]
    exact h.lone

/-- There is room for the next tick and what it arms. -/
theorem Paced.fits (h : t.Paced n) (hroom : n + 4 < Word.size) : t.Fits := by
  have hnow := h.now_le
  have hserial := h.serial_le
  have hdue := h.countP_due_le
  have hperiod : t.period ≤ 2 := h.period_le
  exact ⟨by omega, fun _ => ⟨by omega, by omega⟩⟩

end Timers

namespace Scheduler

open Timers

variable {s : Scheduler} {operation : Operation} {reader idler cpu id : TaskId} {n : Nat}

theorem paced_perform (hregular : operation.Regular reader idler cpu) (h : s.timers.Paced n)
    (hroom : n + 4 < Word.size) : (s.perform operation).state.timers.Paced (n + 1) := by
  by_cases htick : operation = .tick
  · subst htick
    rw [(perform_tick (h.fits hroom)).2.1]
    exact h.elapse
  · rw [timers_perform htick]
    cases harming : s.arming? operation with
    | none => exact h.succ
    | some timer =>
        have hstart : operation ≠ .startSchedule := by
          rintro rfl
          exact hregular
        exact h.add (periodic_of_arming hstart harming)

end Scheduler

/-! ## The characters that were typed -/

namespace Machine

open Dispatcher Scheduler

/-- The characters among some effects that are shown because they were typed. -/
def echoed (effects : List Effect) : List UInt8 :=
  effects.filterMap fun
    | .echo character => some character
    | _ => none

theorem echoed_append (first second : List Effect) :
    echoed (first ++ second) = echoed first ++ echoed second := List.filterMap_append

/-- The kernel itself shows nothing that was typed. -/
theorem echoed_shown (events : List Kernel.Event) : echoed (events.flatMap shown) = [] := by
  induction events with
  | nil => rfl
  | cons event rest ih =>
      rw [List.flatMap_cons, echoed_append, ih]
      cases event with
      | notice | entered | switched | resumed => rfl

/-- A message that a timer has expired types nothing. -/
theorem typed_mailFor (id : TaskId) (timers : List Timer) :
    (Timer.mailFor id timers).filterMap typed = [] := by
  refine List.filterMap_eq_nil_iff.mpr fun message hmem => ?_
  obtain ⟨timer, _, hmessage⟩ := List.mem_filterMap.mp hmem
  unfold Timer.message? at hmessage
  split at hmessage
  · exact nomatch hmessage
  · cases hmessage
    rfl

variable {s : Scheduler} {operation : Operation} {id : TaskId}

/-- The characters that were typed and wait in a task's mailbox. -/
def unread (d : Dispatcher) (id : TaskId) : List UInt8 := (d.mail id).filterMap typed

/-- What is typed comes behind what waits, and the oldest is taken first. -/
theorem unread_perform (haccounted : s.tasks.Accounted)
    (hlasts : ∀ code, operation = .exit code → s.tasks.executing? ≠ some id) :
    (s.received id operation).filterMap typed ++ unread (s.perform operation).state.tasks id =
      unread s.tasks id ++ (s.accepted id operation).filterMap typed := by
  have hmail := mail_perform haccounted hlasts
  unfold unread
  rw [← List.filterMap_append, ← List.filterMap_append, hmail]

/-- Only what is sent was typed. -/
theorem typed_accepted (hsend : ∀ target message, operation ≠ .send target message) :
    (s.accepted id operation).filterMap typed = [] := by
  cases operation with
  | send target message => exact absurd rfl (hsend target message)
  | tick =>
      show List.filterMap typed (if id ∈ s.tasks.tasks then _ else []) = []
      split
      · exact typed_mailFor id _
      · rfl
  | create | prepare | prepareWith | editContext | launch | wake | suspend | preempt | receive
  | receiveOrSuspend | exit | awaitExit | startSchedule | armAt | armAfter | restock => rfl

/-! ## Calls of the kernel -/

variable {α β : Type} {m : Machine} {reader idler : TaskId}

theorem foldl_follow (m : Machine) (events : List Kernel.Event) :
    events.foldl follow m = { m with executing := Kernel.processor m.executing events } := by
  induction events generalizing m with
  | nil => rfl
  | cons event rest ih =>
      rw [List.foldl_cons, ih]
      cases event with
      | notice | entered | switched | resumed => rfl

/-- The machine performs an operation of the scheduler, and shows nothing that was typed. -/
structure Carries (m : Machine) (reader idler : TaskId) (operation : Operation)
    (outcome : Outcome Kernel.Exit Effect Machine α) : Prop where
  rest : outcome.state =
    { m with kernel := outcome.state.kernel, executing := outcome.state.executing }
  scheduler_eq : outcome.state.kernel.scheduler = (m.kernel.scheduler.perform operation).state
  steady : outcome.state.kernel.Steady reader idler outcome.state.executing
  silent : echoed outcome.events = []

theorem state_call (method : Kernel.Method α) (m : Machine) :
    (call method m).state = { m with
      kernel := (method m.kernel).state
      executing := Kernel.processor m.executing (method m.kernel).events } :=
  foldl_follow _ _

theorem carries_call {method : Kernel.Method α}
    (h : m.kernel.Performs reader idler m.executing operation (method m.kernel)) :
    m.Carries reader idler operation (call method m) := by
  refine ⟨?_, ?_, ?_, echoed_shown _⟩
  · rw [state_call]
  · rw [state_call]
    exact h.scheduler_eq
  · rw [state_call]
    exact h.steady

/-! ## Flows -/

/-- The character that a task holds and has not shown yet. -/
def Flow.held : Flow → List UInt8
  | .echoing character => [character]
  | _ => []

/-- The flow is that of the task that reads the keyboard. -/
def Flow.Reads : Flow → Prop
  | .awaiting _ | .announcing .. | .listening | .echoing _ => True
  | _ => False

/-- The task waits for the end of another one. -/
def Flow.Awaits : Flow → Prop
  | .awaiting _ => True
  | _ => False

/-- What the flow is going to compute fits its words. -/
def Flow.Fits : Flow → Prop
  | .blinking milliseconds => ∃ period, blinkPeriod milliseconds = .ok period
  | .summing last => ∃ code, sumTo last = .ok code
  | _ => True

/-- The flow as it goes on after a step: as the step says, or as it was if the step did not end. -/
def Flow.after (flow : Flow) (outcome : Outcome Kernel.Exit Effect Machine Flow) : Flow :=
  outcome.answer.toOption.getD flow

/-- What a step of the executing task's flow does. -/
structure Goes (m : Machine) (reader idler : TaskId) (flow : Flow)
    (outcome : Outcome Kernel.Exit Effect Machine Flow) : Prop where
  rest : outcome.state =
    { m with kernel := outcome.state.kernel, executing := outcome.state.executing }
  steady : outcome.state.kernel.Steady reader idler outcome.state.executing
  /-- What was held is shown, and nothing else that was typed. -/
  echoed_eq : echoed outcome.events = flow.held
  /-- What is held afterwards was the first that waited. -/
  unread_eq : (flow.after outcome).held ++ unread outcome.state.kernel.tasks.value reader =
    unread m.kernel.tasks.value reader
  reads_iff : (flow.after outcome).Reads ↔ flow.Reads
  fits : (flow.after outcome).Fits
  idles : flow = .idling → flow.after outcome = .idling
  /-- Unless it waits for another task, the reader of the keyboard does not sleep over a message. -/
  attentive : (¬ flow.Awaits → m.kernel.tasks.value.Attentive reader) →
    ¬ (flow.after outcome).Awaits → outcome.state.kernel.tasks.value.Attentive reader
  paced : ∀ n, m.kernel.timers.value.Paced n → n + 4 < Word.size →
    (∀ cause, outcome.answer ≠ .error (.stop cause)) ∧
      outcome.state.kernel.timers.value.Paced (n + 1)

variable {flow : Flow} {outcome : Outcome Kernel.Exit Effect Machine Flow}

theorem after_of_ok {next : Flow} (h : outcome.answer = .ok next) (flow : Flow) :
    flow.after outcome = next := by
  rw [Flow.after, h]
  rfl

/-- A step that does not call the kernel. -/
theorem goes_still (next : Flow) (hm : m.kernel.Steady reader idler m.executing)
    (hstate : outcome.state = m) (hanswer : outcome.answer = .ok next)
    (hechoed : echoed outcome.events = flow.held) (hheld : next.held = [])
    (hreads : next.Reads ↔ flow.Reads) (hfits : next.Fits)
    (hidles : flow = .idling → next = .idling) (hawaits : ¬ flow.Awaits) :
    m.Goes reader idler flow outcome := by
  have hafter := after_of_ok hanswer flow
  refine ⟨?_, ?_, hechoed, ?_, ?_, ?_, ?_, ?_, ?_⟩
  · rw [hstate]
  · rw [hstate]
    exact hm
  · rw [hafter, hheld, hstate, List.nil_append]
  · rw [hafter]
    exact hreads
  · rw [hafter]
    exact hfits
  · rw [hafter]
    exact hidles
  · rw [hstate]
    exact fun hattentive _ => hattentive hawaits
  · intro n hpaced _
    rw [hanswer, hstate]
    exact ⟨fun cause => by simp, hpaced.succ⟩

theorem Carries.tasks_eq {outcome : Outcome Kernel.Exit Effect Machine α}
    (h : m.Carries reader idler operation outcome) :
    outcome.state.kernel.tasks.value = (m.kernel.scheduler.perform operation).state.tasks :=
  congrArg Scheduler.tasks h.scheduler_eq

theorem Carries.attentive {outcome : Outcome Kernel.Exit Effect Machine α}
    (h : m.Carries reader idler operation outcome)
    (hm : m.kernel.Steady reader idler m.executing)
    (hspares : ¬ operation.Lulls m.kernel.tasks.value reader)
    (hattentive : m.kernel.tasks.value.Attentive reader) :
    outcome.state.kernel.tasks.value.Attentive reader := by
  rw [h.tasks_eq]
  exact attentive_perform hm.accounted hattentive hspares

/-- A flow that calls the kernel goes on so after it has taken the characters in its messages. -/
structure Flow.Becomes (flow next : Flow) (taken : List UInt8) : Prop where
  holds_nothing : flow.held = []
  held_eq : next.held = taken
  reads_iff : next.Reads ↔ flow.Reads
  fits : next.Fits
  busy : flow ≠ .idling

/-- A step that calls the kernel. -/
theorem Carries.goes (h : m.Carries reader idler operation outcome)
    (hm : m.kernel.Steady reader idler m.executing)
    (hregular : operation.Regular reader idler m.executing)
    (hsend : ∀ target message, operation ≠ .send target message)
    (hbecomes : flow.Becomes (flow.after outcome)
      ((m.kernel.scheduler.received reader operation).filterMap typed))
    (hattentive : (¬ flow.Awaits → m.kernel.tasks.value.Attentive reader) →
      ¬ (flow.after outcome).Awaits → outcome.state.kernel.tasks.value.Attentive reader)
    (hstop : ∀ n, m.kernel.timers.value.Paced n → n + 4 < Word.size →
      ∀ cause, outcome.answer ≠ .error (.stop cause)) :
    m.Goes reader idler flow outcome := by
  refine ⟨h.rest, h.steady, h.silent.trans hbecomes.holds_nothing.symm, ?_, hbecomes.reads_iff,
    hbecomes.fits, fun hidles => absurd hidles hbecomes.busy, hattentive, ?_⟩
  · have hlasts : ∀ code, operation = .exit code →
        m.kernel.scheduler.tasks.executing? ≠ some reader := by
      rintro code rfl hx
      exact hregular.2 (Option.some.inj (hm.executing.symm.trans hx))
    have hunread := unread_perform hm.accounted hlasts
    rw [typed_accepted hsend, List.append_nil] at hunread
    rw [hbecomes.held_eq, h.tasks_eq]
    exact hunread
  · intro n hpaced hroom
    refine ⟨hstop n hpaced hroom, ?_⟩
    have htimers : outcome.state.kernel.timers.value =
        (m.kernel.scheduler.perform operation).state.timers :=
      congrArg Scheduler.timers h.scheduler_eq
    rw [htimers]
    exact paced_perform hregular hpaced hroom

/-- What follows a call and only answers leaves the machine as the call did. -/
theorem Carries.goes_of_ok {first : Outcome Kernel.Exit Effect Machine α} {value : α}
    {continuation : α → Machine → Outcome Kernel.Exit Effect Machine Flow}
    (h : m.Carries reader idler operation first) (next : Flow)
    (hanswer : first.answer = .ok value)
    (hnext : continuation value first.state = .done first.state next)
    (hm : m.kernel.Steady reader idler m.executing)
    (hregular : operation.Regular reader idler m.executing)
    (hsend : ∀ target message, operation ≠ .send target message)
    (hbecomes : flow.Becomes next
      ((m.kernel.scheduler.received reader operation).filterMap typed))
    (hattentive : (¬ flow.Awaits → m.kernel.tasks.value.Attentive reader) →
      ¬ next.Awaits → first.state.kernel.tasks.value.Attentive reader) :
    m.Goes reader idler flow (first.bind continuation) := by
  have hbind : first.bind continuation =
      { answer := .ok next, state := first.state, events := first.events } := by
    rw [Outcome.bind_of_ok hanswer, hnext]
    exact congrArg (Outcome.mk _ _) (List.append_nil _)
  rw [hbind]
  have hcarries : m.Carries reader idler operation
      ({ answer := .ok next, state := first.state, events := first.events } :
        Outcome Kernel.Exit Effect Machine Flow) :=
    ⟨h.rest, h.scheduler_eq, h.steady, h.silent⟩
  exact hcarries.goes hm hregular hsend hbecomes hattentive fun _ _ _ _ => by simp

/-- Nothing follows a call that does not return. -/
theorem Carries.goes_of_error {first : Outcome Kernel.Exit Effect Machine α} {cause : Kernel.Exit}
    (h : m.Carries reader idler operation first) (hanswer : first.answer = .error cause)
    (continuation : α → Machine → Outcome Kernel.Exit Effect Machine Flow)
    (hm : m.kernel.Steady reader idler m.executing)
    (hregular : operation.Regular reader idler m.executing)
    (hsend : ∀ target message, operation ≠ .send target message)
    (hbecomes : flow.Becomes flow
      ((m.kernel.scheduler.received reader operation).filterMap typed))
    (hattentive : (¬ flow.Awaits → m.kernel.tasks.value.Attentive reader) →
      ¬ flow.Awaits → first.state.kernel.tasks.value.Attentive reader)
    (hstop : ∀ n, m.kernel.timers.value.Paced n → n + 4 < Word.size →
      ∀ stop, cause ≠ .stop stop) :
    m.Goes reader idler flow (first.bind continuation) := by
  rw [Outcome.bind_of_error hanswer]
  have hcarries : m.Carries reader idler operation
      ({ answer := .error cause, state := first.state, events := first.events } :
        Outcome Kernel.Exit Effect Machine Flow) :=
    ⟨h.rest, h.scheduler_eq, h.steady, h.silent⟩
  refine hcarries.goes hm hregular hsend hbecomes hattentive fun n hpaced hroom stop hstopped => ?_
  exact hstop n hpaced hroom stop (Except.error.inj hstopped)

/-! ## The reader's steps -/

theorem attentive_of_executing {d : Dispatcher} (haccounted : d.Accounted)
    (hx : d.executing? = some reader) : d.Attentive reader := by
  intro task hlive hsleeps
  obtain ⟨awake, hawake, hrunning, _⟩ := haccounted.executing_live hx
  rw [Option.some.inj (hlive.symm.trans hawake), hrunning] at hsleeps
  exact nomatch hsleeps

theorem goes_awaiting (hm : m.kernel.Steady reader idler m.executing) (hother : m.executing ≠ idler)
    (hself : m.executing = reader) (worker : TaskId) :
    m.Goes reader idler (.awaiting worker) ((Flow.awaiting worker).take m.executing m) := by
  obtain ⟨hperforms, result, hresult, hstays⟩ := Kernel.steady_exitAttempt hm hother worker
  have hcarries : m.Carries reader idler (.awaitExit m.executing worker)
      (call (Kernel.attempt (Kernel.exitAttempt worker)) m) :=
    carries_call ⟨hperforms.scheduler_eq, hperforms.steady⟩
  have hregular : (Operation.awaitExit m.executing worker).Regular reader idler m.executing :=
    ⟨rfl, hother⟩
  have hanswer : (call (Kernel.attempt (Kernel.exitAttempt worker)) m).answer = .ok result := hresult
  -- Whoever is told goes on executing.
  have hawake (htold : result ≠ .ok none) :
      (call (Kernel.attempt (Kernel.exitAttempt worker)) m).state.kernel.tasks.value.Attentive
        reader := by
    refine attentive_of_executing hcarries.steady.accounted ?_
    rw [state_call]
    exact (hstays htold).trans (congrArg some hself)
  simp only [Flow.take, Act.bind_apply]
  match result with
  | .ok none =>
      exact hcarries.goes_of_ok _ hanswer rfl hm hregular nofun ⟨rfl, rfl, Iff.rfl, trivial, nofun⟩
        fun _ hawaits => absurd trivial hawaits
  | .ok (some code) =>
      exact hcarries.goes_of_ok _ hanswer rfl hm hregular nofun ⟨rfl, rfl, Iff.rfl, trivial, nofun⟩
        fun _ _ => hawake nofun
  | .error cause =>
      exact hcarries.goes_of_ok _ hanswer rfl hm hregular nofun ⟨rfl, rfl, Iff.rfl, trivial, nofun⟩
        fun _ _ => hawake nofun

theorem goes_announcing (hm : m.kernel.Steady reader idler m.executing) (worker : TaskId)
    (told : Except Refusal Int32) :
    m.Goes reader idler (.announcing worker told)
      ((Flow.announcing worker told).take m.executing m) :=
  goes_still .listening hm rfl rfl rfl rfl Iff.rfl trivial nofun id

theorem goes_echoing (hm : m.kernel.Steady reader idler m.executing) (character : UInt8) :
    m.Goes reader idler (.echoing character) ((Flow.echoing character).take m.executing m) :=
  goes_still .listening hm rfl rfl rfl rfl Iff.rfl trivial nofun id

theorem carries_messageAttempt (hm : m.kernel.Steady reader idler m.executing)
    (hother : m.executing ≠ idler) :
    m.Carries reader idler .receiveOrSuspend (call Kernel.messageAttempt m) ∧
      (call Kernel.messageAttempt m).answer = .ok (m.kernel.tasks.value.mail m.executing).head? := by
  obtain ⟨hperforms, hanswer⟩ := Kernel.steady_messageAttempt hm hother
  exact ⟨carries_call hperforms, hanswer⟩

/-- Whoever takes a message is not lulled by it. -/
theorem attentive_messageAttempt (hm : m.kernel.Steady reader idler m.executing)
    (hother : m.executing ≠ idler) (hattentive : m.kernel.tasks.value.Attentive reader) :
    (call Kernel.messageAttempt m).state.kernel.tasks.value.Attentive reader :=
  (carries_messageAttempt hm hother).1.attentive hm (fun hlulls => hlulls) hattentive

theorem goes_listening (hm : m.kernel.Steady reader idler m.executing) (hother : m.executing ≠ idler)
    (hself : m.executing = reader) :
    m.Goes reader idler .listening (Flow.listening.take m.executing m) := by
  obtain ⟨hcarries, hanswer⟩ := carries_messageAttempt hm hother
  have hregular : Operation.receiveOrSuspend.Regular reader idler m.executing := hother
  have hreceived : m.kernel.scheduler.received reader .receiveOrSuspend =
      (m.kernel.tasks.value.mail m.executing).head?.toList := by
    rw [received_receiveOrSuspend, if_pos (hself ▸ hm.executing), hself]
    rfl
  have hattentive : (¬ Flow.listening.Awaits → m.kernel.tasks.value.Attentive reader) →
      (call Kernel.messageAttempt m).state.kernel.tasks.value.Attentive reader :=
    fun h => attentive_messageAttempt hm hother (h id)
  simp only [Flow.take, Act.bind_apply]
  cases hhead : (m.kernel.tasks.value.mail m.executing).head? with
  | none =>
      rw [hhead] at hanswer hreceived
      refine hcarries.goes_of_ok .listening hanswer rfl hm hregular nofun ?_
        fun h _ => hattentive h
      rw [hreceived]
      exact ⟨rfl, rfl, Iff.rfl, trivial, nofun⟩
  | some message =>
      rw [hhead] at hanswer hreceived
      cases htyped : typed message with
      | none =>
          refine hcarries.goes_of_ok .listening hanswer ?_ hm hregular nofun ?_
            fun h _ => hattentive h
          · simp only [htyped]
            rfl
          · rw [hreceived]
            refine ⟨rfl, ?_, Iff.rfl, trivial, nofun⟩
            simp [Flow.held, htyped]
      | some character =>
          refine hcarries.goes_of_ok (.echoing character) hanswer ?_ hm hregular nofun ?_
            fun h _ => hattentive h
          · simp only [htyped]
            rfl
          · rw [hreceived]
            refine ⟨rfl, ?_, Iff.rfl, trivial, nofun⟩
            simp [Flow.held, htyped]

/-! ## The others' steps -/

theorem goes_idling (hm : m.kernel.Steady reader idler m.executing) :
    m.Goes reader idler .idling (Flow.idling.take m.executing m) :=
  goes_still .idling hm rfl rfl rfl rfl Iff.rfl trivial (fun _ => rfl) id

theorem goes_dotting (hm : m.kernel.Steady reader idler m.executing) (period : Nat) (value : Int32) :
    m.Goes reader idler (.dotting period value) ((Flow.dotting period value).take m.executing m) :=
  goes_still (.arming period (value + 1)) hm rfl rfl rfl rfl Iff.rfl trivial nofun id

theorem goes_blinking (hm : m.kernel.Steady reader idler m.executing) {milliseconds : Nat}
    (hfits : (Flow.blinking milliseconds).Fits) :
    m.Goes reader idler (.blinking milliseconds)
      ((Flow.blinking milliseconds).take m.executing m) := by
  obtain ⟨period, hperiod⟩ := hfits
  refine goes_still (.arming period 1) hm ?_ ?_ ?_ rfl Iff.rfl trivial nofun id
  · simp only [Flow.take, hperiod]; rfl
  · simp only [Flow.take, hperiod]; rfl
  · simp only [Flow.take, hperiod]; rfl

theorem goes_summing (hm : m.kernel.Steady reader idler m.executing) {last : Nat}
    (hfits : (Flow.summing last).Fits) :
    m.Goes reader idler (.summing last) ((Flow.summing last).take m.executing m) := by
  obtain ⟨code, hcode⟩ := hfits
  refine goes_still (.ending code) hm ?_ ?_ ?_ rfl Iff.rfl trivial nofun id
  · simp only [Flow.take, hcode]; rfl
  · simp only [Flow.take, hcode]; rfl
  · simp only [Flow.take, hcode]; rfl

/-- A timer is armed as long as the timers' numbers fit their words. -/
theorem answer_armAfter_of_paced {s : Scheduler} {n : Nat} (h : s.timers.Paced n)
    (hroom : n + 4 < Word.size) (delay : Nat) (value : Int32) (target : TaskId) (label : String) :
    (s.onTimers (·.armAfter delay value target label)).answer = .ok () := by
  have hserial := h.serial_le
  unfold Scheduler.onTimers Timers.armAfter Timers.armAt
  simp only [Timers.arm_eq]
  rw [if_pos (by omega)]
  rfl

theorem goes_arming (hm : m.kernel.Steady reader idler m.executing) (period : Nat) (value : Int32) :
    m.Goes reader idler (.arming period value) ((Flow.arming period value).take m.executing m) := by
  have hregular : (Operation.armAfter period value m.executing "blink").Regular reader idler
    m.executing := trivial
  have hcarries := carries_call (Kernel.steady_armAfter hm period value m.executing "blink")
  have hanswer : (call (Kernel.armAfter period value m.executing "blink") m).answer = _ :=
    Kernel.answer_armAfter hm.idle period value m.executing "blink"
  have hattentive : (¬ (Flow.arming period value).Awaits →
      m.kernel.tasks.value.Attentive reader) → (call (Kernel.armAfter period value m.executing
        "blink") m).state.kernel.tasks.value.Attentive reader :=
    fun h => hcarries.attentive hm (fun hlulls => hlulls) (h id)
  simp only [Flow.take, Act.bind_apply]
  cases harmed : (m.kernel.scheduler.onTimers
      (·.armAfter period value m.executing "blink")).answer with
  | ok _ =>
      rw [harmed] at hanswer
      exact hcarries.goes_of_ok (.watching period) hanswer rfl hm hregular nofun
        ⟨rfl, rfl, Iff.rfl, trivial, nofun⟩ fun h _ => hattentive h
  | error cause =>
      rw [harmed] at hanswer
      refine hcarries.goes_of_error hanswer _ hm hregular nofun
        ⟨rfl, rfl, Iff.rfl, trivial, nofun⟩ (fun h _ => hattentive h) ?_
      intro n hpaced hroom
      have hfits := answer_armAfter_of_paced (s := m.kernel.scheduler) hpaced hroom period value
        m.executing "blink"
      exact nomatch harmed.symm.trans hfits

theorem goes_watching (hm : m.kernel.Steady reader idler m.executing) (hother : m.executing ≠ idler)
    (hforeign : m.executing ≠ reader) (period : Nat) :
    m.Goes reader idler (.watching period) ((Flow.watching period).take m.executing m) := by
  obtain ⟨hcarries, hanswer⟩ := carries_messageAttempt hm hother
  have hregular : Operation.receiveOrSuspend.Regular reader idler m.executing := hother
  have hreceived : m.kernel.scheduler.received reader .receiveOrSuspend = [] := by
    rw [received_receiveOrSuspend, if_neg]
    intro hx
    exact hforeign (Option.some.inj (hm.executing.symm.trans hx))
  have hgoes {next : Flow} (hheld : next.held = []) (hreads : next.Reads ↔ False)
      (hfits : next.Fits) : (Flow.watching period).Becomes next
        ((m.kernel.scheduler.received reader .receiveOrSuspend).filterMap typed) := by
    rw [hreceived]
    exact ⟨rfl, hheld, hreads, hfits, nofun⟩
  have hattentive : (¬ (Flow.watching period).Awaits →
      m.kernel.tasks.value.Attentive reader) →
      (call Kernel.messageAttempt m).state.kernel.tasks.value.Attentive reader :=
    fun h => attentive_messageAttempt hm hother (h id)
  simp only [Flow.take, Act.bind_apply]
  match hhead : (m.kernel.tasks.value.mail m.executing).head? with
  | some { payload := .timeout _ value _, .. } =>
      rw [hhead] at hanswer
      exact hcarries.goes_of_ok (.dotting period value) hanswer rfl hm hregular nofun
        (hgoes rfl Iff.rfl trivial) fun h _ => hattentive h
  | none | some { payload := .deviceInterrupt _, .. } | some { payload := .keyPush _, .. }
  | some { payload := .layer _ _, .. } | some { payload := .layerFinish, .. }
  | some { payload := .mouseMove .., .. } | some { payload := .mouseButton .., .. } =>
      rw [hhead] at hanswer
      exact hcarries.goes_of_ok (.watching period) hanswer rfl hm hregular nofun
        (hgoes rfl Iff.rfl trivial) fun h _ => hattentive h

theorem goes_ending (hm : m.kernel.Steady reader idler m.executing) (hother : m.executing ≠ idler)
    (hforeign : m.executing ≠ reader) (code : Int32) :
    m.Goes reader idler (.ending code) ((Flow.ending code).take m.executing m) := by
  have hregular : (Operation.exit code).Regular reader idler m.executing := ⟨hother, hforeign⟩
  obtain ⟨hperforms, next, hresumed⟩ := Kernel.steady_exit hm hother hforeign code
  have hcarries := carries_call hperforms
  have hanswer : (call (Kernel.exit code) m).answer = .error (.resumed next) := hresumed
  simp only [Flow.take, Act.bind_apply]
  exact hcarries.goes_of_error hanswer _ hm hregular nofun ⟨rfl, rfl, Iff.rfl, trivial, nofun⟩
    (fun h _ => hcarries.attentive hm (fun hlulls => hlulls) (h id)) fun _ _ _ _ => nofun

/-- A step of the executing task's flow, whichever it is. -/
theorem goes_take (hm : m.kernel.Steady reader idler m.executing)
    (hreads : flow.Reads ↔ m.executing = reader) (hidles : m.executing = idler → flow = .idling)
    (hfits : flow.Fits) : m.Goes reader idler flow (flow.take m.executing m) := by
  have hother (hbusy : flow ≠ .idling) : m.executing ≠ idler := fun h => hbusy (hidles h)
  cases flow with
  | awaiting worker => exact goes_awaiting hm (hother nofun) (hreads.mp trivial) worker
  | announcing worker told => exact goes_announcing hm worker told
  | listening => exact goes_listening hm (hother nofun) (hreads.mp trivial)
  | echoing character => exact goes_echoing hm character
  | idling => exact goes_idling hm
  | blinking milliseconds => exact goes_blinking hm hfits
  | arming period value => exact goes_arming hm period value
  | watching period => exact goes_watching hm (hother nofun) hreads.mpr period
  | dotting period value => exact goes_dotting hm period value
  | summing last => exact goes_summing hm hfits
  | ending code => exact goes_ending hm (hother nofun) hreads.mpr code

end Machine

end TaskKernel
