import TaskKernel.Proofs.InterruptFlag

/-!
# Calls within a use

A part of the kernel is a closed shop while it is used, but its users may call the kernel. A call
that needs a part in use is refused before it did anything (`refused_perform`), and the use goes on
(`refused_within`). A call that needs only the other part is carried out, and if it makes the
processor depart it does so in the midst of the use: never of the dispatcher's, since every such
call needs the dispatcher, but of the timers' (`departs_within_timers`).
-/

namespace TaskKernel.Kernel

variable {α β : Type} {k : Kernel}

/-! ## Refusals -/

/-- A method came to nothing because a part is in use. All that was done is to enter parts on the
way to that one. -/
structure Refused (k : Kernel) (outcome : Outcome Exit Event Kernel α) : Prop where
  answer_eq : outcome.answer = .error (.stop (.fault .reentrantAccess))
  state_eq : outcome.state = k
  entered : ∀ event ∈ outcome.events, ∃ part view, event = .entered part view

theorem refused_use (part : Part) (h : k.uses part = true) (body : Method α) :
    Refused k (use part body k) := by
  rw [use_apply, if_pos h]
  exact ⟨rfl, rfl, by simp [Outcome.stop]⟩

/-- A refusal further in. -/
theorem Refused.use (part : Part) {body : Method α} (hfree : k.uses part = false)
    (h : Refused (k.take part) (body (k.take part))) : Refused k (Kernel.use part body k) := by
  rw [use_apply, hfree, if_neg Bool.false_ne_true]
  refine ⟨h.answer_eq, ?_, List.forall_mem_cons.mpr ⟨⟨part, _, rfl⟩, h.entered⟩⟩
  show (body (k.take part)).state.giveBack part = k
  rw [h.state_eq, giveBack_take hfree]

theorem Refused.bind {first : Outcome Exit Event Kernel α} (h : Refused k first)
    (next : α → Kernel → Outcome Exit Event Kernel β) : Refused k (first.bind next) := by
  unfold Outcome.bind
  rw [h.answer_eq]
  exact ⟨rfl, h.state_eq, h.entered⟩

theorem Refused.fmap {method : Method α} (h : Refused k (method k)) (f : α → β) :
    Refused k ((f <$> method) k) := by
  rw [Act.map_apply]
  exact ⟨Outcome.answer_map_eq_error_iff.mpr h.answer_eq, h.state_eq, h.entered⟩

/-- A fault is no refusal of a request, so an attempt passes it on. -/
theorem Refused.attempt {method : Method α} (h : Refused k (method k)) :
    Refused k (Kernel.attempt method k) := by
  refine ⟨?_, h.state_eq, h.entered⟩
  simp only [Kernel.attempt, h.answer_eq]

theorem Refused.masked {body : Method α}
    (h : Refused { k with interrupts := false } (body { k with interrupts := false })) :
    Refused k (Kernel.masked body k) := by
  refine ⟨h.answer_eq, ?_, h.entered⟩
  rw [masked_apply, Outcome.state_mapState, h.state_eq]
  simp only [Bool.false_or]

theorem Refused.maskedUntilResumed {body : Method α}
    (h : Refused { k with interrupts := false } (body { k with interrupts := false })) :
    Refused k (Kernel.maskedUntilResumed body k) := by
  unfold Kernel.maskedUntilResumed
  simp only [Mask.acquire, h.answer_eq]
  refine ⟨h.answer_eq, ?_, h.entered⟩
  rw [Outcome.state_mapState, h.state_eq]
  simp only [Mask.release, Bool.false_or]

/-! ## The parts that a call needs -/

/-- A method enters no other parts. -/
def Enters (parts : List Part) (method : Method α) : Prop :=
  ∀ k part view, .entered part view ∈ (method k).events → part ∈ parts

variable {parts : List Part}

theorem Enters.bind {first : Method α} {body : α → Method β} (hfirst : Enters parts first)
    (hbody : ∀ value, Enters parts (body value)) : Enters parts (first >>= body) := by
  intro k part view hmem
  simp only [Act.bind_apply, Outcome.bind] at hmem
  split at hmem
  · exact hfirst k part view hmem
  · rename_i value _
    rcases List.mem_append.mp hmem with hmem | hmem
    · exact hfirst k part view hmem
    · exact hbody value _ part view hmem

theorem Enters.fmap {method : Method α} (h : Enters parts method) (f : α → β) :
    Enters parts (f <$> method) := by
  intro k part view hmem
  rw [Act.map_apply] at hmem
  exact h k part view hmem

theorem Enters.attempt {method : Method α} (h : Enters parts method) :
    Enters parts (Kernel.attempt method) := fun k part view hmem => h k part view hmem

theorem Enters.masked {body : Method α} (h : Enters parts body) :
    Enters parts (Kernel.masked body) := fun _ part view hmem => h _ part view hmem

theorem Enters.maskedUntilResumed {body : Method α} (h : Enters parts body) :
    Enters parts (Kernel.maskedUntilResumed body) := by
  intro k part view hmem
  unfold Kernel.maskedUntilResumed at hmem
  simp only [Mask.acquire] at hmem
  split at hmem
  · exact h _ part view hmem
  · exact h _ part view hmem

theorem Enters.use {part : Part} {body : Method α} (h : Enters parts body) (hpart : part ∈ parts) :
    Enters parts (Kernel.use part body) := by
  intro k other view hmem
  rw [use_apply] at hmem
  split at hmem
  · exact absurd hmem List.not_mem_nil
  · rcases List.mem_cons.mp hmem with hentered | hmem
    · cases hentered
      exact hpart
    · exact h _ other view hmem

/-- The parts that a call needs. -/
def Call.needs : Call → List Part
  | .create | .prepare .. | .launch .. | .wake .. | .suspend _ | .suspendCurrent | .current
  | .exit _ | .awaitExit _ | .send .. | .receive _ | .awaitMessage | .preempt _ => [.tasks]
  | .armAt .. | .armAfter .. | .now => [.timers]
  | .tick => [.timers, .tasks]
  | .giveFocus _ | .focused | .restock _ => []

theorem refused_onTasks {part : Part} (hneeds : part ∈ [Part.tasks]) (huse : k.uses part = true)
    (operation : Dispatcher → Dispatcher.Result α) :
    Refused { k with interrupts := false } (onTasks operation { k with interrupts := false }) := by
  cases List.mem_singleton.mp hneeds
  exact refused_use (k := { k with interrupts := false }) .tasks huse _

theorem refused_onTimers {part : Part} (hneeds : part ∈ [Part.timers])
    (huse : k.uses part = true) (operation : Timers → Except Fault Timers) :
    Refused { k with interrupts := false } (onTimers operation { k with interrupts := false }) := by
  cases List.mem_singleton.mp hneeds
  exact refused_use (k := { k with interrupts := false }) .timers huse _

/-- The timers are asked first. -/
theorem refused_tick {part : Part} (hneeds : part ∈ [Part.timers, .tasks])
    (huse : k.uses part = true) : Refused k (tick k) := by
  refine Refused.masked ?_
  by_cases htimers : k.uses .timers = true
  · exact refused_use (k := { k with interrupts := false }) .timers htimers _
  · have htasks : k.uses .tasks = true := by
      rcases List.mem_cons.mp hneeds with rfl | hneeds
      · exact absurd huse htimers
      · exact List.mem_singleton.mp hneeds ▸ huse
    rw [Bool.not_eq_true] at htimers
    exact Refused.use (k := { k with interrupts := false }) .timers htimers
      (refused_use (k := { k with interrupts := false }.take .timers) .tasks htasks _)

theorem refused_attempts {attempt : Method (Option α)} {attempts : Nat → Method α}
    (hattempt : Refused k (attempt k))
    (hnext : ∀ n, attempts (n + 1) = attempt >>= (·.elim (attempts n) pure)) :
    Refused k (attempts k.attemptsFor k) := by
  rw [attemptsFor, hnext]
  exact hattempt.bind _

/-- **A call that needs a part in use comes to nothing.** -/
theorem refused_perform {call : Call} {part : Part} (hneeds : part ∈ call.needs)
    (huse : k.uses part = true) : Refused k (call.perform k) := by
  cases call with
  | create | prepare | launch | wake | current | send | receive =>
      exact (refused_onTasks hneeds huse _).masked.fmap _
  | suspend id => exact ((refused_onTasks hneeds huse _).bind _).masked.fmap _
  | suspendCurrent => exact ((refused_onTasks hneeds huse _).attempt.bind _).masked.fmap _
  | exit code => exact ((refused_onTasks hneeds huse _).bind _).maskedUntilResumed.fmap _
  | preempt saved => exact ((refused_onTasks hneeds huse _).bind _).maskedUntilResumed.fmap _
  | awaitExit target =>
      have hattempt : Refused k (exitAttempt target k) :=
        ((refused_onTasks hneeds huse _).bind _).masked
      exact (refused_attempts hattempt (exitAttempts_succ target)).fmap _
  | awaitMessage =>
      have hattempt : Refused k (messageAttempt k) :=
        ((refused_onTasks hneeds huse _).bind _).masked
      exact (refused_attempts hattempt messageAttempts_succ).fmap _
  | armAt | armAfter => exact (refused_onTimers hneeds huse _).masked.fmap _
  | now =>
      cases List.mem_singleton.mp hneeds
      have hlook := refused_use (k := { k with interrupts := false }) .timers huse
        fun k => .done k k.timers.value.now
      exact hlook.masked.fmap _
  | tick => exact (refused_tick hneeds huse).fmap _
  | giveFocus | focused | restock => exact absurd hneeds List.not_mem_nil

/-! ## Departures -/

/-- Whatever makes the processor depart needs the dispatcher. -/
theorem mem_needs_of_departure {call : Call} {event : Event} {view : View}
    (hmem : event ∈ (call.perform k).events) (hview : event.departure? = some view) :
    Part.tasks ∈ call.needs := by
  by_contra hneeds
  have hstays : event.departure? = none := by
    cases call with
    | armAt timeout value target label =>
        rw [Call.perform, Act.map_apply] at hmem
        exact stays_onTimers (·.armAt timeout value target label) _ event hmem
    | armAfter delay value target label =>
        rw [Call.perform, Act.map_apply] at hmem
        exact stays_onTimers (·.armAfter delay value target label) _ event hmem
    | now =>
        rw [Call.perform, Act.map_apply] at hmem
        exact stays_now _ event hmem
    | giveFocus | focused | restock => exact absurd hmem List.not_mem_nil
    | _ => exact absurd (by simp [Call.needs]) hneeds
  exact absurd (hstays.symm.trans hview) (by simp)

/-- **The processor departs in the midst of a use of the timers, and of no other.** All departures
are those of the calls that a client makes. None happens while the dispatcher is in use, and one
happens while the timers are in use exactly if its call was made in a use of the timers. -/
theorem departs_within_timers (h : Reachable k) (client : Client) :
    Client.departures (client.perform k).events = Client.departuresOf (client.made [] k) ∧
    ∀ m ∈ client.made [] k, ∀ view ∈ Client.departures (m.call.perform m.kernel).events,
      view.tasksInUse = false ∧ Part.tasks ∉ m.held ∧
        (view.timersInUse = true ↔ Part.timers ∈ m.held) := by
  refine ⟨client.departures_client [] k, fun m hmade view hview => ?_⟩
  obtain ⟨event, hmem, hview⟩ := List.mem_filterMap.mp hview
  have hfree : ∀ part, k.uses part = true ↔ part ∈ [] := by
    simp [idle_iff.mp h.idle]
  have huses := Client.uses_of_mem_made hfree hmade
  have hseen := (orderly_perform m.kernel m.call).departs event hmem view hview
  have htasks : m.kernel.uses .tasks = false := by
    by_contra hused
    rw [Bool.not_eq_false] at hused
    -- A call that is refused enters parts and does nothing else.
    obtain ⟨part, other, rfl⟩ :=
      (refused_perform (mem_needs_of_departure hmem hview) hused).entered event hmem
    cases hview
  refine ⟨(hseen .tasks).trans htasks, fun hheld => ?_, ?_⟩
  · exact absurd ((huses .tasks).mpr hheld) (by simp [htasks])
  · rw [← huses .timers, ← hseen .timers]
    rfl

/-- The executing task of two falls asleep while the timers are in use. -/
def Client.sleepsWithinTimers : Client :=
  .call .create fun _ => .call (.wake 2 (some 2)) fun _ =>
    .within .timers (.call .suspendCurrent .ends) .ends

theorem departs_sleepsWithinTimers :
    ∃ k, start {} Platform.simulated (Arena.simulated 0) true = .ok k ∧
      Client.departures (Client.sleepsWithinTimers.perform k).events =
        Client.departuresOf (Client.sleepsWithinTimers.made [] k) ∧
      ∀ m ∈ Client.sleepsWithinTimers.made [] k,
        ∀ view ∈ Client.departures (m.call.perform m.kernel).events,
          view.tasksInUse = false ∧ Part.tasks ∉ m.held ∧
            (view.timersInUse = true ↔ Part.timers ∈ m.held) := by
  obtain ⟨k, hstart⟩ : ∃ k, start {} Platform.simulated (Arena.simulated 0) true = .ok k := ⟨_, rfl⟩
  exact ⟨k, hstart, departs_within_timers (.start hstart) Client.sleepsWithinTimers⟩

/-- The processor saves the first task and goes on with the second one while the timers are in use.
-/
theorem switched_within_timers :
    ∃ k, start {} Platform.simulated (Arena.simulated 0) true = .ok k ∧
      ∃ view, .switched ⟨2, 1⟩ view ∈ (Client.sleepsWithinTimers.perform k).events ∧
        view.timersInUse = true :=
  ⟨_, rfl, ⟨false, false, true⟩, by decide, rfl⟩

/-! ## Uses -/

end TaskKernel.Kernel
