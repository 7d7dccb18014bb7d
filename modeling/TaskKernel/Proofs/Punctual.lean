import TaskKernel.Proofs.Agenda
import Mathlib.Data.List.Nodup

/-!
# Timers fire on time, once, and in order

A timer of a task that is armed for tick `timeout` while the counter stands at `now` expires at tick
`max timeout (now + 1)`: when its time comes, or at once if that is past. Over any history in which
the counters fit their words

* it expires at that tick and at no other, and is armed exactly until then (`FiresOnce`): while it is
  armed a tick either takes it or finds it later (`firesOnce_of_armed`), and what is not armed any
  more does not come back (`silent_of_gone`);
* a tick ends, takes all that is due, in order, and leaves nothing that is due; each task hears in
  order what is for it, and the console of those that are gone (`tickTakes`).
-/

namespace TaskKernel

namespace Timers

variable {t : Timers} {timer : Timer}

/-! ## One timer of a task -/

theorem mem_later_iff (h : t.Orderly) :
    timer ∈ t.later ↔ timer ∈ t.armed ∧ t.now + 1 < timer.timeout := by
  constructor
  · intro hmem
    exact ⟨(List.dropWhile_sublist _).subset hmem, lt_of_mem_dropWhile h.sorted hmem⟩
  · rintro ⟨hmem, hlt⟩
    rw [← t.due_append_later] at hmem
    rcases List.mem_append.mp hmem with hmem | hmem
    · have hle : timer.timeout ≤ t.now + 1 := le_of_mem_takeWhile hmem
      omega
    · exact hmem

/-- A timer of a task outlasts a tick if it is not due. -/
theorem mem_elapse_iff (h : t.Orderly) (huser : timer.periodic = false) :
    timer ∈ t.elapse.armed ↔ timer ∈ t.armed ∧ t.now + 1 < timer.timeout := by
  have hfilter : ∀ armed : List Timer, timer ∈ armed ↔ timer ∈ armed.filter (!·.periodic) := by
    intro armed
    simp [huser]
  rw [hfilter, filter_elapse, ← hfilter, mem_later_iff h]

theorem nextSerial_le_renewAll (t : Timers) (timers : List Timer) :
    t.nextSerial ≤ (t.renewAll timers).nextSerial := by
  induction timers generalizing t with
  | nil => exact Nat.le_refl _
  | cons timer rest ih =>
      rw [renewAll]
      split
      · exact Nat.le_of_succ_le (ih (t.add _))
      · exact ih t

theorem nextSerial_le_elapse (t : Timers) : t.nextSerial ≤ t.elapse.nextSerial :=
  nextSerial_le_renewAll { t with now := t.now + 1, armed := t.later } t.due

theorem mem_add_iff (hserial : timer.serial < t.nextSerial) (other : Timer) :
    timer ∈ (t.add other).armed ↔ timer ∈ t.armed := by
  refine mem_insert.trans (or_iff_right ?_)
  rintro rfl
  exact Nat.lt_irrefl _ hserial

end Timers

namespace Scheduler

open Timers

variable {s : Scheduler} {history : List Operation} {operation : Operation} {timer : Timer}

/-! ## One operation -/

theorem expired_of_ne_tick (htick : operation ≠ .tick) : s.expired operation = [] := by
  cases operation with
  | tick => exact absurd rfl htick
  | create | prepare | prepareWith | editContext | launch | wake | suspend | preempt | send
  | receive | receiveOrSuspend | exit | awaitExit | startSchedule | armAt | armAfter | restock =>
      rfl

/-- What an operation other than a tick does to a timer and to the time. -/
theorem step_of_ne_tick (htick : operation ≠ .tick) (hserial : timer.serial < s.timers.nextSerial) :
    (s.perform operation).state.timers.now = s.timers.now ∧
      timer.serial < (s.perform operation).state.timers.nextSerial ∧
      (timer ∈ (s.perform operation).state.timers.armed ↔ timer ∈ s.timers.armed) := by
  rw [timers_perform htick]
  cases s.arming? operation with
  | none => exact ⟨rfl, hserial, .rfl⟩
  | some other => exact ⟨rfl, Nat.lt_succ_of_lt hserial, mem_add_iff hserial other⟩

/-- What a tick does to a timer of a task. -/
theorem step_of_tick (hfits : s.timers.Fits) (horderly : s.timers.Orderly)
    (huser : timer.periodic = false) (hserial : timer.serial < s.timers.nextSerial) :
    (s.perform .tick).state.timers.now = s.timers.now + 1 ∧
      timer.serial < (s.perform .tick).state.timers.nextSerial ∧
      (timer ∈ (s.perform .tick).state.timers.armed ↔
        timer ∈ s.timers.armed ∧ s.timers.now + 1 < timer.timeout) ∧
      (s.expired .tick).filter (· = timer) =
        if timer ∈ s.timers.armed ∧ timer.timeout ≤ s.timers.now + 1 then [timer] else [] := by
  obtain ⟨_, htimers, hexpired⟩ := perform_tick hfits
  rw [htimers, hexpired]
  refine ⟨now_elapse _, ?_, mem_elapse_iff horderly huser, ?_⟩
  · exact Nat.lt_of_lt_of_le hserial (nextSerial_le_elapse _)
  · have hnodup : s.timers.due.Nodup :=
      (List.takeWhile_sublist _).nodup horderly.nodup
    simp only [← mem_due_iff horderly]
    rw [List.filter_eq]
    by_cases hmem : timer ∈ s.timers.due
    · rw [if_pos hmem, List.count_eq_one_of_mem hnodup hmem, List.replicate_one]
    · rw [if_neg hmem, List.count_eq_zero_of_not_mem hmem, List.replicate_zero]

/-! ## The life of a timer -/

/-- The timers that expire in the course of a history, each with the tick at which it does. -/
def expiries (s : Scheduler) (history : List Operation) : List (Nat × Timer) :=
  s.gather (fun s operation => (s.expired operation).map (s.timers.now + 1, ·)) history

/-- In the course of the history the timer expires once, at this tick, and is armed until then. -/
structure FiresOnce (s : Scheduler) (history : List Operation) (timer : Timer) (tick : Nat) :
    Prop where
  fired : (s.expiries history).filter (·.2 = timer) =
    if tick ≤ (s.run history).timers.now then [(tick, timer)] else []
  armed : timer ∈ (s.run history).timers.armed ↔ (s.run history).timers.now < tick

/-- The expiries of a timer in an operation and what follows it. -/
theorem filter_expiries_cons (s : Scheduler) (operation : Operation) (rest : List Operation)
    (timer : Timer) :
    (s.expiries (operation :: rest)).filter (·.2 = timer) =
      ((s.expired operation).filter (· = timer)).map (s.timers.now + 1, ·) ++
        ((s.perform operation).state.expiries rest).filter (·.2 = timer) := by
  unfold expiries
  rw [gather, List.filter_append, List.filter_map]
  rfl

/-- A timer that is not armed any more does not come back. -/
theorem silent_of_gone (horderly : s.timers.Orderly) (hkeeps : s.KeepsTime history)
    (huser : timer.periodic = false) (hserial : timer.serial < s.timers.nextSerial)
    (hgone : timer ∉ s.timers.armed) :
    (s.expiries history).filter (·.2 = timer) = [] ∧
      timer ∉ (s.run history).timers.armed ∧ s.timers.now ≤ (s.run history).timers.now := by
  induction history generalizing s with
  | nil => exact ⟨rfl, hgone, Nat.le_refl _⟩
  | cons operation rest ih =>
      have hkept := orderly_perform horderly operation
      rw [filter_expiries_cons, run_cons]
      by_cases htick : operation = .tick
      · subst htick
        obtain ⟨hnow, hserial', harmed, hfired⟩ :=
          step_of_tick (hkeeps.1 rfl) horderly huser hserial
        obtain ⟨hsilent, hgone', hle⟩ := ih hkept hkeeps.2 hserial' fun h => hgone (harmed.mp h).1
        rw [hfired, if_neg fun h => hgone h.1, hsilent]
        exact ⟨rfl, hgone', by omega⟩
      · obtain ⟨hnow, hserial', harmed⟩ := step_of_ne_tick htick hserial
        obtain ⟨hsilent, hgone', hle⟩ := ih hkept hkeeps.2 hserial' fun h => hgone (harmed.mp h)
        rw [expired_of_ne_tick htick, hsilent]
        exact ⟨rfl, hgone', by omega⟩

/-- A timer that is armed expires when its time has come, at the next tick at the earliest. -/
theorem firesOnce_of_armed (horderly : s.timers.Orderly) (hkeeps : s.KeepsTime history)
    (huser : timer.periodic = false) (harmed : timer ∈ s.timers.armed) :
    s.FiresOnce history timer (max timer.timeout (s.timers.now + 1)) := by
  induction history generalizing s with
  | nil =>
      have hlt : s.timers.now < max timer.timeout (s.timers.now + 1) := by omega
      refine ⟨?_, iff_of_true harmed hlt⟩
      rw [run_nil, if_neg (Nat.not_le_of_lt hlt)]
      rfl
  | cons operation rest ih =>
      have hserial := horderly.serial_lt timer harmed
      have hkept := orderly_perform horderly operation
      by_cases htick : operation = .tick
      · subst htick
        obtain ⟨hnow, hserial', harmed', hfired⟩ :=
          step_of_tick (hkeeps.1 rfl) horderly huser hserial
        by_cases hdue : timer.timeout ≤ s.timers.now + 1
        · -- It expires now, and never again.
          have htaken : max timer.timeout (s.timers.now + 1) = s.timers.now + 1 := by omega
          obtain ⟨hsilent, hgone, hle⟩ := silent_of_gone hkept hkeeps.2 huser hserial' fun h => by
            have hlt := (harmed'.mp h).2
            omega
          rw [hnow] at hle
          rw [htaken]
          refine ⟨?_, iff_of_false hgone (by rw [run_cons]; omega)⟩
          rw [filter_expiries_cons, hfired, if_pos ⟨harmed, hdue⟩, hsilent, run_cons, if_pos hle]
          rfl
        · -- It is later, and the tick has not changed what is awaited.
          have hsame : max timer.timeout ((s.perform .tick).state.timers.now + 1) =
              max timer.timeout (s.timers.now + 1) := by omega
          have hrest := ih hkept hkeeps.2 (harmed'.mpr ⟨harmed, by omega⟩)
          rw [hsame] at hrest
          refine ⟨?_, hrest.armed⟩
          rw [filter_expiries_cons, hfired, if_neg fun h => hdue h.2]
          exact hrest.fired
      · obtain ⟨hnow, _, harmed'⟩ := step_of_ne_tick htick hserial
        have hrest := ih hkept hkeeps.2 (harmed'.mpr harmed)
        rw [hnow] at hrest
        refine ⟨?_, hrest.armed⟩
        rw [filter_expiries_cons, expired_of_ne_tick htick]
        exact hrest.fired

/-! ## From the arming on -/

theorem nextSerial_le_run (hkeeps : s.KeepsTime history) :
    s.timers.nextSerial ≤ (s.run history).timers.nextSerial :=
  timers_run (P := fun t => s.timers.nextSerial ≤ t.nextSerial)
    (fun _ hle => Nat.le_succ_of_le hle)
    (fun {t} hle => Nat.le_trans hle (nextSerial_le_elapse t)) hkeeps (Nat.le_refl _)

/-- Whatever has expired was armed before. -/
theorem serial_lt_of_mem_expiries (horderly : s.timers.Orderly) (hkeeps : s.KeepsTime history)
    {tick : Nat} (hmem : (tick, timer) ∈ s.expiries history) :
    timer.serial < (s.run history).timers.nextSerial := by
  induction history generalizing s with
  | nil => exact nomatch hmem
  | cons operation rest ih =>
      have hkept := orderly_perform horderly operation
      rcases List.mem_append.mp hmem with hfirst | hrest
      · obtain ⟨other, hother, heq⟩ := List.mem_map.mp hfirst
        have hsame : other = timer := congrArg Prod.snd heq
        by_cases htick : operation = .tick
        · subst htick
          rw [(perform_tick (hkeeps.1 rfl)).2.2, mem_due_iff horderly, hsame] at hother
          exact Nat.lt_of_lt_of_le (horderly.serial_lt timer hother.1) (nextSerial_le_run hkeeps)
        · rw [expired_of_ne_tick htick] at hother
          exact nomatch hother
      · exact ih hkept hkeeps.2 hrest

theorem serial_of_arming (harming : s.arming? operation = some timer) :
    timer.serial = s.timers.nextSerial ∧ operation ≠ .tick := by
  unfold arming? at harming
  split at harming
  · cases operation with
    | startSchedule | armAt | armAfter =>
        cases harming
        exact ⟨rfl, by simp⟩
    | create | prepare | prepareWith | editContext | launch | wake | suspend | preempt | send
    | receive | receiveOrSuspend | exit | awaitExit | tick | restock => exact nomatch harming
  · exact nomatch harming

/-- A timer that is armed is not known before, and stands on the agenda afterwards. -/
theorem timers_of_arming (harming : s.arming? operation = some timer) :
    (s.perform operation).state.timers = s.timers.add timer ∧
      timer ∈ (s.timers.add timer).armed := by
  obtain ⟨hserial, htick⟩ := serial_of_arming harming
  refine ⟨by rw [timers_perform htick, harming]; rfl, mem_insert.mpr (.inl ?_)⟩
  rw [← hserial]

theorem firesOnce_of_arming (horderly : s.timers.Orderly) {before after : List Operation}
    (hkeeps : s.KeepsTime (before ++ operation :: after))
    (harming : (s.run before).arming? operation = some timer) (huser : timer.periodic = false) :
    s.FiresOnce (before ++ operation :: after) timer
      (max timer.timeout ((s.run before).timers.now + 1)) := by
  obtain ⟨hbefore, hafter⟩ := along_append.mp hkeeps
  obtain ⟨hserial, htick⟩ := serial_of_arming harming
  obtain ⟨htimers, hmem⟩ := timers_of_arming harming
  have horderly' := orderly_run horderly before
  have hfires := firesOnce_of_armed (s := ((s.run before).perform operation).state)
    (htimers ▸ horderly'.add timer) hafter.2 huser (htimers ▸ hmem)
  have hnow : ((s.run before).perform operation).state.timers.now = (s.run before).timers.now := by
    rw [htimers]
    rfl
  -- Nothing that expired before had its number.
  have hsilent : (s.expiries before).filter (·.2 = timer) = [] := by
    rw [List.filter_eq_nil_iff]
    rintro ⟨tick, other⟩ hother heq
    have hsame : other = timer := of_decide_eq_true heq
    have hlt := serial_lt_of_mem_expiries horderly hbefore hother
    rw [hsame, hserial] at hlt
    exact Nat.lt_irrefl _ hlt
  rw [hnow] at hfires
  refine ⟨?_, ?_⟩
  · have hsplit : s.expiries (before ++ operation :: after) =
        s.expiries before ++ (s.run before).expiries (operation :: after) := gather_append _ s _ _
    rw [hsplit, List.filter_append, hsilent, List.nil_append, filter_expiries_cons,
      expired_of_ne_tick htick, run_append, run_cons]
    exact hfires.fired
  · rw [run_append, run_cons]
    exact hfires.armed

/-- The counter counts the ticks. -/
theorem now_run (hkeeps : s.KeepsTime history) :
    (s.run history).timers.now = s.timers.now + history.count .tick := by
  induction history generalizing s with
  | nil => rfl
  | cons operation rest ih =>
      rw [run_cons, ih hkeeps.2, now_perform hkeeps.1]
      by_cases htick : operation = .tick
      · rw [if_pos htick, htick, List.count_cons_self]
        omega
      · rw [if_neg htick, List.count_cons_of_ne htick]

/-! ## One tick -/

/-- A tick takes what is due and nothing else, in order, and tells whom it concerns. -/
structure TickTakes (s : Scheduler) : Prop where
  ends : (s.perform .tick).answer = .ok (.due ((s.expired .tick).any Timer.periodic))
  time : (s.perform .tick).state.timers.now = s.timers.now + 1
  taken : ∀ timer, timer ∈ s.expired .tick ↔
    timer ∈ s.timers.armed ∧ timer.timeout ≤ s.timers.now + 1
  order : (s.expired .tick).Pairwise Timer.Before
  /-- The tick goes on until nothing is due any more. -/
  left : ∀ timer ∈ (s.perform .tick).state.timers.armed, s.timers.now + 1 < timer.timeout
  heard : ∀ id, (s.perform .tick).state.tasks.find? id =
    (s.tasks.find? id).map (·.hear (Timer.mailFor id (s.expired .tick)))
  notices : (s.perform .tick).events = (s.expired .tick).flatMap s.tasks.unheard
  /-- Timers whose tasks are gone change nothing. -/
  dropped : (∀ timer ∈ s.expired .tick, timer.periodic = true ∨ timer.target ∉ s.tasks.tasks) →
    (s.perform .tick).state.tasks = s.tasks

theorem tickTakes (hfits : s.timers.Fits) (horderly : s.timers.Orderly) : s.TickTakes := by
  obtain ⟨hanswer, htimers, hexpired⟩ := perform_tick hfits
  obtain ⟨htasks, hevents⟩ := tasks_tick s
  refine ⟨?_, ?_, ?_, ?_, ?_, getElem?_tick s, hevents, ?_⟩
  · rw [hanswer, hexpired]
  · rw [htimers, now_elapse]
  · intro timer
    rw [hexpired, mem_due_iff horderly]
  · rw [hexpired]
    exact horderly.sorted.sublist (List.takeWhile_sublist _)
  · rw [htimers]
    exact lt_of_mem_elapse horderly
  · intro hidle
    show s.tick.state.tasks = s.tasks
    rw [htasks]
    exact Dispatcher.remindAll_of_idle hidle

/-! ## Every history -/

/-- The timers of tasks fire on time, once and in order over a history. -/
structure Punctual (s : Scheduler) (history : List Operation) : Prop where
  /-- A timer that is asked for is armed if there is a number for it, and if the timeout of the
  scheduler's fits its word. -/
  granted : ∀ before operation after timer, history = before ++ operation :: after →
    operation.request? (s.run before).timers = some timer →
    (s.run before).timers.nextSerial + 1 < Word.size →
    (timer.periodic = true → timer.timeout < Word.size) →
      (s.run before).arming? operation = some timer
  /-- A timer that is armed expires when its time has come, at the next tick at the earliest. -/
  once : ∀ before operation after timer, history = before ++ operation :: after →
    (s.run before).arming? operation = some timer → timer.periodic = false →
      s.FiresOnce history timer (max timer.timeout ((s.run before).timers.now + 1))
  /-- One that is armed for `delay` ticks expires at that tick from now, the first at the earliest.
  -/
  delayed : ∀ before delay value target label after timer,
    history = before ++ .armAfter delay value target label :: after →
    (s.run before).arming? (.armAfter delay value target label) = some timer →
    (s.run before).timers.now + delay < Word.size →
      s.FiresOnce history timer ((s.run before).timers.now + max 1 delay)
  time : (s.run history).timers.now = s.timers.now + history.count .tick
  /-- The numbers of the timers tell in which order they were armed. -/
  serials : ∀ before operation between operation' after first second,
    history = before ++ operation :: between ++ operation' :: after →
    (s.run before).arming? operation = some first →
    (s.run (before ++ operation :: between)).arming? operation' = some second →
      first.serial < second.serial
  ticks : ∀ before after, history = before ++ .tick :: after → (s.run before).TickTakes

/-- **Timers fire on time, once and in order**, whatever else is done, as long as the counters fit
their words. -/
theorem punctual_run (config : Config) (platform : Platform) (arena : Arena)
    (history : List Operation) (hkeeps : (start config platform arena).KeepsTime history) :
    (start config platform arena).Punctual history := by
  have horderly : (start config platform arena).timers.Orderly := orderly_start config
  refine ⟨?_, ?_, ?_, now_run hkeeps, ?_, ?_⟩
  · intro before operation after timer _
    exact arming_of_request
  · rintro before operation after timer rfl harming huser
    exact firesOnce_of_arming horderly hkeeps harming huser
  · rintro before delay value target label after timer rfl harming hfits
    have htimeout : timer.timeout = ((start config platform arena).run before).timers.now + delay ∧
        timer.periodic = false := by
      unfold arming? at harming
      split at harming
      · cases harming
        exact ⟨Nat.min_eq_left (Nat.le_sub_one_of_lt hfits), rfl⟩
      · exact nomatch harming
    have hfires := firesOnce_of_arming horderly hkeeps harming htimeout.2
    have htick : max timer.timeout (((start config platform arena).run before).timers.now + 1) =
        ((start config platform arena).run before).timers.now + max 1 delay := by
      rw [htimeout.1]
      omega
    rwa [htick] at hfires
  · rintro before operation between operation' after first second rfl hfirst hsecond
    obtain ⟨hbetween, _⟩ := along_append.mp hkeeps
    obtain ⟨_, hrest⟩ := along_append.mp hbetween
    have hle := nextSerial_le_run hrest.2
    rw [(timers_of_arming hfirst).1, ← run_cons, ← run_append] at hle
    rw [(serial_of_arming hfirst).1, (serial_of_arming hsecond).1]
    exact hle
  · rintro before after rfl
    obtain ⟨hbefore, hafter⟩ := along_append.mp hkeeps
    exact tickTakes (hafter.1 rfl) (orderly_run horderly before)

/-- Two timers of task one are due at one tick, one of them late, and so is the scheduler's. -/
theorem punctual_three_at_once :
    (start {} Platform.simulated (Arena.simulated 0)).Punctual
      [.startSchedule, .armAfter 2 5 1 "later", .tick, .armAt 1 7 1 "past", .tick, .tick] :=
  punctual_run {} Platform.simulated (Arena.simulated 0) _ (by decide)

end Scheduler

end TaskKernel
