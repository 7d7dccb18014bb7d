import TaskKernel.Proofs.Punctual
import TaskKernel.Proofs.Steps

/-!
# The scheduler's timer keeps time

Once started, the scheduler's timer is due whenever a whole number of periods has passed since. It
can be started several times, and then there are as many of them:

* `Timers.nextDue` — the first tick after now that is a whole number of periods after a start;
* `Timers.Scheduled` — the invariant: the scheduler's timers that are armed are due at the `nextDue`
  of the starts. A timer of a task that is armed does not count (`Scheduled.add_user`), and a tick
  moves on exactly those timers whose time has come (`Scheduled.elapse`);
* `answer_tick` — so a tick's answer can be computed from the ticks and the starts of a history alone;
* `conserved_requests` — the timers of tasks that were armed are those that have expired and those
  that are still armed.
-/

namespace TaskKernel

namespace Timers

variable {t : Timers} {timer : Timer} {past : List Nat} {period now start : Nat}

/-! ## Whole periods -/

/-- The first tick after `now` that is a whole number of periods after `start`. -/
def nextDue (period now start : Nat) : Nat := start + period * ((now - start) / period + 1)

theorem nextDue_self (period now : Nat) : nextDue period now now = now + period := by
  simp [nextDue]

theorem lt_nextDue (hperiod : 0 < period) (hle : start ≤ now) : now < nextDue period now start := by
  have hlt := Nat.lt_mul_div_succ (now - start) hperiod
  unfold nextDue
  omega

theorem nextDue_le_succ_iff (hperiod : 0 < period) (hle : start ≤ now) :
    nextDue period now start ≤ now + 1 ↔ ∃ k, 1 ≤ k ∧ now + 1 = start + k * period := by
  constructor
  · intro hdue
    refine ⟨(now - start) / period + 1, Nat.succ_pos _, ?_⟩
    have hlt := lt_nextDue hperiod hle
    rw [Nat.mul_comm]
    unfold nextDue at hdue hlt
    omega
  · rintro ⟨k, _, hk⟩
    -- `k` periods are more than what has passed, so the first whole number of them is no later.
    have hlt : (now - start) / period < k := Nat.div_lt_of_lt_mul (by rw [Nat.mul_comm]; omega)
    have hmul : period * ((now - start) / period + 1) ≤ k * period := by
      rw [Nat.mul_comm k]
      exact Nat.mul_le_mul_left period hlt
    unfold nextDue
    omega

theorem dvd_succ_sub_iff (hperiod : 0 < period) (hle : start ≤ now) :
    period ∣ (now - start) + 1 ↔ nextDue period now start ≤ now + 1 := by
  rw [nextDue_le_succ_iff hperiod hle]
  constructor
  · rintro ⟨k, hk⟩
    refine ⟨k, Nat.pos_of_ne_zero ?_, by rw [Nat.mul_comm]; omega⟩
    rintro rfl
    exact absurd hk (by simp)
  · rintro ⟨k, _, hk⟩
    exact ⟨k, by rw [Nat.mul_comm]; omega⟩

/-- When a tick passes, what is due at it has one period more behind it. -/
theorem succ_sub_div (hperiod : 0 < period) (hle : start ≤ now) :
    (now + 1 - start) / period =
      (now - start) / period + if nextDue period now start ≤ now + 1 then 1 else 0 := by
  have hsub : now + 1 - start = (now - start) + 1 := by omega
  rw [hsub, Nat.succ_div]
  simp only [dvd_succ_sub_iff hperiod hle]

/-- When a tick passes, what is due at it is due one period later, and everything else when it was.
-/
theorem nextDue_succ (hperiod : 0 < period) (hle : start ≤ now) :
    nextDue period (now + 1) start =
      if nextDue period now start ≤ now + 1 then now + 1 + period
      else nextDue period now start := by
  rw [nextDue, succ_sub_div hperiod hle]
  by_cases hdue : nextDue period now start ≤ now + 1
  · have hwhole := Nat.mul_div_cancel' ((dvd_succ_sub_iff hperiod hle).mpr hdue)
    have hcount : ((now - start) + 1) / period = (now - start) / period + 1 := by
      rw [Nat.succ_div, if_pos ((dvd_succ_sub_iff hperiod hle).mpr hdue)]
    rw [hcount] at hwhole
    rw [if_pos hdue, if_pos hdue, Nat.mul_succ, hwhole]
    omega
  · rw [if_neg hdue, if_neg hdue, Nat.add_zero, nextDue]

/-- Some start is due at the next tick if a whole number of periods has passed since. -/
theorem any_nextDue_iff (hperiod : 0 < period) (hle : ∀ start ∈ past, start ≤ now) :
    (past.any fun start => decide (nextDue period now start ≤ now + 1)) = true ↔
      ∃ start ∈ past, start < now + 1 ∧ ∃ k, 1 ≤ k ∧ now + 1 = start + k * period := by
  rw [List.any_eq_true]
  refine exists_congr fun start => and_congr_right fun hmem => ?_
  have hpast : start < now + 1 := Nat.lt_succ_of_le (hle start hmem)
  rw [decide_eq_true_iff, nextDue_le_succ_iff hperiod (hle start hmem)]
  exact (and_iff_right hpast).symm

/-! ## The scheduler's timers -/

/-- When the scheduler's timers that are armed are due. -/
def appointments (t : Timers) : List Nat := (t.armed.filter Timer.periodic).map Timer.timeout

/-- The scheduler's timers are due the next whole number of periods after each of the starts. -/
structure Scheduled (t : Timers) (past : List Nat) : Prop where
  past_le : ∀ start ∈ past, start ≤ t.now
  appointments_perm : t.appointments.Perm (past.map (nextDue t.period t.now))

theorem appointments_add_user (t : Timers) (huser : timer.periodic = false) :
    (t.add timer).appointments = t.appointments := by
  have hentered : Timer.periodic { timer with serial := t.nextSerial } = false := huser
  exact congrArg (List.map Timer.timeout) (filter_insert_of_neg hentered t.armed)

theorem appointments_add (t : Timers) (hperiodic : timer.periodic = true) :
    (t.add timer).appointments.Perm (timer.timeout :: t.appointments) := by
  have hentered : Timer.periodic { timer with serial := t.nextSerial } = true := hperiodic
  have hinserted := ((insert_perm { timer with serial := t.nextSerial } t.armed).filter
    Timer.periodic).map Timer.timeout
  rw [List.filter_cons_of_pos hentered] at hinserted
  exact hinserted

theorem Scheduled.add_user (h : t.Scheduled past) (huser : timer.periodic = false) :
    (t.add timer).Scheduled past where
  past_le := h.past_le
  appointments_perm := by
    rw [appointments_add_user t huser]
    exact h.appointments_perm

/-- The timer is started. -/
theorem Scheduled.add_start (h : t.Scheduled past) (hperiodic : timer.periodic = true)
    (htimeout : timer.timeout = t.now + t.period) : (t.add timer).Scheduled (past ++ [t.now]) where
  past_le := by
    intro start hmem
    rcases List.mem_append.mp hmem with hmem | hmem
    · exact h.past_le start hmem
    · exact Nat.le_of_eq (List.mem_singleton.mp hmem)
  appointments_perm := by
    have hnow : nextDue t.period t.now t.now = timer.timeout := by
      rw [nextDue_self, htimeout]
    show (t.add timer).appointments.Perm ((past ++ [t.now]).map (nextDue t.period t.now))
    rw [List.map_append, List.map_singleton, hnow]
    refine (appointments_add t hperiodic).trans ?_
    exact (List.Perm.cons _ h.appointments_perm).trans (List.perm_append_singleton _ _).symm

theorem countP_insert (timer : Timer) (armed : List Timer) :
    (insert timer armed).countP Timer.periodic =
      armed.countP Timer.periodic + if timer.periodic then 1 else 0 := by
  rw [(insert_perm timer armed).countP_eq, List.countP_cons]

/-- Each of the scheduler's timers takes a number and is armed again. -/
theorem renewAll_counts (t : Timers) (timers : List Timer) :
    (t.renewAll timers).nextSerial = t.nextSerial + timers.countP Timer.periodic ∧
      (t.renewAll timers).armed.countP Timer.periodic =
        t.armed.countP Timer.periodic + timers.countP Timer.periodic := by
  induction timers generalizing t with
  | nil => exact ⟨rfl, rfl⟩
  | cons timer rest ih =>
      rw [renewAll]
      by_cases hperiodic : timer.periodic = true
      · rw [if_pos hperiodic, List.countP_cons_of_pos hperiodic]
        obtain ⟨hserial, harmed⟩ := ih (t.add { timer with timeout := t.now + t.period })
        have hsame : ({ timer with timeout := t.now + t.period, serial := t.nextSerial } :
          Timer).periodic = true := hperiodic
        rw [hserial, harmed]
        refine ⟨?_, ?_⟩
        · show t.nextSerial + 1 + _ = _
          omega
        · show (insert _ t.armed).countP Timer.periodic + _ = _
          rw [countP_insert, if_pos hsame]
          omega
      · rw [if_neg hperiodic, List.countP_cons_of_neg hperiodic]
        exact ih t

theorem appointments_renewAll (t : Timers) (timers : List Timer) :
    (t.renewAll timers).appointments.Perm
      ((timers.filter Timer.periodic).map (fun _ => t.now + t.period) ++ t.appointments) := by
  induction timers generalizing t with
  | nil => exact .refl _
  | cons timer rest ih =>
      rw [renewAll]
      by_cases hperiodic : timer.periodic = true
      · rw [if_pos hperiodic, List.filter_cons_of_pos hperiodic, List.map_cons]
        have hrenewed : Timer.periodic { timer with timeout := t.now + t.period } = true := hperiodic
        refine (ih _).trans ?_
        refine ((appointments_add t hrenewed).append_left _).trans ?_
        exact List.perm_middle
      · rw [if_neg hperiodic, List.filter_cons_of_neg hperiodic]
        exact ih t

/-- A tick moves on by one period what is due, and nothing else. -/
theorem appointments_elapse (h : t.Orderly) :
    t.elapse.appointments.Perm (t.appointments.map fun timeout =>
      if timeout ≤ t.now + 1 then t.now + 1 + t.period else timeout) := by
  have hrenewed := appointments_renewAll { t with now := t.now + 1, armed := t.later } t.due
  have hdue : ((t.due.filter Timer.periodic).map Timer.timeout).map
      (fun timeout => if timeout ≤ t.now + 1 then t.now + 1 + t.period else timeout) =
        (t.due.filter Timer.periodic).map fun _ => t.now + 1 + t.period := by
    rw [List.map_map]
    refine List.map_congr_left fun timer hmem => if_pos ?_
    exact le_of_mem_takeWhile (List.mem_filter.mp hmem).1
  have hlater : ((t.later.filter Timer.periodic).map Timer.timeout).map
      (fun timeout => if timeout ≤ t.now + 1 then t.now + 1 + t.period else timeout) =
        (t.later.filter Timer.periodic).map Timer.timeout := by
    rw [List.map_map]
    refine List.map_congr_left fun timer hmem => if_neg ?_
    have hlt : t.now + 1 < timer.timeout :=
      lt_of_mem_dropWhile h.sorted (List.mem_filter.mp hmem).1
    exact Nat.not_le_of_lt hlt
  have hsplit : t.appointments = (t.due.filter Timer.periodic).map Timer.timeout ++
      (t.later.filter Timer.periodic).map Timer.timeout := by
    rw [← List.map_append, ← List.filter_append, due_append_later]
    rfl
  rw [hsplit, List.map_append, hdue, hlater]
  exact hrenewed

theorem Scheduled.elapse (h : t.Scheduled past) (horderly : t.Orderly) :
    t.elapse.Scheduled past where
  past_le start hmem := by
    rw [now_elapse]
    exact Nat.le_succ_of_le (h.past_le start hmem)
  appointments_perm := by
    refine (appointments_elapse horderly).trans ?_
    refine (h.appointments_perm.map _).trans (.of_eq ?_)
    rw [now_elapse, period_elapse, List.map_map]
    refine List.map_congr_left fun start hmem => ?_
    exact (nextDue_succ t.period_pos (h.past_le start hmem)).symm

/-- At the next tick as many of the scheduler's timers expire as are due by the starts. -/
theorem Scheduled.countP_due (h : t.Scheduled past) (horderly : t.Orderly) :
    t.due.countP Timer.periodic =
      past.countP fun start => decide (nextDue t.period t.now start ≤ t.now + 1) := by
  have hdue : t.due.countP (fun timer => decide (timer.timeout ≤ t.now + 1) && timer.periodic) =
      t.due.countP Timer.periodic := by
    refine List.countP_congr fun timer hmem => ?_
    have hle : timer.timeout ≤ t.now + 1 := le_of_mem_takeWhile hmem
    simp only [decide_eq_true hle, Bool.true_and]
  have hlater :
      t.later.countP (fun timer => decide (timer.timeout ≤ t.now + 1) && timer.periodic) = 0 := by
    refine List.countP_eq_zero.mpr fun timer hmem => ?_
    have hlt : t.now + 1 < timer.timeout := lt_of_mem_dropWhile horderly.sorted hmem
    simp only [decide_eq_false (Nat.not_le_of_lt hlt), Bool.false_and, Bool.false_eq_true,
      not_false_eq_true]
  calc t.due.countP Timer.periodic
      = t.armed.countP fun timer => decide (timer.timeout ≤ t.now + 1) && timer.periodic := by
        rw [← due_append_later, List.countP_append, hdue, hlater, Nat.add_zero]
    _ = t.appointments.countP fun timeout => decide (timeout ≤ t.now + 1) := by
        rw [appointments, List.countP_map, List.countP_filter]
        rfl
    _ = _ := by
        rw [h.appointments_perm.countP_eq, List.countP_map]
        rfl

/-- A decision is due at the next tick if it is so by one of the starts. -/
theorem Scheduled.any_due (h : t.Scheduled past) (horderly : t.Orderly) :
    t.due.any Timer.periodic =
      past.any fun start => decide (nextDue t.period t.now start ≤ t.now + 1) := by
  rw [Bool.eq_iff_iff, List.any_eq_true, List.any_eq_true, ← List.countP_pos_iff,
    ← List.countP_pos_iff, h.countP_due horderly]

end Timers

namespace Scheduler

open Timers

variable {s : Scheduler} {history : List Operation} {operation : Operation} {past : List Nat}

/-- The sums of the operation fit their words: those of a tick, and those of a start of the
scheduler's timer. -/
def Operation.Fits (t : Timers) (operation : Operation) : Prop :=
  (operation = .tick → t.Fits) ∧
    (operation = .startSchedule →
      t.now + t.period < Word.size ∧ t.nextSerial + 1 < Word.size)

instance (t : Timers) (operation : Operation) : Decidable (operation.Fits t) := by
  unfold Operation.Fits
  infer_instance

/-- No sum of the history exceeds its word. -/
def InBounds : Scheduler → List Operation → Prop :=
  Along fun s operation => operation.Fits s.timers

instance (s : Scheduler) (history : List Operation) : Decidable (s.InBounds history) := by
  unfold InBounds
  infer_instance

theorem InBounds.keepsTime (h : s.InBounds history) : s.KeepsTime history := by
  induction history generalizing s with
  | nil => exact trivial
  | cons operation rest ih => exact ⟨h.1.1, ih h.2⟩

/-! ## Starts -/

/-- The ticks at which the scheduler's timer is started in the course of some operations, where the
counter stands at `now` when they begin. -/
def starts (now : Nat) : List Operation → List Nat
  | [] => []
  | operation :: rest =>
    (if operation = .startSchedule then [now] else []) ++
      starts (if operation = .tick then now + 1 else now) rest

/-- The operation is a tick or a start of the scheduler's timer. -/
def Operation.paces (operation : Operation) : Bool :=
  operation = .tick ∨ operation = .startSchedule

/-- What else is done has no influence on the starts. -/
theorem starts_filter (now : Nat) (history : List Operation) :
    starts now (history.filter Operation.paces) = starts now history := by
  induction history generalizing now with
  | nil => rfl
  | cons operation rest ih =>
      by_cases hpaces : operation.paces = true
      · rw [List.filter_cons_of_pos hpaces, starts, starts, ih]
      · obtain ⟨htick, hstart⟩ := not_or.mp fun h => hpaces (decide_eq_true h)
        rw [List.filter_cons_of_neg hpaces, ih, starts, if_neg hstart, if_neg htick, List.nil_append]

theorem count_tick_filter (history : List Operation) :
    (history.filter Operation.paces).count .tick = history.count .tick :=
  List.count_filter rfl

theorem starts_eq_nil (hnone : .startSchedule ∉ history) (now : Nat) : starts now history = [] := by
  induction history generalizing now with
  | nil => rfl
  | cons operation rest ih =>
      have hfirst : operation ≠ .startSchedule := (List.ne_of_not_mem_cons hnone).symm
      rw [starts, if_neg hfirst, ih (List.not_mem_of_not_mem_cons hnone), List.append_nil]

/-! ## One operation -/

/-- A start that fits its words arms the timer. -/
theorem arming_startSchedule (hfits : Operation.startSchedule.Fits s.timers) :
    s.arming? .startSchedule = Operation.startSchedule.request? s.timers := by
  obtain ⟨htimeout, hnumber⟩ := hfits.2 rfl
  exact arming_of_request rfl hnumber fun _ => htimeout

/-- What else is armed is a timer of a task. -/
theorem periodic_of_arming {timer : Timer} (hstart : operation ≠ .startSchedule)
    (harming : s.arming? operation = some timer) : timer.periodic = false := by
  unfold arming? at harming
  split at harming
  · cases operation with
    | startSchedule => exact absurd rfl hstart
    | armAt | armAfter =>
        cases harming
        rfl
    | create | prepare | prepareWith | editContext | launch | wake | suspend | preempt | send
    | receive | receiveOrSuspend | exit | awaitExit | tick | restock => exact nomatch harming
  · exact nomatch harming

theorem scheduled_perform (h : s.timers.Scheduled past) (horderly : s.timers.Orderly)
    (hfits : operation.Fits s.timers) :
    (s.perform operation).state.timers.Scheduled (past ++ starts s.timers.now [operation]) := by
  by_cases htick : operation = .tick
  · subst htick
    rw [(perform_tick (hfits.1 rfl)).2.1, starts_eq_nil (by simp), List.append_nil]
    exact h.elapse horderly
  · rw [timers_perform htick]
    by_cases hstart : operation = .startSchedule
    · subst hstart
      rw [arming_startSchedule hfits]
      exact h.add_start rfl rfl
    · rw [starts_eq_nil (by simpa using Ne.symm hstart), List.append_nil]
      cases harming : s.arming? operation with
      | none => exact h
      | some timer => exact h.add_user (periodic_of_arming hstart harming)

/-- The answer of a tick tells whether a decision is due by one of the starts. -/
theorem answer_tick (h : s.timers.Scheduled past) (horderly : s.timers.Orderly)
    (hfits : s.timers.Fits) :
    (s.perform .tick).answer = .ok (.due (past.any fun start =>
      decide (nextDue s.timers.period s.timers.now start ≤ s.timers.now + 1))) := by
  rw [← h.any_due horderly]
  exact (perform_tick hfits).1

/-- The timers of tasks that are armed. -/
def waiting (s : Scheduler) : List Timer := s.timers.armed.filter (!·.periodic)

/-- The timers of tasks that an operation arms. -/
def requested (s : Scheduler) (operation : Operation) : List Timer :=
  (s.arming? operation).toList.filter (!·.periodic)

/-- The timers of tasks that expire in an operation. -/
def processed (s : Scheduler) (operation : Operation) : List Timer :=
  (s.expired operation).filter (!·.periodic)

/-- The scheduler's timers that are armed, and those of tasks. -/
theorem count_eq (s : Scheduler) :
    s.timers.count = s.timers.appointments.length + s.waiting.length := by
  unfold appointments
  rw [List.length_map]
  exact List.length_eq_length_filter_add Timer.periodic

theorem requested_perform (hfits : operation = .tick → s.timers.Fits) :
    (s.waiting ++ s.requested operation).Perm
      (s.processed operation ++ (s.perform operation).state.waiting) := by
  by_cases htick : operation = .tick
  · subst htick
    obtain ⟨_, htimers, hexpired⟩ := perform_tick (hfits rfl)
    have hnone : s.requested .tick = [] := by
      unfold requested arming?
      split
      · rfl
      · rfl
    refine .of_eq ?_
    unfold waiting processed
    rw [hnone, htimers, hexpired, filter_elapse, ← List.filter_append, due_append_later,
      List.append_nil]
  · unfold processed
    rw [expired_of_ne_tick htick]
    cases harming : s.arming? operation with
    | none =>
        unfold waiting requested
        rw [timers_perform htick, harming]
        exact .of_eq (List.append_nil _)
    | some timer =>
        have hentered : ({ timer with serial := s.timers.nextSerial } : Timer) = timer := by
          rw [← (serial_of_arming harming).1]
        unfold waiting requested
        rw [(timers_of_arming harming).1, harming, add, hentered]
        refine .trans ?_ ((insert_perm timer s.timers.armed).filter _).symm
        rw [Option.toList_some, ← List.filter_append]
        exact (List.perm_append_singleton timer _).filter _

/-! ## Histories -/

theorem scheduled_run (h : s.timers.Scheduled past) (horderly : s.timers.Orderly)
    (hbounds : s.InBounds history) :
    (s.run history).timers.Scheduled (past ++ starts s.timers.now history) := by
  induction history generalizing s past with
  | nil => exact (List.append_nil past).symm ▸ h
  | cons operation rest ih =>
      have hfits : operation = .tick → s.timers.Fits := hbounds.1.1
      have hrest := ih (scheduled_perform h horderly hbounds.1) (orderly_perform horderly operation)
        hbounds.2
      rw [now_perform hfits, starts, starts, List.append_nil, List.append_assoc] at hrest
      exact hrest

theorem period_run (hkeeps : s.KeepsTime history) :
    (s.run history).timers.period = s.timers.period :=
  timers_run (P := fun t => t.period = s.timers.period) (fun _ h => h)
    (fun {t} h => (period_elapse t).trans h) hkeeps rfl

/-- The timers of tasks that were armed are those that have expired and those that still are armed.
-/
theorem conserved_requests (hkeeps : s.KeepsTime history) :
    (s.waiting ++ s.gather requested history).Perm
      (s.gather processed history ++ (s.run history).waiting) := by
  induction history generalizing s with
  | nil => exact .of_eq (List.append_nil _)
  | cons operation rest ih =>
      rw [gather, gather, run_cons, ← List.append_assoc, List.append_assoc (s.processed operation)]
      refine ((requested_perform hkeeps.1).append_right _).trans ?_
      rw [List.append_assoc]
      exact (ih hkeeps.2).append_left _

theorem scheduled_start (config : Config) : (Timers.start config).Scheduled [] where
  past_le _ hmem := nomatch hmem
  appointments_perm := .refl []

/-- The scheduler's timer keeps time with this period over a history from the start. -/
structure Cadence (s : Scheduler) (period : Nat) (history : List Operation) : Prop where
  /-- The counter counts the ticks. -/
  time : (s.run history).timers.now = history.count .tick
  /-- A tick is a time for a decision exactly if a whole number of periods has passed since one of
  the starts. -/
  due : ∀ before after tick, history = before ++ .tick :: after →
    ((s.run before).perform .tick).state.timers.now = tick →
      ∃ due, ((s.run before).perform .tick).answer = .ok (.due due) ∧
        (due = true ↔
          ∃ start ∈ starts 0 before, start < tick ∧ ∃ k, 1 ≤ k ∧ tick = start + k * period)
  /-- Of two histories with the same ticks and starts, both are told the same. -/
  unaffected : ∀ before after other, history = before ++ .tick :: after →
    s.InBounds (other ++ [.tick]) →
    other.filter Operation.paces = before.filter Operation.paces →
      ((s.run other).perform .tick).answer = ((s.run before).perform .tick).answer
  /-- Tasks are told of their own timers only. -/
  silent : ∀ before after, history = before ++ .tick :: after →
    ((s.run before).perform .tick).state.tasks =
      ((s.run before).processed .tick).foldl Dispatcher.remind (s.run before).tasks
  /-- There are as many armed timers as there were starts, and as there are timers of tasks that were
  armed and have not expired. -/
  count : ∃ left, (s.gather requested history).Perm (s.gather processed history ++ left) ∧
    (s.run history).timers.count = (starts 0 history).length + left.length

section Start

variable {config : Config} {platform : Platform} {arena : Arena} {before : List Operation}

theorem scheduled_run_start (hbounds : (start config platform arena).InBounds before) :
    ((start config platform arena).run before).timers.Scheduled (starts 0 before) :=
  scheduled_run (scheduled_start config) (orderly_start config) hbounds

/-- From the start, the answer of a tick depends on the ticks and the starts before it only. -/
theorem answer_tick_start (hbounds : (start config platform arena).InBounds (before ++ [.tick])) :
    (((start config platform arena).run before).perform .tick).answer =
      .ok (.due ((starts 0 before).any fun start =>
        decide (nextDue config.period (before.count .tick) start ≤ before.count .tick + 1))) := by
  obtain ⟨hbefore, hfits, _⟩ := along_append.mp hbounds
  have hkeeps := InBounds.keepsTime hbefore
  have hnow : ((start config platform arena).run before).timers.now = before.count .tick :=
    (now_run hkeeps).trans (Nat.zero_add _)
  have hperiod : ((start config platform arena).run before).timers.period = config.period :=
    period_run hkeeps
  rw [answer_tick (scheduled_run_start hbefore) (orderly_run (orderly_start config) before)
      (hfits.1 rfl),
    hnow, hperiod]

theorem due_run_start (hbounds : (start config platform arena).InBounds (before ++ [.tick]))
    {tick : Nat}
    (htick : (((start config platform arena).run before).perform .tick).state.timers.now = tick) :
    ∃ due, (((start config platform arena).run before).perform .tick).answer = .ok (.due due) ∧
      (due = true ↔ ∃ start ∈ starts 0 before,
        start < tick ∧ ∃ k, 1 ≤ k ∧ tick = start + k * max 1 config.schedulerPeriod) := by
  obtain ⟨hbefore, hfits, _⟩ := along_append.mp hbounds
  have hnow : ((start config platform arena).run before).timers.now = before.count .tick :=
    (now_run (InBounds.keepsTime hbefore)).trans (Nat.zero_add _)
  have hle := (scheduled_run_start hbefore).past_le
  rw [now_perform hfits.1, if_pos rfl, hnow] at htick
  rw [hnow] at hle
  subst htick
  rw [Nat.max_comm]
  exact ⟨_, answer_tick_start hbounds, any_nextDue_iff config.period_pos hle⟩

theorem cadence_start (hbounds : (start config platform arena).InBounds history) :
    (start config platform arena).Cadence (max 1 config.schedulerPeriod) history := by
  have hkeeps := hbounds.keepsTime
  -- A history that ends at one of the ticks is in bounds, too.
  have hends : ∀ before after, history = before ++ .tick :: after →
      (start config platform arena).InBounds (before ++ [.tick]) := by
    rintro before after rfl
    rw [List.append_cons] at hbounds
    exact (along_append.mp hbounds).1
  refine ⟨?_, ?_, ?_, ?_, ?_⟩
  · exact (now_run hkeeps).trans (Nat.zero_add _)
  · intro before after tick hsplit htick
    exact due_run_start (hends before after hsplit) htick
  · intro before after other hsplit hother hsame
    rw [answer_tick_start hother, answer_tick_start (hends before after hsplit),
      ← starts_filter 0 other, ← starts_filter 0 before, ← count_tick_filter other,
      ← count_tick_filter before, hsame]
  · intro before after _
    show (tick _).state.tasks = _
    rw [(tasks_tick _).1]
    exact (Dispatcher.remindAll_filter _ _).symm
  · refine ⟨_, conserved_requests hkeeps, ?_⟩
    rw [count_eq, (scheduled_run_start hbounds).appointments_perm.length_eq, List.length_map]

end Start

/-! ## A kernel -/

/-- Only within a use of the timers is the scheduler's timer started again. -/
theorem not_startSchedule_mem {d : Dispatcher} {step : Kernel.Step}
    (hstep : step ≠ .within .startSchedule) : .startSchedule ∉ step.operations d := by
  cases step with
  | within operation =>
      intro hmem
      exact hstep (congrArg _ (List.mem_singleton.mp hmem).symm)
  | call call => cases call <;> simp [Kernel.Step.operations]

theorem not_startSchedule_mem_operations (k : Kernel) {steps : List Kernel.Step}
    (hsteps : .within .startSchedule ∉ steps) : .startSchedule ∉ k.operations steps := by
  induction steps generalizing k with
  | nil => exact List.not_mem_nil
  | cons step rest ih =>
      intro hmem
      rcases List.mem_append.mp hmem with hmem | hmem
      · exact not_startSchedule_mem (List.ne_of_not_mem_cons hsteps).symm hmem
      · exact ih (k.apply step) (List.not_mem_of_not_mem_cons hsteps) hmem

/-- **The scheduler's timer is strictly periodic**, whatever else is done, as long as no sum exceeds
its word. A kernel starts it once, when no tick has passed. -/
theorem cadence_run (config : Config) (platform : Platform) (arena : Arena)
    (history : List Operation) (hbounds : (start config platform arena).InBounds history) :
    (start config platform arena).Cadence (max 1 config.schedulerPeriod) history ∧
      ∀ interrupts k steps, Kernel.start config platform arena interrupts = .ok k →
        .within .startSchedule ∉ steps → history = .startSchedule :: k.operations steps →
          (k.after steps).scheduler = (start config platform arena).run history ∧
            starts 0 history = [0] := by
  refine ⟨cadence_start hbounds, ?_⟩
  rintro interrupts k steps hstart hsteps rfl
  have hbegun := Kernel.leaves_start hstart
  refine ⟨?_, ?_⟩
  · rw [run_cons, (Kernel.after_refines hbegun.toIdle steps).scheduler_eq, hbegun.scheduler_eq]
    rfl
  · rw [starts, starts_eq_nil (not_startSchedule_mem_operations k hsteps)]
    rfl

/-- The timer of a task is due when the scheduler's is, which then is started once more. -/
theorem cadence_two_starts :
    (start {} Platform.simulated (Arena.simulated 0)).Cadence 2
        [.startSchedule, .armAt 2 7 1 "user", .tick, .tick, .tick, .startSchedule, .tick, .tick] ∧
      ∃ k history, Kernel.start {} Platform.simulated (Arena.simulated 0) true = .ok k ∧
        history = .startSchedule :: k.operations
          [.call (.armAt 2 7 1 "user"), .call .tick, .call .tick] ∧
        (k.after [.call (.armAt 2 7 1 "user"), .call .tick, .call .tick]).scheduler =
          (start {} Platform.simulated (Arena.simulated 0)).run history ∧
        starts 0 history = [0] := by
  refine ⟨(cadence_run {} _ _ _ (by decide)).1, _, _, rfl, rfl, ?_⟩
  exact (cadence_run {} _ _ _ (by decide)).2 true _ _ rfl (by decide) rfl

end Scheduler

end TaskKernel
