import TaskKernel.Proofs.Expiry
import Mathlib.Data.List.TakeWhile

/-!
# The agenda

The armed timers stand in the order in which they expire: by timeout, and those with one timeout in
the order in which they were armed (`Timers.Orderly`, `orderly_run`). A tick takes those that are
due off the front, and enters the scheduler's again one period on, which is behind all that are due
(`insert_append`). So a tick never meets a timer twice: as long as the counters fit their words
(`Timers.Fits`) it ends, what expires is what was due, and what is left is later (`perform_tick`).
-/

namespace TaskKernel

/-- The timer expires first: its timeout is earlier, or it was armed earlier. -/
def Timer.Before (first second : Timer) : Prop :=
  first.timeout < second.timeout ∨
    first.timeout = second.timeout ∧ first.serial < second.serial

namespace Timers

variable {t : Timers} {timer other : Timer} {armed earlier rest : List Timer} {n : Nat}

/-! ## Placing a timer -/

theorem insert_perm (timer : Timer) (armed : List Timer) :
    (insert timer armed).Perm (timer :: armed) := by
  unfold insert
  refine List.perm_middle.trans (List.Perm.cons timer ?_)
  rw [List.takeWhile_append_dropWhile]

theorem mem_insert : other ∈ insert timer armed ↔ other = timer ∨ other ∈ armed := by
  rw [(insert_perm timer armed).mem_iff, List.mem_cons]

/-- A timer is placed behind those that expire no later. -/
theorem insert_append (hearlier : ∀ other ∈ earlier, other.timeout ≤ timer.timeout)
    (rest : List Timer) : insert timer (earlier ++ rest) = earlier ++ insert timer rest := by
  have hall : ∀ other ∈ earlier, decide (other.timeout ≤ timer.timeout) = true :=
    fun other hmem => decide_eq_true (hearlier other hmem)
  unfold insert
  rw [List.takeWhile_append_of_pos hall, List.dropWhile_append_of_pos hall, List.append_assoc]

/-- What is placed does not count for a question that is not about it. -/
theorem filter_insert_of_neg {p : Timer → Bool} (hp : p timer = false) (armed : List Timer) :
    (insert timer armed).filter p = armed.filter p := by
  unfold insert
  rw [List.filter_append, List.filter_cons_of_neg (by simp [hp]), ← List.filter_append,
    List.takeWhile_append_dropWhile]

/-- Behind the first timer that is not due, none is. -/
theorem lt_of_mem_dropWhile (hsorted : armed.Pairwise Timer.Before)
    (hmem : other ∈ armed.dropWhile (·.timeout ≤ n)) : n < other.timeout := by
  induction armed with
  | nil => simp at hmem
  | cons first rest ih =>
      obtain ⟨hfirst, hrest⟩ := List.pairwise_cons.mp hsorted
      by_cases hdue : first.timeout ≤ n
      · rw [List.dropWhile_cons_of_pos (by simpa using hdue)] at hmem
        exact ih hrest hmem
      · rw [List.dropWhile_cons_of_neg (by simpa using hdue)] at hmem
        rcases List.mem_cons.mp hmem with rfl | hmem
        · omega
        · rcases hfirst other hmem with hlt | ⟨heq, _⟩
          · omega
          · omega

theorem le_of_mem_takeWhile (hmem : other ∈ armed.takeWhile (·.timeout ≤ n)) :
    other.timeout ≤ n := by
  have hsatisfies := List.mem_takeWhile_imp hmem
  simpa using hsatisfies

theorem pairwise_insert (hsorted : armed.Pairwise Timer.Before)
    (hlast : ∀ other ∈ armed, other.serial < timer.serial) :
    (insert timer armed).Pairwise Timer.Before := by
  unfold insert
  have hsplit := hsorted
  rw [← List.takeWhile_append_dropWhile (p := fun other => decide (other.timeout ≤ timer.timeout))
    (l := armed)] at hsplit
  obtain ⟨hfirst, hsecond, hacross⟩ := List.pairwise_append.mp hsplit
  have hbehind : ∀ other ∈ armed.dropWhile (·.timeout ≤ timer.timeout), timer.Before other :=
    fun other hmem => .inl (lt_of_mem_dropWhile hsorted hmem)
  refine List.pairwise_append.mpr ⟨hfirst, List.pairwise_cons.mpr ⟨hbehind, hsecond⟩, ?_⟩
  intro first hmem second hsecond
  rcases List.mem_cons.mp hsecond with rfl | hsecond
  · have hle : first.timeout ≤ second.timeout := le_of_mem_takeWhile hmem
    have hserial := hlast first ((List.takeWhile_sublist _).subset hmem)
    rcases Nat.lt_or_eq_of_le hle with hlt | heq
    · exact .inl hlt
    · exact .inr ⟨heq, hserial⟩
  · exact hacross first hmem second hsecond

/-! ## The order of the armed timers -/

/-- The armed timers stand in the order in which they expire, and each number is used once. -/
structure Orderly (t : Timers) : Prop where
  sorted : t.armed.Pairwise Timer.Before
  serial_lt : ∀ timer ∈ t.armed, timer.serial < t.nextSerial

/-- Enter a timer under the next number. -/
def add (t : Timers) (timer : Timer) : Timers :=
  { t with
    nextSerial := t.nextSerial + 1
    armed := insert { timer with serial := t.nextSerial } t.armed }

theorem Orderly.add (h : t.Orderly) (timer : Timer) : (t.add timer).Orderly where
  sorted := pairwise_insert h.sorted h.serial_lt
  serial_lt := by
    intro other hmem
    show other.serial < t.nextSerial + 1
    rcases mem_insert.mp hmem with rfl | hmem
    · exact Nat.lt_succ_self _
    · exact Nat.lt_succ_of_lt (h.serial_lt other hmem)

theorem Orderly.tail (h : t.Orderly) (harmed : t.armed = timer :: rest) :
    ({ t with armed := rest } : Timers).Orderly where
  sorted := (List.pairwise_cons.mp (harmed ▸ h.sorted)).2
  serial_lt other hmem := h.serial_lt other (harmed ▸ List.mem_cons_of_mem timer hmem)

theorem Orderly.nodup (h : t.Orderly) : t.armed.Nodup := by
  refine h.sorted.imp ?_
  rintro first _ hbefore rfl
  rcases hbefore with hlt | ⟨_, hlt⟩
  · exact Nat.lt_irrefl _ hlt
  · exact Nat.lt_irrefl _ hlt

theorem arm_eq (t : Timers) (timeout : Nat) (purpose : Purpose) (target : TaskId) (label : Label) :
    t.arm timeout purpose target label =
      if t.nextSerial + 1 < Word.size then
        .ok (t.add { timeout, purpose, target, label, serial := t.nextSerial })
      else .error (.overflow .add) := by
  unfold arm Word.add
  by_cases hfits : t.nextSerial + 1 < Word.size
  · rw [if_pos hfits, if_pos hfits]
    rfl
  · rw [if_neg hfits, if_neg hfits]
    rfl

/-- The scheduler's timer is armed if the sums fit their words. -/
theorem startSchedule_eq (t : Timers) :
    t.startSchedule =
      if t.now + t.period < Word.size ∧ t.nextSerial + 1 < Word.size then
        .ok (t.add {
          timeout := t.now + t.period
          purpose := .schedule
          target := TaskId.kernel
          label := Label.ofString "sched"
          serial := t.nextSerial })
      else .error (.overflow .add) := by
  unfold startSchedule armSchedule Word.add
  by_cases htimeout : t.now + t.period < Word.size
  · simp only [htimeout, if_true, true_and, bind, Except.bind, arm_eq]
  · simp only [htimeout, if_false, false_and, bind, Except.bind]

/-! ## A tick -/

/-- The timers whose time has come at the next tick. -/
def due (t : Timers) : List Timer := t.armed.takeWhile (·.timeout ≤ t.now + 1)

/-- The timers whose time comes later. -/
def later (t : Timers) : List Timer := t.armed.dropWhile (·.timeout ≤ t.now + 1)

/-- Of some timers that expired, the scheduler's are entered again, one period from now. -/
def renewAll (t : Timers) : List Timer → Timers
  | [] => t
  | timer :: rest =>
    (if timer.periodic then t.add { timer with timeout := t.now + t.period } else t).renewAll rest

/-- The timers after a tick. -/
def elapse (t : Timers) : Timers :=
  { t with now := t.now + 1, armed := t.later }.renewAll t.due

/-- The next tick and the numbers that it deals out fit their words. -/
def Fits (t : Timers) : Prop :=
  t.now + 1 < Word.size ∧
    (t.due.any Timer.periodic = true →
      t.now + 1 + t.period < Word.size ∧ t.nextSerial + t.due.countP Timer.periodic < Word.size)

instance (t : Timers) : Decidable t.Fits := by
  unfold Fits
  infer_instance

theorem due_append_later (t : Timers) : t.due ++ t.later = t.armed :=
  List.takeWhile_append_dropWhile

theorem mem_due_iff (h : t.Orderly) :
    timer ∈ t.due ↔ timer ∈ t.armed ∧ timer.timeout ≤ t.now + 1 := by
  constructor
  · intro hmem
    exact ⟨(List.takeWhile_sublist _).subset hmem, le_of_mem_takeWhile hmem⟩
  · rintro ⟨hmem, hle⟩
    rw [← t.due_append_later] at hmem
    rcases List.mem_append.mp hmem with hmem | hmem
    · exact hmem
    · have hlt : t.now + 1 < timer.timeout := lt_of_mem_dropWhile h.sorted hmem
      omega

theorem renew_eq (t : Timers) (timer : Timer)
    (hfits : timer.periodic = true →
      t.now + t.period < Word.size ∧ t.nextSerial + 1 < Word.size) :
    t.renew timer =
      .ok (if timer.periodic then t.add { timer with timeout := t.now + t.period } else t) := by
  obtain ⟨timeout, purpose, target, label, serial⟩ := timer
  cases purpose with
  | user value => rfl
  | schedule =>
      obtain ⟨htimeout, hserial⟩ := hfits rfl
      show t.armSchedule target label = _
      unfold armSchedule
      rw [Word.add_eq_ok.mpr ⟨htimeout, rfl⟩]
      show t.arm (t.now + t.period) .schedule target label = _
      rw [arm_eq, if_pos hserial]
      rfl

theorem now_renewAll (t : Timers) (timers : List Timer) :
    (t.renewAll timers).now = t.now ∧ (t.renewAll timers).period = t.period := by
  induction timers generalizing t with
  | nil => exact ⟨rfl, rfl⟩
  | cons timer rest ih =>
      rw [renewAll]
      split
      · exact ih _
      · exact ih _

theorem Orderly.renewAll (h : t.Orderly) (timers : List Timer) : (t.renewAll timers).Orderly := by
  induction timers generalizing t with
  | nil => exact h
  | cons timer rest ih =>
      rw [Timers.renewAll]
      split
      · exact ih (h.add _)
      · exact ih h

/-- No user's timer is armed in a tick. -/
theorem filter_renewAll (t : Timers) (timers : List Timer) :
    (t.renewAll timers).armed.filter (!·.periodic) = t.armed.filter (!·.periodic) := by
  induction timers generalizing t with
  | nil => rfl
  | cons timer rest ih =>
      rw [renewAll, ih]
      by_cases hperiodic : timer.periodic = true
      · rw [if_pos hperiodic, add]
        exact filter_insert_of_neg (by simpa [Timer.periodic] using hperiodic) t.armed
      · rw [if_neg hperiodic]

/-- What is entered again is later, too. -/
theorem lt_of_mem_renewAll (hlater : ∀ other ∈ t.armed, t.now < other.timeout)
    (timers : List Timer) : ∀ other ∈ (t.renewAll timers).armed, t.now < other.timeout := by
  induction timers generalizing t with
  | nil => exact hlater
  | cons timer rest ih =>
      rw [renewAll]
      split
      · refine ih (t := t.add _) fun other hmem => ?_
        rcases mem_insert.mp hmem with rfl | hmem
        · exact Nat.lt_add_of_pos_right t.period_pos
        · exact hlater other hmem
      · exact ih hlater

theorem Orderly.elapse (h : t.Orderly) : t.elapse.Orderly := by
  have hlater : ({ t with now := t.now + 1, armed := t.later } : Timers).Orderly := {
    sorted := h.sorted.sublist (List.dropWhile_sublist _)
    serial_lt := fun timer hmem =>
      h.serial_lt timer ((List.dropWhile_sublist _).subset hmem) }
  exact hlater.renewAll t.due

theorem now_elapse (t : Timers) : t.elapse.now = t.now + 1 := (now_renewAll _ _).1

theorem period_elapse (t : Timers) : t.elapse.period = t.period := (now_renewAll _ _).2

/-- After a tick nothing is due any more. -/
theorem lt_of_mem_elapse (h : t.Orderly) : ∀ timer ∈ t.elapse.armed, t.now + 1 < timer.timeout :=
  lt_of_mem_renewAll (t := { t with now := t.now + 1, armed := t.later })
    (fun _ hmem => lt_of_mem_dropWhile h.sorted hmem) t.due

/-- Of the users' timers those are left that are not due. -/
theorem filter_elapse (t : Timers) :
    t.elapse.armed.filter (!·.periodic) = t.later.filter (!·.periodic) :=
  filter_renewAll _ _

end Timers

namespace Scheduler

open Timers

variable {s : Scheduler}

/-- The loop of a tick takes the timers that are due off the front one by one, and leaves what it
enters again behind them. -/
theorem expireFirst_due {due rest : List Timer} (harmed : s.timers.armed = due ++ rest)
    (hdue : ∀ timer ∈ due, timer.timeout ≤ s.timers.now)
    (hfits : due.any Timer.periodic = true → s.timers.now + s.timers.period < Word.size ∧
      s.timers.nextSerial + due.countP Timer.periodic < Word.size) :
    (s.expireFirst due.length).answer = .ok (due.any Timer.periodic) ∧
      (s.expireFirst due.length).state.timers =
        ({ s.timers with armed := rest } : Timers).renewAll due ∧
      s.timers.expiring due.length = due := by
  induction due generalizing s rest with
  | nil =>
      have hsame : ({ s.timers with armed := rest } : Timers) = s.timers := by
        rw [← List.nil_append rest, ← harmed]
      exact ⟨rfl, hsame.symm, rfl⟩
  | cons timer due ih =>
      obtain ⟨_, hothers⟩ := List.forall_mem_cons.mp hdue
      have hrenewed := renew_eq { s.timers with armed := due ++ rest } timer
      by_cases hperiodic : timer.periodic = true
      · obtain ⟨htimeout, hserial⟩ := hfits (by simp [hperiodic])
        rw [List.countP_cons_of_pos hperiodic] at hserial
        simp only [if_pos hperiodic] at hrenewed
        replace hrenewed := hrenewed fun _ => ⟨htimeout, by show s.timers.nextSerial + 1 < _; omega⟩
        -- One period on is behind everything that is due now.
        have hbehind : ∀ other ∈ due, other.timeout ≤ s.timers.now + s.timers.period :=
          fun other hmem => Nat.le_add_right_of_le (hothers other hmem)
        obtain ⟨hanswer, htimers, hexpiring⟩ := ih (s := {
          tasks := s.tasks.remind timer
          timers := ({ s.timers with armed := due ++ rest } : Timers).add
            { timer with timeout := s.timers.now + s.timers.period } })
          (insert_append hbehind rest) hothers
          (fun _ => ⟨htimeout, by show s.timers.nextSerial + 1 + _ < _; omega⟩)
        rw [List.length_cons, expireFirst_succ harmed hrenewed, expiring_succ harmed hrenewed]
        refine ⟨?_, ?_, congrArg _ hexpiring⟩
        · rw [Outcome.answer_after, Outcome.answer_map, hanswer]
          rfl
        · rw [Outcome.state_after, Outcome.state_map, htimers, renewAll, if_pos hperiodic]
          rfl
      · have hperiodic' : timer.periodic = false := Bool.not_eq_true _ ▸ hperiodic
        simp only [if_neg hperiodic] at hrenewed
        replace hrenewed := hrenewed fun h => absurd h hperiodic
        obtain ⟨hanswer, htimers, hexpiring⟩ := ih (s := {
          tasks := s.tasks.remind timer
          timers := { s.timers with armed := due ++ rest } }) rfl hothers fun hdue => by
            have hfits' := hfits (by simp [hdue])
            rwa [List.countP_cons_of_neg hperiodic] at hfits'
        rw [List.length_cons, expireFirst_succ harmed hrenewed, expiring_succ harmed hrenewed]
        refine ⟨?_, ?_, congrArg _ hexpiring⟩
        · rw [Outcome.answer_after, Outcome.answer_map, hanswer, List.any_cons]
          rfl
        · rw [Outcome.state_after, Outcome.state_map, htimers, renewAll, if_neg hperiodic]

/-- As long as the counters fit their words, a tick ends, what expires is what was due, and the
answer is whether the scheduler's timer was among it. -/
theorem perform_tick (hfits : s.timers.Fits) :
    (s.perform .tick).answer = .ok (.due (s.timers.due.any Timer.periodic)) ∧
      (s.perform .tick).state.timers = s.timers.elapse ∧ s.expired .tick = s.timers.due := by
  obtain ⟨hnow, hperiodic⟩ := hfits
  have hadd : Word.add s.timers.now 1 = .ok (s.timers.now + 1) := Word.add_eq_ok.mpr ⟨hnow, rfl⟩
  have hcount : ({ s.timers with now := s.timers.now + 1 } : Timers).dueCount =
      s.timers.due.length := rfl
  obtain ⟨hanswer, htimers, hexpiring⟩ := expireFirst_due
    (s := { s with timers := { s.timers with now := s.timers.now + 1 } })
    s.timers.due_append_later.symm (fun _ hmem => le_of_mem_takeWhile hmem) hperiodic
  unfold expired perform tick Timers.elapsing
  simp only [hadd, hcount, Outcome.answer_map, Outcome.state_map, hanswer]
  exact ⟨rfl, htimers, hexpiring⟩

/-- The timer that an operation asks for. -/
def Operation.request? (t : Timers) : Operation → Option Timer
  | .startSchedule => some {
      timeout := t.now + t.period
      purpose := .schedule
      target := TaskId.kernel
      label := Label.ofString "sched"
      serial := t.nextSerial }
  | .armAt timeout value target label => some {
      timeout
      purpose := .user value
      target
      label := Label.ofString label
      serial := t.nextSerial }
  | .armAfter delay value target label => some {
      timeout := Word.saturatingAdd t.now delay
      purpose := .user value
      target
      label := Label.ofString label
      serial := t.nextSerial }
  | _ => none

/-- The timer that an operation arms, if it succeeds. -/
def arming? (s : Scheduler) (operation : Operation) : Option Timer :=
  if (s.perform operation).answer.isOk then operation.request? s.timers else none

/-- A timer that is asked for is entered, or the operation stops on a fault. -/
theorem timers_request {operation : Operation} {act : Timers → Except Fault Timers} {timer : Timer}
    (hperform : s.perform operation = (s.onTimers act).map fun () => .unit)
    (hrequest : operation.request? s.timers = some timer)
    (hact : ∀ timers, act s.timers = .ok timers → timers = s.timers.add timer) :
    (s.perform operation).state.timers = (s.arming? operation).elim s.timers s.timers.add := by
  unfold arming? onTimers at *
  rw [hrequest, hperform]
  cases hanswer : act s.timers with
  | error cause => rfl
  | ok timers =>
      rw [hact timers hanswer]
      rfl

theorem eq_add_of_arm {t timers : Timers} {timeout : Nat} {purpose : Purpose} {target : TaskId}
    {label : Label} (h : t.arm timeout purpose target label = .ok timers) :
    timers = t.add { timeout, purpose, target, label, serial := t.nextSerial } := by
  rw [arm_eq] at h
  split at h
  · exact (Except.ok.inj h).symm
  · exact nomatch h

theorem eq_add_of_armSchedule {t timers : Timers} {target : TaskId} {label : Label}
    (h : t.armSchedule target label = .ok timers) :
    timers = t.add {
      timeout := t.now + t.period, purpose := .schedule, target, label, serial := t.nextSerial } := by
  unfold armSchedule at h
  cases hadd : Word.add t.now t.period with
  | error cause =>
      rw [hadd] at h
      exact nomatch h
  | ok timeout =>
      rw [hadd] at h
      obtain ⟨_, rfl⟩ := Word.add_eq_ok.mp hadd
      exact eq_add_of_arm h

/-- A request for a timer is met if there is a number for it, and if the timeout of the scheduler's
fits its word. -/
theorem answer_of_request {operation : Operation} {timer : Timer}
    (hrequest : operation.request? s.timers = some timer)
    (hnumber : s.timers.nextSerial + 1 < Word.size)
    (htimeout : timer.periodic = true → timer.timeout < Word.size) :
    (s.perform operation).answer = .ok .unit := by
  cases operation with
  | startSchedule =>
      cases hrequest
      unfold perform onTimers
      simp only [startSchedule_eq, if_pos (And.intro (htimeout rfl) hnumber)]
      rfl
  | armAt timeout value target label =>
      unfold perform onTimers armAt
      simp only [arm_eq, if_pos hnumber]
      rfl
  | armAfter delay value target label =>
      unfold perform onTimers armAfter armAt
      simp only [arm_eq, if_pos hnumber]
      rfl
  | create | prepare | prepareWith | editContext | launch | wake | suspend | preempt | send
  | receive | receiveOrSuspend | exit | awaitExit | tick | restock => exact nomatch hrequest

theorem arming_of_request {operation : Operation} {timer : Timer}
    (hrequest : operation.request? s.timers = some timer)
    (hnumber : s.timers.nextSerial + 1 < Word.size)
    (htimeout : timer.periodic = true → timer.timeout < Word.size) :
    s.arming? operation = some timer := by
  unfold arming?
  rw [answer_of_request hrequest hnumber htimeout]
  exact hrequest

/-- Between two ticks, timers are only entered. -/
theorem timers_perform {operation : Operation} (htick : operation ≠ .tick) :
    (s.perform operation).state.timers = (s.arming? operation).elim s.timers s.timers.add := by
  cases operation with
  | tick => exact absurd rfl htick
  | create | prepare | prepareWith | launch | wake | suspend | preempt | send | receive
  | receiveOrSuspend | exit | awaitExit | restock =>
      simp only [arming?, Operation.request?, ite_self, Option.elim_none]
      rfl
  | editContext id edits =>
      simp only [arming?, Operation.request?, ite_self, Option.elim_none]
      unfold perform
      cases htask : s.tasks.find? id with
      | none =>
          simp only [htask]
          rfl
      | some task =>
          simp only [htask]
          rfl
  | startSchedule => exact timers_request rfl rfl fun _ h => eq_add_of_armSchedule h
  | armAt timeout value target label => exact timers_request rfl rfl fun _ h => eq_add_of_arm h
  | armAfter delay value target label => exact timers_request rfl rfl fun _ h => eq_add_of_arm h

/-! ## The order is never lost -/

/-- When a timer expires, none is entered that is due. -/
theorem exists_of_renew {t timers : Timers} {timer : Timer} (h : t.renew timer = .ok timers) :
    timers = t ∨ ∃ later : Timer, t.now < later.timeout ∧ timers = t.add later := by
  unfold renew at h
  split at h
  · exact .inr ⟨_, Nat.lt_add_of_pos_right t.period_pos, eq_add_of_armSchedule h⟩
  · exact .inl (Except.ok.inj h).symm

/-- A timer is taken off the front, and expires. -/
theorem orderly_expire (h : s.timers.Orderly) {timer : Timer} {rest : List Timer}
    (harmed : s.timers.armed = timer :: rest) :
    (expire { s with timers := { s.timers with armed := rest } } timer).state.timers.Orderly := by
  have hrest := h.tail harmed
  rw [expire_eq]
  cases hrenewed : ({ s.timers with armed := rest } : Timers).renew timer with
  | error cause => exact hrest
  | ok timers =>
      rcases exists_of_renew hrenewed with rfl | ⟨later, _, rfl⟩
      · exact hrest
      · exact hrest.add later

theorem orderly_expireFirst (h : s.timers.Orderly) (n : Nat) :
    (s.expireFirst n).state.timers.Orderly := by
  induction n generalizing s with
  | zero => exact h
  | succ n ih =>
      unfold expireFirst
      cases harmed : s.timers.armed with
      | nil => exact h
      | cons timer rest =>
          have hexpired := orderly_expire h harmed
          cases hanswer :
              (expire { s with timers := { s.timers with armed := rest } } timer).answer with
          | error cause =>
              rw [Outcome.state_bind_of_error hanswer]
              exact hexpired
          | ok first =>
              rw [Outcome.state_bind_of_ok hanswer]
              exact ih hexpired

/-- An operation keeps the timers in order, even one that stops on a fault. -/
theorem orderly_perform (h : s.timers.Orderly) (operation : Operation) :
    (s.perform operation).state.timers.Orderly := by
  by_cases htick : operation = .tick
  · subst htick
    show s.tick.state.timers.Orderly
    unfold tick
    cases Word.add s.timers.now 1 with
    | error cause => exact h
    | ok now =>
        exact orderly_expireFirst (s := { s with timers := { s.timers with now } })
          ⟨h.sorted, h.serial_lt⟩ _
  · rw [timers_perform htick]
    cases s.arming? operation with
    | none => exact h
    | some timer => exact h.add timer

theorem orderly_run (h : s.timers.Orderly) (history : List Operation) :
    (s.run history).timers.Orderly := by
  induction history generalizing s with
  | nil => exact h
  | cons operation rest ih => exact ih (orderly_perform h operation)

theorem orderly_start (config : Config) : (Timers.start config).Orderly where
  sorted := List.Pairwise.nil
  serial_lt := fun _ hmem => nomatch hmem

theorem Reachable.orderly (h : s.Reachable) : s.timers.Orderly := by
  obtain ⟨config, platform, arena, history, rfl⟩ := h
  exact orderly_run (orderly_start config) history

/-! ## The counter -/

theorem now_perform {operation : Operation} (hfits : operation = .tick → s.timers.Fits) :
    (s.perform operation).state.timers.now =
      if operation = .tick then s.timers.now + 1 else s.timers.now := by
  by_cases htick : operation = .tick
  · rw [if_pos htick, ← now_elapse, ← (perform_tick (hfits htick)).2.1, htick]
  · rw [if_neg htick, timers_perform htick]
    cases s.arming? operation with
    | none => rfl
    | some timer => rfl

/-! ## Histories -/

/-- At each tick of the history the counters fit their words. -/
def KeepsTime : Scheduler → List Operation → Prop :=
  Along fun s operation => operation = .tick → s.timers.Fits

instance (s : Scheduler) (history : List Operation) : Decidable (s.KeepsTime history) := by
  unfold KeepsTime
  infer_instance

/-- What survives the entry of a timer and a tick survives every history that keeps time. -/
theorem timers_run {P : Timers → Prop} (hadd : ∀ {t : Timers} (timer : Timer), P t → P (t.add timer))
    (helapse : ∀ {t : Timers}, P t → P t.elapse) {history : List Operation}
    (hkeeps : s.KeepsTime history) (hs : P s.timers) : P (s.run history).timers := by
  refine invariant_along (I := fun s => P s.timers) (fun {s operation} hs hfits => ?_) hs hkeeps
  by_cases htick : operation = .tick
  · subst htick
    rw [(perform_tick (hfits rfl)).2.1]
    exact helapse hs
  · rw [timers_perform htick]
    cases s.arming? operation with
    | none => exact hs
    | some timer => exact hadd timer hs

end Scheduler

end TaskKernel
