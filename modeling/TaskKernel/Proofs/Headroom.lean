import TaskKernel.Proofs.Cadence
import Mathlib.Algebra.BigOperators.Group.List.Basic
import Mathlib.Algebra.Ring.Nat
import Mathlib.Data.List.Induction

/-!
# Where the timers' arithmetic overflows

The timers compute with words: the counter of ticks, the timeouts and the numbers of the timers grow,
and a configured period may be any word. Only a start of the scheduler's timer can exceed a timeout's
word, as long as the clock runs for less than half of its range:

* `Timers.Numbered` — the invariant: a number was dealt out for each timer that was asked for and for
  each whole period that has passed since a start (`turns`); starts whose sum does not fit are
  without consequence;
* `Numbered.fits` — so at the next tick the sums fit: what expires was armed a period ago, so the
  period is no longer than the time that has passed;
* `numbered_run` — the invariant holds along every history that does not run out of numbers.

What each operation comes to is said by `sumsFit`, and `serials_lt_of_lone_start` that numbers do not
run out while the timer was started once.
-/

namespace TaskKernel

/-- A number of milliseconds that is not too large to be multiplied is divided by ten. -/
theorem ticksOfMilliseconds_eq (milliseconds : Nat) :
    ticksOfMilliseconds milliseconds =
      if milliseconds ≤ Word.largest / timerFrequency then .ok (milliseconds / 10)
      else .error (.overflow .multiply) := by
  have hfits : milliseconds ≤ Word.largest / timerFrequency ↔
      milliseconds * timerFrequency < Word.size := by
    unfold Word.largest Word.size timerFrequency
    omega
  unfold ticksOfMilliseconds Word.mul
  simp only [hfits]
  split
  · refine congrArg Except.ok ?_
    show milliseconds * 100 / 1000 = milliseconds / 10
    omega
  · rfl

namespace Timers

variable {t : Timers} {timer : Timer} {past more : List Nat} {period now later start asked : Nat}

/-! ## Numbers -/

/-- How often a period has passed in full by `now` since one of the starts, all taken together. -/
def turns (period now : Nat) (past : List Nat) : Nat :=
  (past.map fun start => (now - start) / period).sum

theorem turns_append (period now : Nat) (past more : List Nat) :
    turns period now (past ++ more) = turns period now past + turns period now more := by
  unfold turns
  rw [List.map_append, List.sum_append]

/-- A start has just been made. -/
theorem turns_concat_now (period now : Nat) (past : List Nat) :
    turns period now (past ++ [now]) = turns period now past := by
  have hnone : turns period now [now] = 0 := by simp [turns]
  rw [turns_append, hnone, Nat.add_zero]

theorem turns_mono (hle : now ≤ later) (period : Nat) (past : List Nat) :
    turns period now past ≤ turns period later past := by
  induction past with
  | nil => exact Nat.le_refl _
  | cons start rest ih =>
      exact Nat.add_le_add (Nat.div_le_div_right (Nat.sub_le_sub_right hle start)) ih

theorem turns_le (period now : Nat) (past : List Nat) :
    turns period now past ≤ past.length * now := by
  induction past with
  | nil => exact Nat.zero_le _
  | cons start rest ih =>
      have hfirst : (now - start) / period ≤ now :=
        (Nat.div_le_self _ _).trans (Nat.sub_le now start)
      unfold turns at ih ⊢
      rw [List.map_cons, List.sum_cons, List.length_cons, Nat.succ_mul]
      omega

/-- When a tick passes, a period ends for each start by which something is due. -/
theorem turns_succ (hperiod : 0 < period) (hle : ∀ start ∈ past, start ≤ now) :
    turns period (now + 1) past =
      turns period now past +
        past.countP fun start => decide (nextDue period now start ≤ now + 1) := by
  induction past with
  | nil => rfl
  | cons start rest ih =>
      obtain ⟨hstart, hrest⟩ := List.forall_mem_cons.mp hle
      have hrest := ih hrest
      unfold turns at hrest ⊢
      rw [List.map_cons, List.sum_cons, List.map_cons, List.sum_cons, List.countP_cons,
        succ_sub_div hperiod hstart, hrest]
      simp only [decide_eq_true_eq]
      omega

/-- The timeout of a start at this tick fits its word. -/
def reaches (period start : Nat) : Bool := start + period < Word.size

/-- What is due by a start is one that reached its word. -/
theorem reaches_of_due (hnow : now + 1 < Word.size) (hdue : nextDue period now start ≤ now + 1) :
    reaches period start = true := by
  refine decide_eq_true ?_
  have hle : period ≤ period * ((now - start) / period + 1) :=
    Nat.le_mul_of_pos_right _ (Nat.succ_pos _)
  unfold nextDue at hdue
  omega

/-- The numbers that were dealt out are accounted for: `past` are the starts, and so many timers have
been asked for, these included. -/
structure Numbered (t : Timers) (past : List Nat) (asked : Nat) : Prop where
  orderly : t.Orderly
  scheduled : t.Scheduled (past.filter (reaches t.period))
  past_le : ∀ start ∈ past, start ≤ t.now
  count : t.nextSerial + past.countP (!reaches t.period ·) = asked + turns t.period t.now past

theorem Numbered.countP_due (h : t.Numbered past asked) (hnow : t.now + 1 < Word.size) :
    t.due.countP Timer.periodic =
      past.countP fun start => decide (nextDue t.period t.now start ≤ t.now + 1) := by
  rw [h.scheduled.countP_due h.orderly, List.countP_filter]
  refine List.countP_congr fun start _ => ?_
  simp only [Bool.and_eq_true, decide_eq_true_eq, and_iff_left_iff_imp]
  exact reaches_of_due hnow

/-- The numbers that the next tick deals out. -/
theorem Numbered.count_succ (h : t.Numbered past asked) (hnow : t.now + 1 < Word.size) :
    t.nextSerial + t.due.countP Timer.periodic + past.countP (!reaches t.period ·) =
      asked + turns t.period (t.now + 1) past := by
  have hcount := h.count
  rw [turns_succ t.period_pos h.past_le, h.countP_due hnow]
  omega

/-- What is due at the next tick was armed one period before its time, so that the period is no longer
than the time that has passed, and fits again. -/
theorem Numbered.fits (h : t.Numbered past asked) (hnow : 2 * (t.now + 1) < Word.size)
    (hnumbers : asked + turns t.period (t.now + 1) past < Word.size) : t.Fits := by
  have hnow' : t.now + 1 < Word.size := by omega
  refine ⟨hnow', fun hdue => ⟨?_, ?_⟩⟩
  · rw [h.scheduled.any_due h.orderly, any_nextDue_iff t.period_pos h.scheduled.past_le] at hdue
    obtain ⟨start, _, _, k, hk, htick⟩ := hdue
    have hle : t.period ≤ k * t.period := Nat.le_mul_of_pos_left _ hk
    omega
  · have hcount := h.count_succ hnow'
    omega

theorem Numbered.elapse (h : t.Numbered past asked) (hnow : t.now + 1 < Word.size) :
    t.elapse.Numbered past asked where
  orderly := h.orderly.elapse
  scheduled := by
    rw [period_elapse]
    exact h.scheduled.elapse h.orderly
  past_le start hmem := by
    rw [now_elapse]
    exact Nat.le_succ_of_le (h.past_le start hmem)
  count := by
    rw [period_elapse, now_elapse, ← h.count_succ hnow]
    exact congrArg (· + _) (renewAll_counts _ _).1

theorem Numbered.add_user (h : t.Numbered past asked) (huser : timer.periodic = false) :
    (t.add timer).Numbered past (asked + 1) where
  orderly := h.orderly.add timer
  scheduled := h.scheduled.add_user huser
  past_le := h.past_le
  count := by
    have hcount := h.count
    show t.nextSerial + 1 + past.countP (!reaches t.period ·) =
      asked + 1 + turns t.period t.now past
    omega

theorem Numbered.past_concat_le (h : t.Numbered past asked) :
    ∀ start ∈ past ++ [t.now], start ≤ t.now := by
  intro start hmem
  rcases List.mem_append.mp hmem with hmem | hmem
  · exact h.past_le start hmem
  · exact Nat.le_of_eq (List.mem_singleton.mp hmem)

/-- A start whose sum fits arms the timer. -/
theorem Numbered.add_start (h : t.Numbered past asked) (hperiodic : timer.periodic = true)
    (htimeout : timer.timeout = t.now + t.period) (hreaches : reaches t.period t.now = true) :
    (t.add timer).Numbered (past ++ [t.now]) (asked + 1) where
  orderly := h.orderly.add timer
  scheduled := by
    show (t.add timer).Scheduled ((past ++ [t.now]).filter (reaches t.period))
    rw [List.filter_append, List.filter_cons_of_pos hreaches, List.filter_nil]
    exact h.scheduled.add_start hperiodic htimeout
  past_le := h.past_concat_le
  count := by
    have hcount := h.count
    show t.nextSerial + 1 + (past ++ [t.now]).countP (!reaches t.period ·) =
      asked + 1 + turns t.period t.now (past ++ [t.now])
    rw [List.countP_append, List.countP_singleton, hreaches, turns_concat_now]
    simp only [Bool.not_true, Bool.false_eq_true, if_false]
    omega

/-- Any other start counts as asked for, and does nothing. -/
theorem Numbered.miss_start (h : t.Numbered past asked) (hreaches : reaches t.period t.now = false) :
    t.Numbered (past ++ [t.now]) (asked + 1) where
  orderly := h.orderly
  scheduled := by
    rw [List.filter_append, List.filter_cons_of_neg (by simp [hreaches]), List.filter_nil,
      List.append_nil]
    exact h.scheduled
  past_le := h.past_concat_le
  count := by
    have hcount := h.count
    rw [List.countP_append, List.countP_singleton, hreaches, turns_concat_now]
    simp only [Bool.not_false, if_true]
    omega

theorem numbered_start (config : Config) : (Timers.start config).Numbered [] 0 where
  orderly := Scheduler.orderly_start config
  scheduled := Scheduler.scheduled_start config
  past_le _ hmem := nomatch hmem
  count := rfl

end Timers

namespace Scheduler

open Timers

variable {s : Scheduler} {history before after : List Operation} {operation : Operation}
  {past : List Nat} {period asked : Nat}

/-! ## One operation -/

/-- The operation asks for a timer. -/
def Operation.arms : Operation → Bool
  | .startSchedule => true
  | .armAt .. => true
  | .armAfter .. => true
  | _ => false

/-- Timers of tasks are armed as long as there are numbers, whatever the timeout or the delay. -/
theorem answer_of_arms (harms : operation.arms = true) (hstart : operation ≠ .startSchedule)
    (hnumber : s.timers.nextSerial + 1 < Word.size) :
    (s.perform operation).answer = .ok .unit := by
  cases operation with
  | startSchedule => exact absurd rfl hstart
  | armAt | armAfter => exact answer_of_request rfl hnumber fun hperiodic => nomatch hperiodic
  | create | prepare | prepareWith | editContext | launch | wake | suspend | preempt | send
  | receive | receiveOrSuspend | exit | awaitExit | tick | restock => exact nomatch harms

theorem startSchedule_of_reaches (hreaches : reaches s.timers.period s.timers.now = true)
    (hnumber : s.timers.nextSerial + 1 < Word.size) :
    (s.perform .startSchedule).answer = .ok .unit :=
  answer_of_request rfl hnumber fun _ => of_decide_eq_true hreaches

/-- A start whose timeout does not fit its word stops, and changes nothing. -/
theorem startSchedule_of_not_reaches (hreaches : reaches s.timers.period s.timers.now = false) :
    s.perform .startSchedule = .stop s (.fault (.overflow .add)) := by
  have hfits : ¬ (s.timers.now + s.timers.period < Word.size ∧
      s.timers.nextSerial + 1 < Word.size) := fun h => of_decide_eq_false hreaches h.1
  unfold perform onTimers
  simp only [startSchedule_eq, if_neg hfits]
  rfl

theorem arming?_of_ok {answer : Answer} (h : (s.perform operation).answer = .ok answer) :
    s.arming? operation = operation.request? s.timers := by
  unfold arming?
  rw [h]
  rfl

theorem isSome_request? (operation : Operation) (t : Timers) :
    (operation.request? t).isSome = operation.arms := by
  cases operation with
  | startSchedule | armAt | armAfter => rfl
  | create | prepare | prepareWith | editContext | launch | wake | suspend | preempt | send
  | receive | receiveOrSuspend | exit | awaitExit | tick | restock => rfl

/-- While there are numbers, what is asked for a task is armed. -/
theorem isSome_arming? (hstart : operation ≠ .startSchedule)
    (hnumbers : operation.arms = true → s.timers.nextSerial + 1 < Word.size) :
    (s.arming? operation).isSome = operation.arms := by
  rw [← isSome_request? operation s.timers]
  by_cases harms : operation.arms = true
  · rw [arming?_of_ok (answer_of_arms harms hstart (hnumbers harms))]
  · have hnone : operation.request? s.timers = none := by
      rw [← Option.not_isSome_iff_eq_none, isSome_request?]
      exact harms
    unfold arming?
    rw [hnone, ite_self]

/-- An operation for which there are numbers accounts for what it asks for. -/
theorem numbered_perform (h : s.timers.Numbered past asked) (htick : operation ≠ .tick)
    (hnumbers : operation.arms = true → s.timers.nextSerial + 1 < Word.size) :
    (s.perform operation).state.timers.Numbered (past ++ starts s.timers.now [operation])
      (asked + if operation.arms = true then 1 else 0) := by
  by_cases hstart : operation = .startSchedule
  · subst hstart
    cases hreaches : reaches s.timers.period s.timers.now with
    | false =>
        rw [startSchedule_of_not_reaches hreaches]
        exact h.miss_start hreaches
    | true =>
        have hanswer := startSchedule_of_reaches hreaches (hnumbers rfl)
        rw [timers_perform htick, arming?_of_ok hanswer]
        exact h.add_start rfl rfl hreaches
  · rw [starts_eq_nil (by simpa using Ne.symm hstart), List.append_nil, timers_perform htick]
    have hsome := isSome_arming? hstart hnumbers
    cases harming : s.arming? operation with
    | none =>
        rw [harming] at hsome
        rw [if_neg (Bool.eq_false_iff.mp hsome.symm)]
        exact h
    | some timer =>
        rw [harming] at hsome
        have harms : operation.arms = true := hsome.symm
        rw [if_pos harms]
        exact h.add_user (periodic_of_arming hstart harming)

/-! ## Histories -/

theorem starts_append (now : Nat) (first second : List Operation) :
    starts now (first ++ second) = starts now first ++ starts (now + first.count .tick) second := by
  induction first generalizing now with
  | nil => rfl
  | cons operation rest ih =>
      rw [List.cons_append, starts, starts, ih, List.append_assoc]
      by_cases htick : operation = .tick
      · rw [if_pos htick, htick, List.count_cons_self, Nat.add_right_comm, Nat.add_assoc]
      · rw [if_neg htick, List.count_cons_of_ne htick]

theorem starts_tick (now : Nat) : starts now [.tick] = [] := rfl

theorem length_starts (now : Nat) (history : List Operation) :
    (starts now history).length = history.count .startSchedule := by
  induction history generalizing now with
  | nil => rfl
  | cons operation rest ih =>
      rw [starts, List.length_append, ih]
      by_cases hstart : operation = .startSchedule
      · rw [if_pos hstart, hstart, List.count_cons_self, List.length_singleton, Nat.add_comm]
      · rw [if_neg hstart, List.count_cons_of_ne hstart, List.length_nil, Nat.zero_add]

/-- The numbers that a history asks for: one for each timer that is to be armed, and one for each
time that the scheduler's timer comes due and is armed again. -/
def serials (period : Nat) (history : List Operation) : Nat :=
  history.countP Operation.arms + turns period (history.count .tick) (starts 0 history)

theorem serials_le_append (period : Nat) (before after : List Operation) :
    serials period before ≤ serials period (before ++ after) := by
  unfold serials
  rw [List.countP_append, starts_append, turns_append, List.count_append]
  have hturns : turns period (before.count .tick) (starts 0 before) ≤
      turns period (before.count .tick + after.count .tick) (starts 0 before) :=
    turns_mono (Nat.le_add_right _ _) period _
  omega

/-- A request takes one number. -/
theorem serials_concat_of_arms (harms : operation.arms = true) (period : Nat)
    (before : List Operation) :
    serials period (before ++ [operation]) = serials period before + 1 := by
  have htick : operation ≠ .tick := by
    rintro rfl
    exact nomatch harms
  have hturns : turns period (before.count .tick) (starts (before.count .tick) [operation]) = 0 := by
    rw [starts, starts, List.append_nil]
    split
    · exact turns_concat_now period _ []
    · rfl
  have hnone : [operation].count .tick = 0 := List.count_eq_zero.mpr (by simpa using htick.symm)
  have hcount : (before ++ [operation]).count .tick = before.count .tick := by
    rw [List.count_append, hnone, Nat.add_zero]
  unfold serials
  rw [hcount, List.countP_append, List.countP_singleton, if_pos harms, starts_append, turns_append,
    Nat.zero_add, hturns]
  omega

/-- A tick takes those of the timers that are due by it. -/
theorem serials_concat_tick (period : Nat) (before : List Operation) :
    serials period (before ++ [.tick]) =
      before.countP Operation.arms + turns period (before.count .tick + 1) (starts 0 before) := by
  unfold serials
  rw [List.countP_append, List.count_append, starts_append, starts_tick, List.append_nil]
  rfl

/-- While the scheduler's timer is started once at most, half as many ticks and half as many requests
as there are words do not use up the numbers. -/
theorem serials_lt_of_lone_start (hlone : history.count .startSchedule ≤ 1)
    (hticks : history.count .tick < 2 ^ 63) (harms : history.countP Operation.arms < 2 ^ 63) :
    serials period history < Word.size := by
  have hturns : turns period (history.count .tick) (starts 0 history) ≤
      history.count .startSchedule * history.count .tick := by
    rw [← length_starts 0 history]
    exact turns_le _ _ _
  have hlone' : history.count .startSchedule * history.count .tick ≤ history.count .tick :=
    (Nat.mul_le_mul_right _ hlone).trans (Nat.one_mul _).le
  have hsize : Word.size = 2 ^ 63 + 2 ^ 63 := by decide
  unfold serials
  omega

section Start

variable {config : Config} {platform : Platform} {arena : Arena}

theorem now_run_start (hkeeps : (start config platform arena).KeepsTime history) :
    ((start config platform arena).run history).timers.now = history.count .tick :=
  (now_run hkeeps).trans (Nat.zero_add _)

theorem period_run_start (hkeeps : (start config platform arena).KeepsTime history) :
    ((start config platform arena).run history).timers.period = config.period :=
  period_run hkeeps

/-- The numbers that were dealt out are those that the history asked for. -/
theorem dealt_run (hkeeps : (start config platform arena).KeepsTime history)
    (h : ((start config platform arena).run history).timers.Numbered (starts 0 history)
      (history.countP Operation.arms)) :
    ((start config platform arena).run history).timers.nextSerial +
      (starts 0 history).countP (!reaches config.period ·) = serials config.period history := by
  have hcount := h.count
  rwa [now_run_start hkeeps, period_run_start hkeeps] at hcount

/-- As long as there are numbers and the clock runs for less than half of its range, it goes on, and
the numbers are accounted for. -/
theorem numbered_run (hticks : history.count .tick < 2 ^ 63)
    (hnumbers : serials config.period history < Word.size) :
    (start config platform arena).KeepsTime history ∧
      ((start config platform arena).run history).timers.Numbered (starts 0 history)
        (history.countP Operation.arms) := by
  induction history using List.reverseRecOn with
  | nil => exact ⟨trivial, numbered_start config⟩
  | append_singleton before operation ih =>
      have hbefore := serials_le_append config.period before [operation]
      rw [List.count_append] at hticks
      obtain ⟨hkeeps, hnumbered⟩ := ih (by omega) (by omega)
      have hnow := now_run_start hkeeps
      have hperiod := period_run_start hkeeps
      rw [run_concat, List.countP_append, List.countP_singleton, starts_append, Nat.zero_add]
      by_cases htick : operation = .tick
      · -- No appeal to the period's size: what is due has waited for a whole period already.
        subst htick
        have hsize : Word.size = 2 * 2 ^ 63 := by decide
        have hone : [Operation.tick].count .tick = 1 := rfl
        rw [serials_concat_tick] at hnumbers
        have hfits := hnumbered.fits (by rw [hnow]; omega) (by rw [hnow, hperiod]; omega)
        refine ⟨along_append.mpr ⟨hkeeps, fun _ => hfits, trivial⟩, ?_⟩
        rw [(perform_tick hfits).2.1, starts_tick, List.append_nil]
        exact hnumbered.elapse hfits.1
      · refine ⟨along_append.mpr ⟨hkeeps, fun h => absurd h htick, trivial⟩, ?_⟩
        rw [← hnow]
        -- The history asks for one more number than were dealt out, and it stays within a word.
        refine numbered_perform hnumbered htick fun harms => ?_
        rw [serials_concat_of_arms harms] at hnumbers
        have hdealt := dealt_run hkeeps hnumbered
        omega

/-- Before each operation of such a history the clock and the numbers suffice for it. -/
theorem suffices_run (hticks : (before ++ operation :: after).count .tick < 2 ^ 63)
    (hnumbers : serials config.period (before ++ operation :: after) < Word.size) :
    (start config platform arena).KeepsTime (before ++ [operation]) ∧
      (operation.arms = true →
        ((start config platform arena).run before).timers.nextSerial + 1 < Word.size) := by
  rw [List.append_cons] at hticks hnumbers
  have hticks' : (before ++ [operation]).count .tick < 2 ^ 63 :=
    ((List.sublist_append_left _ after).count_le _).trans_lt hticks
  have hnumbers' : serials config.period (before ++ [operation]) < Word.size :=
    (serials_le_append _ _ after).trans_lt hnumbers
  refine ⟨(numbered_run hticks' hnumbers').1, fun harms => ?_⟩
  have hbefore : serials config.period before + 1 < Word.size := by
    rwa [serials_concat_of_arms harms] at hnumbers'
  obtain ⟨hkeeps, hnumbered⟩ : (start config platform arena).KeepsTime before ∧ _ :=
    numbered_run (((List.sublist_append_left before _).count_le _).trans_lt hticks')
      (Nat.lt_of_succ_lt hbefore)
  have hdealt := dealt_run hkeeps hnumbered
  omega

/-- The sums of the timers over a history. -/
structure SumsFit (s : Scheduler) (period : Nat) (history : List Operation) : Prop where
  /-- A tick ends, and tells whether a decision is due. -/
  ticks : ∀ before after, history = before ++ .tick :: after →
    ∃ due, ((s.run before).perform .tick).answer = .ok (.due due)
  /-- The timer of a task is armed, whatever its timeout or its delay is. -/
  arms : ∀ before operation after, history = before ++ operation :: after →
    operation.arms = true → operation ≠ .startSchedule →
      ((s.run before).perform operation).answer = .ok .unit
  /-- The scheduler's timer is started if its timeout fits its word. -/
  starts : ∀ before after, history = before ++ .startSchedule :: after →
    before.count .tick + period < Word.size →
      ((s.run before).perform .startSchedule).answer = .ok .unit
  /-- Else the sum overflows, and nothing changes. -/
  overflows : ∀ before after, history = before ++ .startSchedule :: after →
    Word.size ≤ before.count .tick + period →
      (s.run before).perform .startSchedule = .stop (s.run before) (.fault (.overflow .add))
  /-- What is asked for gets a number, such starts apart. -/
  dealt : (s.run history).timers.nextSerial +
    (Scheduler.starts 0 history).countP (!reaches period ·) = serials period history

/-- **Where the timers' arithmetic overflows**: nowhere but in the product of a number of
milliseconds that is larger than a hundredth of a word, and in the sum of a start whose timeout is
not a word. This holds for every period, in every history in which the clock stays below half of its
range and the numbers suffice. -/
theorem sumsFit (config : Config) (platform : Platform) (arena : Arena) (history : List Operation)
    (hticks : history.count .tick < 2 ^ 63)
    (hnumbers : serials config.period history < Word.size) :
    (start config platform arena).SumsFit config.period history ∧
      ∀ milliseconds, ticksOfMilliseconds milliseconds =
        if milliseconds ≤ Word.largest / timerFrequency then .ok (milliseconds / 10)
        else .error (.overflow .multiply) := by
  refine ⟨⟨?_, ?_, ?_, ?_, ?_⟩, ticksOfMilliseconds_eq⟩
  · rintro before after rfl
    obtain ⟨hkeeps, _⟩ := suffices_run hticks hnumbers
    exact ⟨_, (perform_tick ((along_append.mp hkeeps).2.1 rfl)).1⟩
  · rintro before operation after rfl harms hstart
    obtain ⟨_, hnumber⟩ := suffices_run hticks hnumbers
    exact answer_of_arms harms hstart (hnumber harms)
  · rintro before after rfl hfits
    obtain ⟨hkeeps, hnumber⟩ := suffices_run hticks hnumbers
    have hbefore := (along_append.mp hkeeps).1
    refine startSchedule_of_reaches (decide_eq_true ?_) (hnumber rfl)
    rwa [now_run_start hbefore, period_run_start hbefore]
  · rintro before after rfl hexceeds
    obtain ⟨hkeeps, _⟩ := suffices_run hticks hnumbers
    have hbefore := (along_append.mp hkeeps).1
    refine startSchedule_of_not_reaches (decide_eq_false ?_)
    rw [now_run_start hbefore, period_run_start hbefore]
    exact Nat.not_lt_of_le hexceeds
  · obtain ⟨hkeeps, hnumbered⟩ := numbered_run hticks hnumbers
    exact dealt_run hkeeps hnumbered

/-- The largest period fits at a tick of zero, and the largest delay at any. -/
theorem sumsFit_largest_period :
    (start { schedulerPeriod := Word.largest } Platform.simulated (Arena.simulated 0)).SumsFit
        Word.largest [.startSchedule, .tick, .armAfter Word.largest 0 1 ""] ∧
      ∀ milliseconds, ticksOfMilliseconds milliseconds =
        if milliseconds ≤ Word.largest / timerFrequency then .ok (milliseconds / 10)
        else .error (.overflow .multiply) :=
  sumsFit { schedulerPeriod := Word.largest } Platform.simulated (Arena.simulated 0)
    [.startSchedule, .tick, .armAfter Word.largest 0 1 ""] (by decide)
    (serials_lt_of_lone_start (by decide) (by decide) (by decide))

/-- Both a product and a sum exceed the largest word for an argument that is this word. -/
theorem words_exceeded :
    Word.largest < Word.size ∧
      ticksOfMilliseconds Word.largest = .error (.overflow .multiply) ∧
      (((start { schedulerPeriod := Word.largest } Platform.simulated (Arena.simulated 0)).run
        [.tick]).perform .startSchedule).answer = .error (.fault (.overflow .add)) :=
  ⟨by decide, by decide, rfl⟩

end Start

end Scheduler

end TaskKernel
