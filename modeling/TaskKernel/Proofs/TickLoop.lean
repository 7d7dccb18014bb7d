import TaskKernel.Proofs.Agenda

/-!
# The loop of a tick

The armed timers are a heap. On top of it lies the greatest of them, where of two timers the one
that expires first is the greater one (`Timer.order`). A tick looks at the top, over and over: when
nothing is left, or what lies there is later than now, it ends; otherwise it takes the timer out,
and that expires (`Loop`).

The list of the armed timers is such a heap as long as it is in order, and it always is
(`Reachable.orderly`): a timer that is armed joins it (`insert_perm`), and what lies on top is its
head (`Orderly.top_iff`). How many turns there will be can be told when the loop begins, since no
timer is armed meanwhile that is due (`dueCount_of_renew`). So the loop comes to one end only, and
that is the tick (`loop_iff_tick`).
-/

namespace TaskKernel

namespace Timer

variable {timer first second : Timer} {heap : List Timer}

/-- How the heap compares two timers. -/
def order (first second : Timer) : Ordering :=
  (compare second.timeout first.timeout).then (compare second.serial first.serial)

/-- The lesser one expires later. -/
theorem order_eq_lt_iff : first.order second = .lt ↔ second.Before first := by
  unfold order Before
  rw [Ordering.then_eq_lt, Nat.compare_eq_lt, Nat.compare_eq_eq, Nat.compare_eq_lt]

theorem Before.asymm (h : first.Before second) : ¬ second.Before first := by
  unfold Before at *
  omega

/-- What lies on top of a heap: a timer of it than which none is greater. -/
def Top (timer : Timer) (heap : List Timer) : Prop :=
  timer ∈ heap ∧ ∀ other ∈ heap, timer.order other ≠ .lt

end Timer

namespace Timers

variable {t timers : Timers} {timer : Timer} {rest : List Timer} {n : Nat}

/-- The timers without one that is taken out. -/
def without (t : Timers) (timer : Timer) : Timers := { t with armed := t.armed.erase timer }

theorem without_of_head (harmed : t.armed = timer :: rest) :
    t.without timer = { t with armed := rest } := by
  unfold without
  rw [harmed, List.erase_cons_head]

/-- **The head of the list lies on top of the heap**, and nothing else does. -/
theorem Orderly.top_iff (h : t.Orderly) : timer.Top t.armed ↔ t.armed.head? = some timer := by
  have hsorted := h.sorted
  cases harmed : t.armed with
  | nil => exact iff_of_false (fun htop => nomatch htop.1) (by simp)
  | cons head rest =>
      rw [harmed] at hsorted
      obtain ⟨hhead, _⟩ := List.pairwise_cons.mp hsorted
      rw [List.head?_cons, Option.some.injEq]
      constructor
      · rintro ⟨hmem, hgreatest⟩
        rcases List.mem_cons.mp hmem with rfl | hmem
        · rfl
        · exact absurd (Timer.order_eq_lt_iff.mpr (hhead timer hmem))
            (hgreatest head List.mem_cons_self)
      · rintro rfl
        refine ⟨List.mem_cons_self, fun other hmem => ?_⟩
        rw [Ne, Timer.order_eq_lt_iff]
        rcases List.mem_cons.mp hmem with rfl | hmem
        · exact fun hself => hself.asymm hself
        · exact (hhead other hmem).asymm

/-! ## How many are due -/

theorem dueCount_of_due (harmed : t.armed = timer :: rest) (hdue : timer.timeout ≤ t.now) :
    t.dueCount = ({ t with armed := rest } : Timers).dueCount + 1 := by
  unfold dueCount
  rw [harmed, List.takeWhile_cons_of_pos (by simpa using hdue), List.length_cons]

theorem dueCount_of_later (hlater : ∀ timer, t.armed.head? = some timer → t.now < timer.timeout) :
    t.dueCount = 0 := by
  unfold dueCount
  cases harmed : t.armed with
  | nil => rfl
  | cons timer rest =>
      have hnot := hlater timer (by rw [harmed, List.head?_cons])
      rw [List.takeWhile_cons_of_neg (by simpa using hnot), List.length_nil]

/-- If any are due, the first one is. -/
theorem exists_of_dueCount (hcount : t.dueCount = n + 1) :
    ∃ timer rest, t.armed = timer :: rest ∧ timer.timeout ≤ t.now ∧
      ({ t with armed := rest } : Timers).dueCount = n := by
  cases harmed : t.armed with
  | nil =>
      rw [dueCount_of_later (by simp [harmed])] at hcount
      exact nomatch hcount
  | cons timer rest =>
      by_cases hdue : timer.timeout ≤ t.now
      · rw [dueCount_of_due harmed hdue] at hcount
        exact ⟨timer, rest, rfl, hdue, Nat.succ.inj hcount⟩
      · rw [dueCount_of_later (by simpa [harmed] using hdue)] at hcount
        exact nomatch hcount

/-- A timer that is not due does not come between those that are. -/
theorem takeWhile_insert (hlater : n < timer.timeout) (armed : List Timer) :
    (insert timer armed).takeWhile (·.timeout ≤ n) = armed.takeWhile (·.timeout ≤ n) := by
  induction armed with
  | nil => exact List.takeWhile_cons_of_neg (by simpa using hlater)
  | cons first rest ih =>
      by_cases hfirst : first.timeout ≤ timer.timeout
      · have hplaced : insert timer ([first] ++ rest) = [first] ++ insert timer rest :=
          insert_append (by simpa using hfirst) rest
        rw [List.singleton_append, List.singleton_append] at hplaced
        rw [hplaced, List.takeWhile_cons, List.takeWhile_cons, ih]
      · have hplaced : insert timer (first :: rest) = timer :: first :: rest := by
          unfold insert
          rw [List.takeWhile_cons_of_neg (by simpa using hfirst),
            List.dropWhile_cons_of_neg (by simpa using hfirst), List.nil_append]
        have hnone : n < first.timeout := by omega
        rw [hplaced, List.takeWhile_cons_of_neg (by simpa using hlater),
          List.takeWhile_cons_of_neg (by simpa using hnone)]

/-- When a timer expires, as many are due as before. -/
theorem dueCount_of_renew (h : t.renew timer = .ok timers) : timers.dueCount = t.dueCount := by
  rcases Scheduler.exists_of_renew h with rfl | ⟨later, hlater, rfl⟩
  · rfl
  · have hentered : t.now < ({ later with serial := t.nextSerial } : Timer).timeout := hlater
    exact congrArg List.length (takeWhile_insert hentered t.armed)

end Timers

namespace Scheduler

open Timers

variable {s : Scheduler} {timer : Timer} {rest : List Timer} {outcome : Result Bool}

/-! ## Turns -/

theorem dueCount_expire {first : Bool} (h : (s.expire timer).answer = .ok first) :
    (s.expire timer).state.timers.dueCount = s.timers.dueCount := by
  rw [expire_eq] at h ⊢
  cases hrenewed : s.timers.renew timer with
  | error cause =>
      rw [hrenewed] at h
      exact nomatch h
  | ok timers => exact dueCount_of_renew hrenewed

/-- If the first timer is due, it expires, and then those do that are due after it. -/
theorem expireFirst_of_due (harmed : s.timers.armed = timer :: rest)
    (hdue : timer.timeout ≤ s.timers.now) :
    s.expireFirst s.timers.dueCount =
      (({ s with timers := { s.timers with armed := rest } } : Scheduler).expire timer).bind
        fun first s => (s.expireFirst s.timers.dueCount).map (first || ·) := by
  rw [dueCount_of_due harmed hdue, expireFirst]
  simp only [harmed]
  unfold Outcome.bind
  cases hanswer : (expire { s with timers := { s.timers with armed := rest } } timer).answer with
  | error cause => rfl
  | ok first => simp only [dueCount_expire hanswer]

/-- The loop of a tick, turn by turn, and what it comes to. -/
inductive Loop : Scheduler → Result Bool → Prop
  | empty {s : Scheduler} : s.timers.armed = [] → Loop s (.done s false)
  | later {s : Scheduler} {timer : Timer} : timer.Top s.timers.armed →
      s.timers.now < timer.timeout → Loop s (.done s false)
  | turn {s : Scheduler} {timer : Timer} {expired rest : Result Bool} : timer.Top s.timers.armed →
      timer.timeout ≤ s.timers.now →
      ({ s with timers := s.timers.without timer } : Scheduler).expire timer = expired →
      (∀ first, expired.answer = .ok first → Loop expired.state rest) →
      Loop s (expired.bind fun first _ => rest.map (first || ·))

/-- The loop ends, and this is what it comes to. -/
theorem loop_expireFirst (h : s.timers.Orderly) : Loop s (s.expireFirst s.timers.dueCount) := by
  generalize hcount : s.timers.dueCount = n
  induction n generalizing s with
  | zero =>
      cases harmed : s.timers.armed with
      | nil => exact .empty harmed
      | cons timer rest =>
          refine .later (h.top_iff.mpr (by rw [harmed, List.head?_cons])) (Nat.lt_of_not_le ?_)
          intro hdue
          rw [dueCount_of_due harmed hdue] at hcount
          exact nomatch hcount
  | succ n ih =>
      obtain ⟨timer, rest, harmed, hdue, hrest⟩ := exists_of_dueCount hcount
      have htop : timer.Top s.timers.armed := h.top_iff.mpr (by rw [harmed, List.head?_cons])
      rw [expireFirst]
      simp only [harmed]
      refine .turn htop hdue (by rw [without_of_head harmed]) fun first hfirst => ?_
      exact ih (orderly_expire h harmed) ((dueCount_expire hfirst).trans hrest)

/-- Nothing else can come of it. -/
theorem Loop.eq_expireFirst (hloop : Loop s outcome) (h : s.timers.Orderly) :
    outcome = s.expireFirst s.timers.dueCount := by
  induction hloop with
  | empty hnone =>
      rw [dueCount_of_later (by simp [hnone])]
      rfl
  | later htop hlater =>
      rw [dueCount_of_later (by simpa [h.top_iff.mp htop] using hlater)]
      rfl
  | @turn s timer expired rest htop hdue hexpired _ ih =>
      obtain ⟨tail, harmed⟩ := List.head?_eq_some_iff.mp (h.top_iff.mp htop)
      rw [without_of_head harmed] at hexpired
      subst hexpired
      rw [expireFirst_of_due harmed hdue]
      unfold Outcome.bind
      cases hanswer :
          (expire { s with timers := { s.timers with armed := tail } } timer).answer with
      | error cause => rfl
      | ok first => simp only [ih first hanswer (orderly_expire h harmed)]

/-- **A tick is its loop**: the counter goes on by one, and then the loop comes to what the tick
comes to, and to nothing else. -/
theorem loop_iff_tick (hs : s.Reachable) (hfits : s.timers.now + 1 < Word.size) :
    Loop { s with timers := { s.timers with now := s.timers.now + 1 } } outcome ↔
      outcome = s.tick := by
  have horderly : ({ s.timers with now := s.timers.now + 1 } : Timers).Orderly :=
    ⟨hs.orderly.sorted, hs.orderly.serial_lt⟩
  have htick : s.tick = ({ s with timers := { s.timers with now := s.timers.now + 1 } } :
      Scheduler).expireFirst ({ s.timers with now := s.timers.now + 1 } : Timers).dueCount := by
    unfold tick
    rw [Word.add_eq_ok.mpr ⟨hfits, rfl⟩]
  rw [htick]
  constructor
  · exact fun hloop => hloop.eq_expireFirst horderly
  · rintro rfl
    exact loop_expireFirst horderly

end Scheduler

end TaskKernel
