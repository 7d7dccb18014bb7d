import TaskKernel.Proofs.Calls
import TaskKernel.Proofs.Scan

/-!
# Loops that block

A task that waits makes one attempt after another. An attempt that does not succeed puts the
executing task to sleep, and the next attempt is made on behalf of another task.

* `switches` — the switches that a method carries out, and `handovers`, those that lead through some
  tasks one after the other.
* An attempt is settled by the dispatcher at once (`Settles`), or the executing task falls asleep
  over it (`Lapses`).
* `attempts_lapse` — attempts over which some tasks fall asleep in turn lead to the task behind
  them, and `attempts_strand`, those over which all of them do end for want of a task. What they
  wait for does not matter, nor what else their attempts make of the dispatcher.
* `ComesTo` — a row of attempts needs no more of them than there are tasks on the scan.
-/

namespace TaskKernel.Kernel

open Dispatcher

variable {α β : Type} {k : Kernel} {id : TaskId} {rest : List TaskId}

/-! ## Switches -/

/-- The switches among some events. -/
def switches (events : List Event) : List Switch :=
  events.filterMap fun
    | .switched switch _ => some switch
    | _ => none

theorem switches_append (first second : List Event) :
    switches (first ++ second) = switches first ++ switches second := List.filterMap_append

theorem switches_of_silent {events : List Event} (h : ∀ event ∈ events, event.Silent) :
    switches events = [] := by
  apply List.filterMap_eq_nil_iff.mpr
  intro event hmem
  cases event with
  | notice | entered | resumed => rfl
  | switched => exact (h _ hmem).elim

/-- The switches that lead from the first of some tasks to the last, through all of them. -/
def handovers : List TaskId → List Switch
  | current :: next :: rest => { next, current } :: handovers (next :: rest)
  | _ => []

theorem handovers_cons_concat (id : TaskId) (rest : List TaskId) (last : TaskId) :
    handovers (id :: rest ++ [last]) =
      { next := rest.headD last, current := id } :: handovers (rest ++ [last]) := by
  cases rest with
  | nil => rfl
  | cons next more => rfl

/-! ## One attempt -/

/-- The kernel with another dispatcher, which nobody uses. -/
def withTasks (k : Kernel) (d : Dispatcher) : Kernel := { k with tasks := Cell.new d }

/-- Something ends without a switch and leaves this dispatcher. -/
structure Settles (k : Kernel) (answer : Except Exit α) (d : Dispatcher)
    (outcome : Outcome Exit Event Kernel α) : Prop where
  answer_eq : outcome.answer = answer
  state_eq : outcome.state = k.withTasks d
  switches_eq : switches outcome.events = []

/-- An attempt in which the dispatcher answers and no switch follows. -/
theorem attempt_settles (h : k.Idle) {operation : Dispatcher → Dispatcher.Result α}
    {body : α → Method β} {d : Dispatcher} {value : α} {result : β}
    (hdone : operation k.tasks.value = .done d value)
    (hbody : ∀ k, body value k = .done k result) :
    Settles k (.ok result) d (masked (onTasks operation >>= body) k) := by
  rw [masked_apply, Act.bind_apply, onTasks_apply h.mask.tasks_free]
  simp only [hdone, Except.mapError, Outcome.bind, hbody, Outcome.done, List.append_nil,
    Outcome.mapState]
  exact ⟨rfl, rfl, switches_of_silent (silent_entered _ _)⟩

/-- An attempt that the dispatcher stops. -/
theorem attempt_stops (h : k.Idle) {operation : Dispatcher → Dispatcher.Result α}
    (body : α → Method β) {cause : Stop} {d : Dispatcher}
    (hanswer : (operation k.tasks.value).answer = .error cause)
    (hstate : (operation k.tasks.value).state = d) :
    Settles k (.error (.stop cause)) d (masked (onTasks operation >>= body) k) := by
  rw [masked_apply, Act.bind_apply, onTasks_apply h.mask.tasks_free]
  simp only [hanswer, hstate, Except.mapError, Outcome.bind, Outcome.mapState]
  exact ⟨rfl, rfl, switches_of_silent (silent_entered _ _)⟩

/-- An attempt over which the executing task falls asleep, and that is followed by a switch. -/
theorem attempt_switches (h : k.Idle) {operation : Dispatcher → Dispatcher.Result α}
    {body : α → Method (Option β)} {value : α} {switch : Switch}
    (hanswer : (operation k.tasks.value).answer = .ok value)
    (hne : switch.next ≠ switch.current)
    (hnext : switch.next ∈ (operation k.tasks.value).state.tasks)
    (hcurrent : switch.current ∈ (operation k.tasks.value).state.tasks)
    (htold : ∀ k, body value k = (carryOut switch k).map fun () => none) :
    (masked (onTasks operation >>= body) k).answer = .ok none ∧
      (masked (onTasks operation >>= body) k).state =
        k.withTasks (operation k.tasks.value).state ∧
      switches (masked (onTasks operation >>= body) k).events = [switch] := by
  rw [masked_apply, Act.bind_apply, onTasks_apply h.mask.tasks_free]
  simp only [hanswer, Except.mapError, Outcome.bind, htold]
  rw [carryOut_apply rfl hne hnext hcurrent]
  refine ⟨rfl, rfl, ?_⟩
  simp only [Outcome.mapState, Outcome.map]
  rw [switches_append, switches_of_silent (silent_entered _ _)]
  rfl

/-! ## A row of attempts -/

section Attempts

variable {attempt : Method (Option α)} {attempts : Nat → Method α}

/-- After an attempt that does not succeed comes the next one. -/
theorem attempts_of_none (hsucc : ∀ n, attempts (n + 1) = attempt >>= (·.elim (attempts n) pure))
    (n : Nat) (hanswer : (attempt k).answer = .ok none) :
    attempts (n + 1) k = (attempts n (attempt k).state).after (attempt k).events := by
  rw [hsucc, Act.bind_apply]
  exact Outcome.bind_of_ok hanswer _

theorem attempts_of_some (hsucc : ∀ n, attempts (n + 1) = attempt >>= (·.elim (attempts n) pure))
    (n : Nat) {value : α} (hanswer : (attempt k).answer = .ok (some value)) :
    attempts (n + 1) k =
      { answer := .ok value, state := (attempt k).state, events := (attempt k).events } := by
  rw [hsucc, Act.bind_apply]
  refine (Outcome.bind_of_ok hanswer _).trans ?_
  show (Outcome.done (attempt k).state value).after (attempt k).events = _
  simp only [Outcome.after, Outcome.done, List.append_nil]

theorem attempts_of_error (hsucc : ∀ n, attempts (n + 1) = attempt >>= (·.elim (attempts n) pure))
    (n : Nat) {cause : Exit} (hanswer : (attempt k).answer = .error cause) :
    attempts (n + 1) k =
      { answer := .error cause, state := (attempt k).state, events := (attempt k).events } := by
  rw [hsucc, Act.bind_apply]
  exact Outcome.bind_of_error hanswer _

/-- An attempt that settles what the loop waits for ends it. -/
theorem Settles.loop_of_some
    (hsucc : ∀ n, attempts (n + 1) = attempt >>= (·.elim (attempts n) pure)) {value : α}
    {d : Dispatcher} (h : Settles k (.ok (some value)) d (attempt k)) :
    ∃ outcome, (∀ n, attempts (1 + n) k = outcome) ∧ Settles k (.ok value) d outcome := by
  refine ⟨{ answer := .ok value, state := (attempt k).state, events := (attempt k).events },
    fun n => ?_, rfl, h.state_eq, h.switches_eq⟩
  rw [Nat.add_comm, attempts_of_some hsucc n h.answer_eq]

theorem Settles.loop_of_error
    (hsucc : ∀ n, attempts (n + 1) = attempt >>= (·.elim (attempts n) pure)) {cause : Exit}
    {d : Dispatcher} (h : Settles k (.error cause) d (attempt k)) :
    ∃ outcome, (∀ n, attempts (1 + n) k = outcome) ∧ Settles k (.error cause) d outcome := by
  refine ⟨{ answer := .error cause, state := (attempt k).state, events := (attempt k).events },
    fun n => ?_, rfl, h.state_eq, h.switches_eq⟩
  rw [Nat.add_comm, attempts_of_error hsucc n h.answer_eq]

/-- Tasks that fall asleep over their attempts hand the processor on, up to the task behind them. -/
theorem attempts_reach
    (hsucc : ∀ n, attempts (n + 1) = attempt >>= (·.elim (attempts n) pure))
    (Asleep : Kernel → List TaskId → Prop) (last : TaskId)
    (hstep : ∀ {k : Kernel} {id : TaskId} {rest : List TaskId}, Asleep k (id :: rest) →
      (attempt k).answer = .ok none ∧
        switches (attempt k).events = [{ next := rest.headD last, current := id }] ∧
        Asleep (attempt k).state rest)
    {ids : List TaskId} (h : Asleep k ids) :
    ∃ k' events, (∀ n, attempts (ids.length + n) k = (attempts n k').after events) ∧
      switches events = handovers (ids ++ [last]) ∧ Asleep k' [] := by
  -- On the tasks that are still to fall asleep.
  induction ids generalizing k with
  | nil =>
      refine ⟨k, [], ?_, rfl, h⟩
      intro n
      rw [List.length_nil, Nat.zero_add]
      rfl
  | cons id rest ih =>
      obtain ⟨hanswer, hswitches, hrest⟩ := hstep h
      obtain ⟨k', events, hlater, hhandovers, hlast⟩ := ih hrest
      refine ⟨k', (attempt k).events ++ events, ?_, ?_, hlast⟩
      · intro n
        rw [List.length_cons, Nat.add_right_comm, attempts_of_none hsucc _ hanswer, hlater]
        simp only [Outcome.after, List.append_assoc]
      · rw [switches_append, hswitches, hhandovers, handovers_cons_concat, List.singleton_append]

/-- The attempts end when they have gone over the scan at the latest, for more come to the same. -/
def ComesTo (k : Kernel) (attempts : Nat → Method α) (outcome : Outcome Exit Event Kernel α) :
    Prop :=
  ∀ n, k.tasks.value.scan.length ≤ n → attempts n k = outcome

/-- So they do when the kernel sets a limit to them. -/
theorem ComesTo.limit {P : Outcome Exit Event Kernel α → Prop}
    {outcome : Outcome Exit Event Kernel α} (h : k.ComesTo attempts outcome)
    (hx : k.tasks.value.executing? = some id) (houtcome : P outcome) :
    k.ComesTo attempts (attempts k.attemptsFor k) ∧ P (attempts k.attemptsFor k) := by
  have hlimit : k.tasks.value.scan.length ≤ k.attemptsFor := by
    rw [(perm_scan hx).length_eq]
    exact Nat.le_succ _
  obtain rfl : attempts k.attemptsFor k = outcome := h _ hlimit
  exact ⟨h, houtcome⟩

theorem one_le_length_scan (hx : k.tasks.value.executing? = some id) :
    1 ≤ k.tasks.value.scan.length := by
  rw [scan_of_executing hx]
  exact Nat.le_add_left 1 _

theorem comesTo_of_add {outcome : Outcome Exit Event Kernel α} {n : Nat}
    (hn : n ≤ k.tasks.value.scan.length) (h : ∀ more, attempts (n + more) k = outcome) :
    k.ComesTo attempts outcome := by
  intro total htotal
  obtain ⟨more, rfl⟩ := Nat.exists_eq_add_of_le (hn.trans htotal)
  exact h more

end Attempts

/-! ## Falling asleep over an attempt -/

/-- Nobody uses the kernel, and its dispatcher is as it should be. -/
structure Poised (k : Kernel) : Prop extends Idle k where
  accounted : k.tasks.value.Accounted
  vigilant : k.tasks.value.Vigilant

/-- The executing task falls asleep over an attempt, and `rest` is the scan of those behind it. -/
structure Lapses (k : Kernel) (d' : Dispatcher) (id : TaskId) (rest : List TaskId)
    (outcome : Outcome Exit Event Kernel (Option α)) : Prop where
  state_eq : outcome.state = k.withTasks d'
  poised : (k.withTasks d').Poised
  scan_eq : d'.scan = rest
  hands : ∀ next more, rest = next :: more →
    outcome.answer = .ok none ∧ switches outcome.events = [{ next, current := id }]
  strands : rest = [] → Exhausted outcome ∧ switches outcome.events = []

/-- The dispatcher puts the executing task to sleep, and the kernel carries that out. -/
theorem lapses (h : k.Idle) {d : Dispatcher} {operation : Dispatcher → Dispatcher.Result α}
    {body : α → Method (Option β)} {told : Option Switch → α}
    {slept : Dispatcher.Result (Option Switch)}
    (hoperation : operation k.tasks.value = slept.map told) (hdozes : d.Dozes id rest slept)
    (hid : id ∈ d.tasks) (hnodup : (id :: rest).Nodup)
    (htold : ∀ switch k, body (told (some switch)) k = (carryOut switch k).map fun () => none) :
    Lapses k slept.state id rest (masked (onTasks operation >>= body) k) := by
  have hstate : (operation k.tasks.value).state = slept.state := by
    rw [hoperation]
    rfl
  have hpoised : (k.withTasks slept.state).Poised :=
    ⟨⟨rfl, h.timers_free⟩, hdozes.accounted, hdozes.vigilant⟩
  -- The dispatcher faults if nobody is left, and else names the next of the scan.
  cases rest with
  | nil =>
      obtain ⟨level, hfault⟩ := hdozes.strands rfl
      have hanswer : (operation k.tasks.value).answer = .error (.fault (.emptyQueue level)) := by
        rw [hoperation]
        exact Outcome.answer_map_eq_error_iff.mpr hfault
      obtain ⟨hstopped, hafter, hnone⟩ := attempt_stops h body hanswer hstate
      refine ⟨hafter, hpoised, hdozes.scan_eq, fun _ _ hrest => absurd hrest (by simp), ?_⟩
      exact fun _ => ⟨⟨level, hstopped⟩, hnone⟩
  | cons next more =>
      have hanswer : (operation k.tasks.value).answer =
          .ok (told (some { next, current := id })) := by
        rw [hoperation]
        exact Outcome.answer_map_eq_ok_iff.mpr ⟨_, hdozes.switch next more rfl, rfl⟩
      have hne : next ≠ id := by
        rintro rfl
        exact (List.nodup_cons.mp hnodup).1 List.mem_cons_self
      have hnext : next ∈ (operation k.tasks.value).state.tasks := by
        rw [hstate]
        exact hdozes.accounted.mem_executing (executing_of_scan hdozes.scan_eq)
      have hcurrent : id ∈ (operation k.tasks.value).state.tasks := by
        rw [hstate]
        exact mem_of_ite (hdozes.tasks id) hid
      obtain ⟨hwaits, hafter, hswitch⟩ :=
        attempt_switches h hanswer hne hnext hcurrent (htold { next, current := id })
      rw [hstate] at hafter
      refine ⟨hafter, hpoised, hdozes.scan_eq, ?_, fun hrest => absurd hrest (by simp)⟩
      intro first others hrest
      rw [← (List.cons.inj hrest).1]
      exact ⟨hwaits, hswitch⟩

/-! ## A row of sleepers -/

/-- Those in front of `last` fall asleep over their attempts, and then it is the turn of `last`.
`Became` says what their attempts make of the dispatcher. -/
theorem attempts_lapse {attempt : Method (Option α)} {attempts : Nat → Method α}
    (hsucc : ∀ n, attempts (n + 1) = attempt >>= (·.elim (attempts n) pure))
    (Became : List TaskId → Dispatcher → Prop) {before tail : List TaskId} {last : TaskId}
    (hstep : ∀ {k : Kernel} {id : TaskId} {gone rest : List TaskId}, k.Poised →
      k.tasks.value.scan = id :: rest → id ∈ before → (gone ++ [id]).Nodup →
      Became gone k.tasks.value →
      ∃ d', Lapses k d' id rest (attempt k) ∧ Became (gone ++ [id]) d')
    (h : k.Poised) (hscan : k.tasks.value.scan = before ++ last :: tail)
    (hnodup : before.Nodup) (hstart : Became [] k.tasks.value) :
    ∃ k' events, (∀ n, attempts (before.length + n) k = (attempts n k').after events) ∧
      switches events = handovers (before ++ [last]) ∧ k'.Poised ∧
      k'.tasks.value.scan = last :: tail ∧ Became before k'.tasks.value := by
  -- Between two attempts `ids` are still to fall asleep, and the others of `before` are gone.
  have hrow := attempts_reach hsucc (fun k ids => k.Poised ∧
    k.tasks.value.scan = ids ++ last :: tail ∧
      ∃ gone, gone ++ ids = before ∧ Became gone k.tasks.value) last ?step
    ⟨h, hscan, [], rfl, hstart⟩
  case step =>
    rintro k id rest ⟨hpoised, hbehind, gone, rfl, hbecame⟩
    have hdistinct : (gone ++ [id]).Nodup := by
      rw [List.append_cons] at hnodup
      exact (List.nodup_append.mp hnodup).1
    obtain ⟨d', hlapses, hbecame'⟩ := hstep hpoised hbehind (by simp) hdistinct hbecame
    obtain ⟨next, more, hnext, hhead⟩ : ∃ next more, rest ++ last :: tail = next :: more ∧
        rest.headD last = next := by
      cases rest with
      | nil => exact ⟨last, tail, rfl, rfl⟩
      | cons first others => exact ⟨first, others ++ last :: tail, rfl, rfl⟩
    obtain ⟨hanswer, hswitch⟩ := hlapses.hands next more hnext
    rw [hhead, hlapses.state_eq]
    exact ⟨hanswer, hswitch, hlapses.poised, hlapses.scan_eq, gone ++ [id],
      (List.append_cons gone id rest).symm, hbecame'⟩
  obtain ⟨k', events, hattempts, hswitches, hpoised, hlast, gone, hgone, hbecame⟩ := hrow
  rw [List.append_nil] at hgone
  exact ⟨k', events, hattempts, hswitches, hpoised, hlast, hgone ▸ hbecame⟩

/-- All runnable tasks fall asleep over their attempts, and the last of them strands. -/
theorem attempts_strand {attempt : Method (Option α)} {attempts : Nat → Method α}
    (hsucc : ∀ n, attempts (n + 1) = attempt >>= (·.elim (attempts n) pure))
    (Became : List TaskId → Dispatcher → Prop) {all : List TaskId}
    (hstep : ∀ {k : Kernel} {id : TaskId} {gone rest : List TaskId}, k.Poised →
      k.tasks.value.scan = id :: rest → id ∈ all → (gone ++ [id]).Nodup →
      Became gone k.tasks.value →
      ∃ d', Lapses k d' id rest (attempt k) ∧ Became (gone ++ [id]) d')
    (h : k.Poised) (hscan : k.tasks.value.scan = all) (hx : k.tasks.value.executing? = some id)
    (hstart : Became [] k.tasks.value) :
    ∃ outcome, k.ComesTo attempts outcome ∧ Exhausted outcome ∧
      switches outcome.events = handovers all ∧ Became all outcome.state.tasks.value := by
  have hnodup : all.Nodup := hscan ▸ nodup_scan h.accounted hx
  obtain ⟨before, last, rfl⟩ : ∃ before last, all = before ++ [last] := by
    rcases List.eq_nil_or_concat all with rfl | ⟨before, last, rfl⟩
    · rw [scan_of_executing hx] at hscan
      exact absurd hscan (List.cons_ne_nil _ _)
    · exact ⟨before, last, List.concat_eq_append⟩
  -- The last of the scan has nobody to hand the processor to.
  obtain ⟨k', events, hattempts, hswitches, hpoised, hlast, hbecame⟩ :=
    attempts_lapse hsucc Became
      (fun hk hfirst hmem => hstep hk hfirst (List.mem_append_left _ hmem)) h hscan
      (List.nodup_append.mp hnodup).1 hstart
  obtain ⟨d', hlapses, hbecame'⟩ := hstep hpoised hlast (by simp) hnodup hbecame
  obtain ⟨⟨level, hanswer⟩, hnone⟩ := hlapses.strands rfl
  refine ⟨{ answer := .error (.stop (.fault (.emptyQueue level)))
            state := (attempt k').state
            events := events ++ (attempt k').events },
    comesTo_of_add (Nat.le_of_eq (congrArg List.length hscan).symm) ?_, ⟨level, rfl⟩, ?_, ?_⟩
  · intro n
    rw [List.length_append, List.length_singleton, Nat.add_assoc, Nat.add_comm 1 n, hattempts,
      attempts_of_error hsucc n hanswer]
    rfl
  · rw [switches_append, hnone, hswitches, List.append_nil]
  · rw [hlapses.state_eq]
    exact hbecame'

/-- Nobody is left to go on with: a loop went over the whole scan, and every task sleeps. -/
structure Strands (k : Kernel) (outcome : Outcome Exit Event Kernel α) : Prop where
  exhausted : Exhausted outcome
  switches_eq : switches outcome.events = handovers k.tasks.value.scan
  asleep : ∀ x : TaskId, outcome.state.tasks.value.tasks[x]? =
    k.tasks.value.tasks[x]?.map ({ · with running := false })

end TaskKernel.Kernel
