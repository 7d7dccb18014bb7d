import TaskKernel.Proofs.Blocking
import TaskKernel.Proofs.Numbering
import TaskKernel.Proofs.Steps

/-!
# Loops that block end

A loop that waits makes attempts until one succeeds. An attempt that fails leaves one runnable task
less, so no more are made than there are runnable tasks, whatever the loop waits for.

* `awaitMessage_finds`, `awaitMessage_strands` — a wait for a message finds the first task of the
  scan that has one, unless none of them has.
* `awaitExit_told`, `awaitExit_unknown`, `awaitExit_strands` — a wait for the end of a task comes to
  the recorded code, to a refusal, or to everybody waiting for a task that lives.
* `Intact` — the kernels to which methods lead of which none faulted. Some task executes there
  (`Intact.attuned`), and the dispatcher is as it should be (`Intact.poised`).
* `Intact.neverSpins` — so the loops that are begun in such a kernel end.
-/

namespace TaskKernel.Kernel

open Dispatcher

variable {α : Type} {k : Kernel} {id : TaskId} {rest : List TaskId}

/-! ## Waiting for a message -/

theorem messageAttempt_lapses (h : k.Poised) (hscan : k.tasks.value.scan = id :: rest)
    (hmail : k.tasks.value.mail id = []) :
    ∃ d', Lapses k d' id rest (messageAttempt k) ∧ ∀ x, d'.tasks[x]? =
      if id = x then k.tasks.value.tasks[x]?.map ({ · with running := false })
      else k.tasks.value.tasks[x]? := by
  have hx := executing_of_scan hscan
  obtain ⟨slept, hoperation, hdozes⟩ :=
    receiveOrSuspend_dozes h.accounted h.vigilant hscan hmail
  refine ⟨slept.state, ?_, hdozes.tasks⟩
  exact lapses h.toIdle hoperation hdozes (h.accounted.mem_executing hx)
    (hscan ▸ nodup_scan h.accounted hx) fun switch k =>
      Outcome.bind_done (carryOut switch k) fun () => none

theorem messageAttempt_takes (h : k.Poised) (hscan : k.tasks.value.scan = id :: rest)
    {message : Message} {later : List Message}
    (hmail : k.tasks.value.mail id = message :: later) :
    ∃ task, k.tasks.value.tasks[id]? = some task ∧
      Settles k (.ok (some message)) (k.tasks.value.store id { task with mailbox := ⟨later⟩ })
        (messageAttempt k) := by
  obtain ⟨task, hlive, hdone⟩ := receiveOrSuspend_takes h.accounted hscan hmail
  exact ⟨task, hlive, attempt_settles h.toIdle hdone fun _ => rfl⟩

/-- The tasks before the first one with a message fall asleep, and that one takes it. -/
structure Finds (k : Kernel) (before : List TaskId) (found : TaskId) (message : Message)
    (later : List Message) (outcome : Outcome Exit Event Kernel Message) : Prop where
  answer : outcome.answer = .ok message
  /-- There is one switch for each of those that fall asleep. -/
  switches_eq : switches outcome.events = handovers (before ++ [found])
  executing : outcome.state.tasks.value.executing? = some found
  tasks : ∀ x : TaskId, outcome.state.tasks.value.tasks[x]? =
    if x ∈ before then k.tasks.value.tasks[x]?.map ({ · with running := false })
    else if x = found then k.tasks.value.tasks[x]?.map ({ · with mailbox := ⟨later⟩ })
    else k.tasks.value.tasks[x]?

theorem messageAttempt_step {d : Dispatcher} {all : List TaskId}
    (hempty : ∀ id ∈ all, d.mail id = []) {k : Kernel} {id : TaskId} {gone rest : List TaskId}
    (h : k.Poised) (hscan : k.tasks.value.scan = id :: rest) (hid : id ∈ all)
    (hgone : d.AsleepAfter k.tasks.value gone) :
    ∃ d', Lapses k d' id rest (messageAttempt k) ∧ d.AsleepAfter d' (gone ++ [id]) := by
  have hmail : k.tasks.value.mail id = [] := (hgone.mail_eq id).trans (hempty id hid)
  obtain ⟨d', hlapses, htasks⟩ := messageAttempt_lapses h hscan hmail
  exact ⟨d', hlapses, hgone.concat htasks⟩

/-- A wait for a message finds the first one of the scan. -/
theorem awaitMessage_finds (h : k.Poised) (hx : k.tasks.value.executing? = some id)
    {before tail : List TaskId} {found : TaskId} {message : Message} {later : List Message}
    (hscan : k.tasks.value.scan = before ++ found :: tail)
    (hempty : ∀ id ∈ before, k.tasks.value.mail id = [])
    (hmail : k.tasks.value.mail found = message :: later) :
    k.ComesTo messageAttempts (awaitMessage k) ∧
      Finds k before found message later (awaitMessage k) := by
  have hnodup : before.Nodup := by
    have hall := nodup_scan h.accounted hx
    rw [hscan] at hall
    exact (List.nodup_append.mp hall).1
  have hother : found ∉ before := by
    intro hmem
    rw [hempty found hmem] at hmail
    exact absurd hmail (by simp)
  obtain ⟨k', events, hattempts, hswitches, hpoised, hfirst, hasleep⟩ :=
    attempts_lapse messageAttempts_succ (fun gone d => k.tasks.value.AsleepAfter d gone)
      (fun hk hscan hid _ hgone => messageAttempt_step hempty hk hscan hid hgone) h hscan hnodup
      (asleepAfter_nil _)
  obtain ⟨task, hlive, ⟨hanswer, hstate, hnone⟩⟩ :=
    messageAttempt_takes hpoised hfirst ((hasleep.mail_eq found).trans hmail)
  have henough : before.length + 1 ≤ k.tasks.value.scan.length := by
    rw [hscan, List.length_append, List.length_cons]
    exact Nat.add_le_add_left (Nat.le_add_left 1 _) _
  have hcomes : k.ComesTo messageAttempts
      { answer := .ok message
        state := (messageAttempt k').state
        events := events ++ (messageAttempt k').events } := by
    refine comesTo_of_add henough fun n => ?_
    rw [Nat.add_assoc, Nat.add_comm 1 n, hattempts, attempts_of_some messageAttempts_succ n hanswer]
    rfl
  refine hcomes.limit hx (P := Finds k before found message later) ⟨rfl, ?_, ?_, ?_⟩
  · rw [switches_append, hnone, hswitches, List.append_nil]
  · rw [hstate]
    exact executing_of_scan hfirst
  · intro x
    rw [hstate]
    show (k'.tasks.value.store found _).tasks[x]? = _
    rw [getElem?_store]
    by_cases hx : found = x
    · subst hx
      have hkept : k.tasks.value.tasks[found]? = some task := by
        rw [← hlive, hasleep found, if_neg hother]
      rw [if_pos rfl, if_neg hother, if_pos rfl, hkept, Option.map_some]
    · rw [if_neg hx, if_neg (Ne.symm hx)]
      exact hasleep x

/-- Without a message for anybody, it strands. -/
theorem awaitMessage_strands (h : k.Poised) (hx : k.tasks.value.executing? = some id)
    (hempty : ∀ id ∈ k.tasks.value.scan, k.tasks.value.mail id = []) :
    k.ComesTo messageAttempts (awaitMessage k) ∧ Strands k (awaitMessage k) := by
  obtain ⟨outcome, hcomes, hexhausted, hswitches, hasleep⟩ :=
    attempts_strand messageAttempts_succ (fun gone d => k.tasks.value.AsleepAfter d gone)
      (fun hk hscan hid _ hgone => messageAttempt_step hempty hk hscan hid hgone) h rfl hx
      (asleepAfter_nil _)
  exact hcomes.limit hx (P := Strands k) ⟨hexhausted, hswitches, hasleep.all h.accounted hx⟩

/-! ## Waiting for an exit -/

/-- Some tasks asked how a live task ended, one after the other, and fell asleep over it. -/
structure WaitedAfter (target : TaskId) (d d' : Dispatcher) (gone : List TaskId) : Prop where
  asleep : d.AsleepAfter d' gone
  exitCodes : d'.exitCodes = d.exitCodes
  /-- Each is noted once, behind those that were noted before. -/
  noted : d'.awaiting target = d.awaiting target ++ gone.filter (· ∉ d.awaiting target)
  others : ∀ id, id ≠ target → d'.awaiting id = d.awaiting id

theorem waitedAfter_nil (target : TaskId) (d : Dispatcher) : WaitedAfter target d d [] :=
  ⟨asleepAfter_nil d, rfl, by rw [List.filter_nil, List.append_nil], fun _ _ => rfl⟩

/-- One more asks and falls asleep. -/
theorem WaitedAfter.concat {d d' d'' : Dispatcher} {target : TaskId} {gone : List TaskId}
    (h : WaitedAfter target d d' gone) (hnew : id ∉ gone)
    (hrecords : (d'.register id target).SameRecords d'')
    (htasks : ∀ x, d''.tasks[x]? =
      if id = x then d'.tasks[x]?.map ({ · with running := false }) else d'.tasks[x]?) :
    WaitedAfter target d d'' (gone ++ [id]) where
  asleep := h.asleep.concat htasks
  exitCodes := hrecords.exitCodes.trans h.exitCodes
  noted := by
    -- Those who asked in the meantime do not matter, for it is not among them.
    have hmem : id ∈ d'.awaiting target ↔ id ∈ d.awaiting target := by
      simp [h.noted, hnew]
    rw [hrecords.awaiting, awaiting_register, List.filter_append, ← List.append_assoc, ← h.noted]
    by_cases hnoted : id ∈ d.awaiting target
    · simp [hmem, hnoted]
    · simp [hmem, hnoted]
  others other hother := by
    rw [hrecords.awaiting, awaiting_register, if_neg fun hand => hother hand.1.symm]
    exact h.others other hother

theorem WaitedAfter.count_eq_one {d d' : Dispatcher} {target : TaskId} {gone : List TaskId}
    (h : WaitedAfter target d d' gone) (hnodup : (d.awaiting target).Nodup) (hgone : gone.Nodup)
    (hid : id ∈ gone) : (d'.awaiting target).count id = 1 := by
  rw [h.noted, List.count_append]
  by_cases hnoted : id ∈ d.awaiting target
  · have hpassed : id ∉ gone.filter (· ∉ d.awaiting target) := by simp [hnoted]
    rw [List.count_eq_one_of_mem hnodup hnoted, List.count_eq_zero_of_not_mem hpassed]
  · have hkept : (gone.filter (· ∉ d.awaiting target)).count id = gone.count id :=
      List.count_filter (by simpa using hnoted)
    rw [List.count_eq_zero_of_not_mem hnoted, hkept, List.count_eq_one_of_mem hgone hid]

theorem exitAttempt_lapses (h : k.Poised) (hscan : k.tasks.value.scan = id :: rest)
    {target : TaskId} (hcode : k.tasks.value.exitCodes[target]? = none)
    (htarget : target ∈ k.tasks.value.tasks) :
    ∃ d', Lapses k d' id rest (exitAttempt target k) ∧
      (k.tasks.value.register id target).SameRecords d' ∧
      ∀ x, d'.tasks[x]? =
        if id = x then k.tasks.value.tasks[x]?.map ({ · with running := false })
        else k.tasks.value.tasks[x]? := by
  have hx := executing_of_scan hscan
  obtain ⟨slept, hasked, hdozes⟩ :=
    awaitExit_dozes h.accounted h.vigilant hscan hcode htarget
  have hoperation : k.tasks.value.withCurrent (k.tasks.value.awaitExit · target) =
      slept.map .blocked := (withCurrent_of_executing hx _).trans hasked
  refine ⟨slept.state, ?_, hdozes.records, hdozes.tasks⟩
  exact lapses h.toIdle hoperation hdozes (h.accounted.mem_executing hx)
    (hscan ▸ nodup_scan h.accounted hx) fun switch k =>
      Outcome.bind_done (carryOut switch k) fun () => none

/-- Everybody waits for a task, and nobody is left to go on with. -/
structure AllWait (k : Kernel) (target : TaskId) (outcome : Outcome Exit Event Kernel α) : Prop
    extends Strands k outcome where
  /-- They are noted in the order in which they fall asleep. -/
  waited :
    WaitedAfter target k.tasks.value outcome.state.tasks.value k.tasks.value.scan
  once : ∀ id ∈ k.tasks.value.scan, (outcome.state.tasks.value.awaiting target).count id = 1

/-- A wait for the end of a live task strands, and everybody is noted. -/
theorem awaitExit_strands (h : k.Poised) (hx : k.tasks.value.executing? = some id)
    {target : TaskId} (hcode : k.tasks.value.exitCodes[target]? = none)
    (htarget : target ∈ k.tasks.value.tasks) (hnodup : (k.tasks.value.awaiting target).Nodup) :
    k.ComesTo (exitAttempts target) (awaitExit target k) ∧
      AllWait k target (awaitExit target k) := by
  have hrow := attempts_strand (exitAttempts_succ target)
    (fun gone d => WaitedAfter target k.tasks.value d gone) ?step h rfl hx
    (waitedAfter_nil target _)
  case step =>
    intro k' id gone rest hk' hscan _ hdistinct hwaited
    have hunknown : k'.tasks.value.exitCodes[target]? = none := by
      rw [hwaited.exitCodes, hcode]
    obtain ⟨d', hlapses, hrecords, htasks⟩ :=
      exitAttempt_lapses hk' hscan hunknown (hwaited.asleep.mem_iff.mpr htarget)
    have hnew : id ∉ gone := fun hmem =>
      (List.nodup_append.mp hdistinct).2.2 id hmem id (List.mem_singleton_self id) rfl
    exact ⟨d', hlapses, hwaited.concat hnew hrecords htasks⟩
  obtain ⟨outcome, hcomes, hexhausted, hswitches, hwaited⟩ := hrow
  exact hcomes.limit hx (P := AllWait k target)
    ⟨⟨hexhausted, hswitches, hwaited.asleep.all h.accounted hx⟩, hwaited,
      fun _ hid => hwaited.count_eq_one hnodup (nodup_scan h.accounted hx) hid⟩

/-- Whoever asks how a task ended is told, if that is recorded, and takes the record with him. -/
theorem awaitExit_told (h : k.Idle) (hx : k.tasks.value.executing? = some id)
    {target : TaskId} {code : Int32} (hcode : k.tasks.value.exitCodes[target]? = some code) :
    k.ComesTo (exitAttempts target) (awaitExit target k) ∧ Settles k (.ok code)
      { k.tasks.value with exitCodes := k.tasks.value.exitCodes.erase target }
      (awaitExit target k) := by
  have hasked : k.tasks.value.withCurrent (k.tasks.value.awaitExit · target) =
      .done { k.tasks.value with exitCodes := k.tasks.value.exitCodes.erase target }
        (.exited code) := by
    refine (withCurrent_of_executing hx _).trans ?_
    unfold Dispatcher.awaitExit
    rw [hcode]
  have hattempt : Settles k (.ok (some code))
      { k.tasks.value with exitCodes := k.tasks.value.exitCodes.erase target }
      (exitAttempt target k) := attempt_settles h hasked fun _ => rfl
  obtain ⟨outcome, hattempts, hsettles⟩ := hattempt.loop_of_some (exitAttempts_succ target)
  exact (comesTo_of_add (one_le_length_scan hx) hattempts).limit hx (P := Settles k _ _) hsettles

/-- Of a task that is neither recorded nor live there is nothing to wait for. -/
theorem awaitExit_unknown (h : k.Idle) (hx : k.tasks.value.executing? = some id)
    {target : TaskId} (hcode : k.tasks.value.exitCodes[target]? = none)
    (htarget : target ∉ k.tasks.value.tasks) :
    k.ComesTo (exitAttempts target) (awaitExit target k) ∧
      Settles k (.error (.stop (.refused .noSuchTask))) k.tasks.value (awaitExit target k) := by
  have hasked : k.tasks.value.withCurrent (k.tasks.value.awaitExit · target) =
      k.tasks.value.refuse .noSuchTask := by
    refine (withCurrent_of_executing hx _).trans ?_
    unfold Dispatcher.awaitExit
    rw [hcode]
    exact if_neg fun hlive => htarget hlive.1
  have hattempt : Settles k (.error (.stop (.refused .noSuchTask))) k.tasks.value
      (exitAttempt target k) :=
    attempt_stops h _ (congrArg Outcome.answer hasked) (congrArg Outcome.state hasked)
  obtain ⟨outcome, hattempts, hsettles⟩ := hattempt.loop_of_error (exitAttempts_succ target)
  exact (comesTo_of_add (one_le_length_scan hx) hattempts).limit hx (P := Settles k _ _) hsettles

/-! ## Kernels in which nothing faulted -/

/-- A kernel that methods lead to of which none faulted. The processor may go on with another task
for good, and somebody may switch interrupts on and off between the methods. -/
inductive Intact : Kernel → Prop where
  | start {config : Config} {platform : Platform} {arena : Arena} {interrupts : Bool} {k : Kernel} :
    start config platform arena interrupts = .ok k → Intact k
  | call {k : Kernel} (call : Call) : Intact k →
    (∀ cause, (call.perform k).answer ≠ .error (.stop (.fault cause))) →
    Intact (call.perform k).state
  /-- What is done to the dispatcher or the timers while they are in use. -/
  | within {k : Kernel} (operation : Scheduler.Operation) : Intact k →
    k.scheduler.Completes operation → Intact (k.apply (.within operation))
  | interrupts {k : Kernel} (interrupts : Bool) : Intact k → Intact { k with interrupts }

/-- Tasks and timers have a history, and there is a task that executes. -/
theorem Intact.attuned (h : Intact k) : k.scheduler.Reachable ∧ ∃ cpu, k.Attuned cpu := by
  induction h with
  | @start config platform arena interrupts k hstart =>
      have hbegun := (leaves_start hstart).scheduler_eq
      exact ⟨⟨config, platform, arena, _, hbegun.symm⟩, 1, attuned_start hstart⟩
  | @call k call _ hfaultless ih =>
      obtain ⟨hreachable, cpu, hattuned⟩ := ih
      obtain ⟨history, hrefines⟩ := perform_refines hattuned.idle call
      -- A method that does not leave the kernel attuned ended for want of a task, which is a fault.
      refine ⟨?_, _, (agrees_perform hattuned call).attuned.resolve_left ?_⟩
      · rw [hrefines.scheduler_eq]
        exact hreachable.run history
      · rintro ⟨level, hempty⟩
        exact hfaultless _ hempty
  | @within k operation _ hcompletes ih =>
      obtain ⟨hreachable, cpu, hattuned⟩ := ih
      have hrefines := apply_refines hattuned.idle (.within operation)
      have hscheduler : (k.apply (.within operation)).scheduler =
          (k.scheduler.perform operation).state := hrefines.scheduler_eq
      have hlater : (k.apply (.within operation)).scheduler.Reachable :=
        hscheduler ▸ hreachable.run [operation]
      obtain ⟨next, hnext⟩ := Scheduler.executing_of_completes
        (s := k.scheduler) hattuned.accounted hattuned.executing hcompletes
      refine ⟨hlater, next, hrefines.tasks_free, hrefines.timers_free, hlater.accounted, ?_⟩
      exact (congrArg (·.tasks.executing?) hscheduler).trans hnext
  | interrupts interrupts _ ih =>
      obtain ⟨hreachable, cpu, hattuned⟩ := ih
      exact ⟨hreachable, cpu, hattuned.mask interrupts⟩

theorem Intact.poised (h : Intact k) : k.Poised := by
  obtain ⟨hreachable, cpu, hattuned⟩ := h.attuned
  exact ⟨hattuned.idle, hattuned.accounted, hreachable.vigilant⟩

/-- A task that lives has not ended, and nobody is noted twice as waiting for it. -/
theorem Intact.unrecorded (h : Intact k) {target : TaskId}
    (htarget : target ∈ k.tasks.value.tasks) :
    k.tasks.value.exitCodes[target]? = none ∧ (k.tasks.value.awaiting target).Nodup := by
  obtain ⟨hreachable, _⟩ := h.attuned
  refine ⟨Std.ExtTreeMap.getElem?_eq_none fun hrecorded => ?_, hreachable.noted.nodup target⟩
  exact (hreachable.identified.ended target hrecorded).2.2 htarget

/-! ## How the loops come out -/

/-- A wait for a message ends. -/
structure MessageEnds (k : Kernel) : Prop where
  bounded : k.ComesTo messageAttempts (awaitMessage k)
  /-- The first task of the scan that has a message takes the oldest one, and exactly those before
  it fall asleep. -/
  finds : ∀ before found tail message later,
    k.tasks.value.scan = before ++ found :: tail →
    (∀ id ∈ before, k.tasks.value.mail id = []) →
    k.tasks.value.mail found = message :: later →
    Finds k before found message later (awaitMessage k)
  /-- If none has one, all fall asleep and nobody is left to go on with, and only then. -/
  strands : (∀ id ∈ k.tasks.value.scan, k.tasks.value.mail id = []) → Strands k (awaitMessage k)
  exhausted_iff : Exhausted (awaitMessage k) ↔ ∀ id ∈ k.tasks.value.scan, k.tasks.value.mail id = []
  ne_spinning : (awaitMessage k).answer ≠ .error .spinning

/-- A wait for the end of a task ends. -/
structure ExitEnds (k : Kernel) (target : TaskId) : Prop where
  bounded : k.ComesTo (exitAttempts target) (awaitExit target k)
  /-- The recorded code is returned, and the record struck out. -/
  told : ∀ code, k.tasks.value.exitCodes[target]? = some code →
    Settles k (.ok code)
      { k.tasks.value with exitCodes := k.tasks.value.exitCodes.erase target } (awaitExit target k)
  unknown : k.tasks.value.exitCodes[target]? = none → target ∉ k.tasks.value.tasks →
    Settles k (.error (.stop (.refused .noSuchTask))) k.tasks.value (awaitExit target k)
  /-- Over a live task all fall asleep. -/
  live : target ∈ k.tasks.value.tasks → AllWait k target (awaitExit target k)
  ne_spinning : (awaitExit target k).answer ≠ .error .spinning

/-- The loops that block end. -/
structure NeverSpins (k : Kernel) : Prop where
  /-- The scan consists of the runnable tasks, each of them once. -/
  runnable : ∀ id, id ∈ k.tasks.value.scan ↔
    ∃ task, k.tasks.value.tasks[id]? = some task ∧ task.running = true
  nodup : k.tasks.value.scan.Nodup
  message : MessageEnds k
  exit : ∀ target, ExitEnds k target

/-- Either nobody on the scan has a message, or there is a first one who has. -/
theorem starved_or_found (d : Dispatcher) :
    (∀ id ∈ d.scan, d.mail id = []) ∨ ∃ before found tail message later,
      d.scan = before ++ found :: tail ∧ (∀ id ∈ before, d.mail id = []) ∧
        d.mail found = message :: later := by
  cases hfirst : d.scan.find? fun id => d.mail id ≠ [] with
  | none => exact .inl (by simpa using hfirst)
  | some found =>
      obtain ⟨hmail, before, tail, hscan, hempty⟩ := List.find?_eq_some_iff_append.mp hfirst
      obtain ⟨message, later, hmail⟩ := List.exists_cons_of_ne_nil (of_decide_eq_true hmail)
      exact .inr ⟨before, found, tail, message, later, hscan, by simpa using hempty, hmail⟩

theorem messageEnds (h : k.Poised) {cpu : TaskId} (hattuned : k.Attuned cpu) : MessageEnds k := by
  have hx := hattuned.executing
  refine ⟨?bounded,
    fun _ _ _ _ _ hscan hempty hmail => (awaitMessage_finds h hx hscan hempty hmail).2,
    fun hempty => (awaitMessage_strands h hx hempty).2,
    ⟨?empty, fun hempty => (awaitMessage_strands h hx hempty).2.exhausted⟩,
    (switching_awaitMessage hattuned).ne_spinning⟩
  case bounded =>
    rcases starved_or_found k.tasks.value with hempty | ⟨_, _, _, _, _, hscan, hempty, hmail⟩
    · exact (awaitMessage_strands h hx hempty).1
    · exact (awaitMessage_finds h hx hscan hempty hmail).1
  case empty =>
    rintro ⟨level, hexhausted⟩
    rcases starved_or_found k.tasks.value with hempty | ⟨_, _, _, _, _, hscan, hempty, hmail⟩
    · exact hempty
    · have hanswer := (awaitMessage_finds h hx hscan hempty hmail).2.answer
      exact absurd (hanswer.symm.trans hexhausted) (by simp)

theorem exitEnds (h : k.Intact) {cpu : TaskId} (hattuned : k.Attuned cpu) (target : TaskId) :
    ExitEnds k target := by
  have hx := hattuned.executing
  have hidle := h.poised.toIdle
  refine ⟨?bounded, fun _ hcode => (awaitExit_told hidle hx hcode).2,
    fun hcode hgone => (awaitExit_unknown hidle hx hcode hgone).2, ?live,
    (switching_awaitExit hattuned target).ne_spinning⟩
  case bounded =>
    cases hcode : k.tasks.value.exitCodes[target]? with
    | some code => exact (awaitExit_told hidle hx hcode).1
    | none =>
        by_cases htarget : target ∈ k.tasks.value.tasks
        · have hnodup := (h.unrecorded htarget).2
          exact (awaitExit_strands h.poised hx hcode htarget hnodup).1
        · exact (awaitExit_unknown hidle hx hcode htarget).1
  case live =>
    intro htarget
    obtain ⟨hcode, hnodup⟩ := h.unrecorded htarget
    exact (awaitExit_strands h.poised hx hcode htarget hnodup).2

/-- **The loops that block never spin**, after any methods of which none faulted. -/
theorem Intact.neverSpins (h : Intact k) : NeverSpins k := by
  obtain ⟨_, cpu, hattuned⟩ := h.attuned
  exact {
    runnable := fun _ => mem_scan_iff hattuned.accounted hattuned.executing
    nodup := nodup_scan hattuned.accounted hattuned.executing
    message := messageEnds h.poised hattuned
    exit := exitEnds h hattuned }

/-- The first task waits for a message, and the second one has one. -/
theorem neverSpins_two_tasks :
    ∃ k, start {} Platform.simulated (Arena.simulated 0) true = .ok k ∧
      Intact (k.run [.create, .send 2 { payload := .layerFinish }]) ∧
      NeverSpins (k.run [.create, .send 2 { payload := .layerFinish }]) := by
  refine ⟨_, rfl, ?_⟩
  have hstart : Intact _ :=
    .start (show start {} Platform.simulated (Arena.simulated 0) true = .ok _ from rfl)
  have hcreate := hstart.call .create (by intro cause h; cases h)
  have hsend := hcreate.call (.send 2 { payload := .layerFinish }) (by intro cause h; cases h)
  exact ⟨hsend, hsend.neverSpins⟩

example : ∃ k, start {} Platform.simulated (Arena.simulated 0) true = .ok k ∧
    (awaitMessage (k.run [.create, .send 2 { payload := .layerFinish }])).answer =
      .ok { payload := .layerFinish } ∧
    switches (awaitMessage (k.run [.create, .send 2 { payload := .layerFinish }])).events =
      [{ next := 2, current := 1 }] :=
  ⟨_, rfl, rfl, rfl⟩

end TaskKernel.Kernel
