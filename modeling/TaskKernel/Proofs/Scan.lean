import TaskKernel.Proofs.Mail
import TaskKernel.Proofs.Records
import TaskKernel.Proofs.RoundRobin
import TaskKernel.Proofs.Succession

/-!
# Who is next

If the executing task falls asleep, then the next one, and so on, the runnable tasks have their turn
in the order of `scan`: the executing task first, the others by descending level and in the order of
their queues.

* `RunQueues.head?_toList`, `RunQueues.toList_dropHead` — the queues in one row;
* `scan_doze` — who falls asleep is taken off the scan, and the rest of it stays as it is, whether
  or not a choice of level was due;
* `Dozes` — so the next of the scan is the one to switch to, and after the last of it there is
  nobody (`Suspended.dozes`).
-/

namespace TaskKernel

namespace RunQueues

variable {q : RunQueues} {level : Level} {id : TaskId}

/-- The tasks of a level stand together in the row of all. -/
theorem exists_toList_set (q : RunQueues) (level : Level) :
    ∃ above below, ∀ ids, (q.set level ids).toList = above ++ ids ++ below := by
  obtain ⟨above, below, hsplit⟩ := List.append_of_mem (Level.mem_descending level)
  have hsorted : (above ++ level :: below).Nodup := hsplit ▸ (by decide : Level.descending.Nodup)
  have hothers : ∀ other, other ∈ above ∨ other ∈ below → level ≠ other := by
    rintro other hmem rfl
    rw [List.nodup_append, List.nodup_cons] at hsorted
    rcases hmem with hmem | hmem
    · exact hsorted.2.2 level hmem level List.mem_cons_self rfl
    · exact hsorted.2.1.1 hmem
  refine ⟨above.flatMap q.get, below.flatMap q.get, ?_⟩
  intro ids
  have habove : above.flatMap (q.set level ids).get = above.flatMap q.get :=
    List.flatMap_congr fun other hmem => get_set_of_ne q ids (hothers other (.inl hmem))
  have hbelow : below.flatMap (q.set level ids).get = below.flatMap q.get :=
    List.flatMap_congr fun other hmem => get_set_of_ne q ids (hothers other (.inr hmem))
  rw [toList, hsplit, List.flatMap_append, List.flatMap_cons, get_set_self, habove, hbelow,
    List.append_assoc]

/-- Who leaves the head of a level leaves the row of all, which else stays as it is. -/
theorem toList_dropHead (hhead : q.head? level = some id) (hnodup : q.toList.Nodup) :
    (q.dropHead level).toList = q.toList.erase id := by
  obtain ⟨rest, hrest⟩ := head?_eq_some_iff.mp hhead
  obtain ⟨above, below, hrow⟩ := exists_toList_set q level
  have hall : q.toList = above ++ (id :: rest) ++ below := by
    rw [← hrow, ← hrest, set_get_self]
  have hfirst : id ∉ above := by
    intro hmem
    rw [hall, List.append_assoc, List.nodup_append] at hnodup
    exact hnodup.2.2 id hmem id (by simp) rfl
  rw [dropHead, hrow, hrest, hall, List.tail_cons, List.append_assoc, List.append_assoc,
    List.erase_append_right _ hfirst, List.cons_append, List.erase_cons_head]

/-- The first of all is the first of the highest occupied level. -/
theorem head?_toList (q : RunQueues) : q.toList.head? = q.highest?.bind q.head? := by
  unfold toList highest?
  induction Level.descending with
  | nil => rfl
  | cons level rest ih =>
      rw [List.flatMap_cons, List.find?_cons]
      cases hlevel : q.get level with
      | nil => simpa using ih
      | cons id ids => simp [head?, hlevel]

end RunQueues

namespace Dispatcher

variable {d d' d'' : Dispatcher} {id x : TaskId} {task : Task} {rest : List TaskId}

/-! ## The scan -/

/-- The runnable tasks in the order in which they have their turn as each of them falls asleep. -/
def scan (d : Dispatcher) : List TaskId :=
  d.executing?.elim [] fun id => id :: d.queues.toList.erase id

theorem scan_of_executing (hx : d.executing? = some id) :
    d.scan = id :: d.queues.toList.erase id := by
  rw [scan, hx, Option.elim_some]

theorem executing_of_scan (h : d.scan = id :: rest) : d.executing? = some id := by
  unfold scan at h
  cases hx : d.executing? with
  | none => simp [hx] at h
  | some current =>
      rw [hx, Option.elim_some] at h
      rw [(List.cons.inj h).1]

/-- Nobody is runnable twice. -/
theorem Accounted.nodup_toList (h : d.Accounted) : d.queues.toList.Nodup := by
  rw [List.nodup_iff_count_le_one]
  intro x
  rw [h.count_toList]
  split
  · exact Nat.le_refl 1
  · exact Nat.zero_le 1

/-- Whoever is runnable is on the scan, as long as somebody executes. -/
theorem perm_scan (hx : d.executing? = some id) : d.scan.Perm d.queues.toList := by
  have hmem : id ∈ d.queues.toList :=
    RunQueues.mem_toList.mpr ⟨d.active, RunQueues.mem_of_head? hx⟩
  rw [scan_of_executing hx]
  exact (List.perm_cons_erase hmem).symm

theorem nodup_scan (haccounted : d.Accounted) (hx : d.executing? = some id) : d.scan.Nodup :=
  (perm_scan hx).nodup_iff.mpr haccounted.nodup_toList

theorem mem_scan_iff (haccounted : d.Accounted) (hx : d.executing? = some id) :
    x ∈ d.scan ↔ ∃ task, d.tasks[x]? = some task ∧ task.running = true := by
  rw [(perm_scan hx).mem_iff, RunQueues.mem_toList]
  constructor
  · rintro ⟨level, hmem⟩
    obtain ⟨task, hlive, hrunning, _⟩ := place?_eq_some_iff.mp (haccounted.mem_iff.mp hmem)
    exact ⟨task, hlive, hrunning⟩
  · rintro ⟨task, hlive, hrunning⟩
    exact ⟨task.level, haccounted.mem_iff.mpr (place?_of_running hlive hrunning)⟩

/-! ## Falling asleep -/

/-- A choice that was made leads to the first of the row. -/
theorem executing_eq_head?_toList (hvigilant : d.Vigilant) (haccounted : d.Accounted)
    (hreselect : d.reselect = false) (hoccupied : d.executing? = none → d.Deserted) :
    d.executing? = d.queues.toList.head? := by
  rw [RunQueues.head?_toList]
  show d.executing? = d.foremost?
  cases hx : d.executing? with
  | some id => exact ((haccounted.foremost?_iff hx).mpr (hvigilant hreselect)).symm
  | none =>
      have hhighest := RunQueues.highest?_eq_none_iff.mpr (hoccupied hx)
      rw [foremost?, hhighest, Option.bind_none]

/-- Who falls asleep while it executes is taken off the scan. -/
theorem scan_doze (haccounted : d.Accounted) (hvigilant : d.Vigilant)
    (hx : d.executing? = some id) (hlive : d.tasks[id]? = some task)
    (hrunning : task.running = true) : (d.doze id task).scan = d.queues.toList.erase id := by
  have hasleep : (d.store id { task with running := false }).executing? = some id := hx
  have hrow : (d.doze id task).queues.toList = d.queues.toList.erase id := by
    rw [doze, queues_rotate hasleep, if_neg Bool.false_ne_true]
    exact RunQueues.toList_dropHead hx haccounted.nodup_toList
  -- Going to sleep makes the choice of level, whether or not one was due before.
  have hnext : (d.doze id task).executing? = (d.queues.toList.erase id).head? := by
    rw [← hrow]
    exact executing_eq_head?_toList (hvigilant.turn (.sleep hx hlive hrunning))
      (haccounted.doze hx hlive) (reselect_rotate hasleep false) (deserted_rotate hasleep)
  unfold scan
  rw [hnext, hrow]
  cases d.queues.toList.erase id with
  | nil => rfl
  | cons next more => rw [List.head?_cons, Option.elim_some, List.erase_cons_head]

/-- The executing task falls asleep. The next of the scan is the one to switch to, and the rest of
the scan stays as it is; after the last of it there is nobody. -/
structure Dozes (d : Dispatcher) (id : TaskId) (rest : List TaskId)
    (outcome : Result (Option Switch)) : Prop where
  switch : ∀ next more, rest = next :: more →
    outcome.answer = .ok (some { next, current := id })
  strands : rest = [] → ∃ level, outcome.answer = .error (.fault (.emptyQueue level))
  scan_eq : outcome.state.scan = rest
  accounted : outcome.state.Accounted
  vigilant : outcome.state.Vigilant
  records : d.SameRecords outcome.state
  tasks : ∀ x, outcome.state.tasks[x]? =
    if id = x then d.tasks[x]?.map ({ · with running := false }) else d.tasks[x]?

theorem Suspended.dozes {outcome : Result (Option Switch)} (h : d.Suspended id outcome)
    (haccounted : d.Accounted) (hvigilant : d.Vigilant) (hscan : d.scan = id :: rest) :
    d.Dozes id rest outcome := by
  have hx := executing_of_scan hscan
  have hreleased : d.release.Accounted := haccounted.quiet .release
  have hwatchful : d.release.Vigilant := hvigilant.quiet .release
  have hrest : d.queues.toList.erase id = rest := by
    rw [scan_of_executing hx] at hscan
    exact (List.cons.inj hscan).2
  have hrecords := h.sameRecords
  have htasks := h.getElem?
  obtain ⟨task, hlive, hcases⟩ := h.of_executing haccounted hx
  have hrunning : task.running = true := by
    obtain ⟨found, hfound, hrunning, _⟩ := haccounted.executing_live hx
    rw [Option.some.inj (hlive.symm.trans hfound)]
    exact hrunning
  have hdozed : (d.release.doze id task).scan = rest :=
    (scan_doze hreleased hwatchful hx hlive hrunning).trans hrest
  have hstate : outcome.state = d.release.doze id task := by
    rcases hcases with ⟨next, _, rfl⟩ | ⟨_, rfl⟩
    · rfl
    · rfl
  refine ⟨?_, ?_, hstate ▸ hdozed, hstate ▸ hreleased.doze hx hlive,
    hstate ▸ hwatchful.turn (.sleep hx hlive hrunning), hrecords, htasks⟩
  · rintro next more rfl
    have hnext := executing_of_scan hdozed
    rcases hcases with ⟨selected, hselected, rfl⟩ | ⟨hnone, rfl⟩
    · rw [Option.some.inj (hselected.symm.trans hnext)]
      rfl
    · exact absurd (hnone.symm.trans hnext) (by simp)
  · rintro rfl
    rcases hcases with ⟨selected, hselected, rfl⟩ | ⟨hnone, rfl⟩
    · rw [scan_of_executing hselected] at hdozed
      exact absurd hdozed (List.cons_ne_nil _ _)
    · exact ⟨_, rfl⟩

/-- `d'` has the tasks of `d` after some of them have fallen asleep. -/
def AsleepAfter (d d' : Dispatcher) (gone : List TaskId) : Prop :=
  ∀ x, d'.tasks[x]? =
    if x ∈ gone then d.tasks[x]?.map ({ · with running := false }) else d.tasks[x]?

theorem asleepAfter_nil (d : Dispatcher) : d.AsleepAfter d [] := by
  intro x
  rw [if_neg List.not_mem_nil]

theorem AsleepAfter.concat {gone : List TaskId} (h : d.AsleepAfter d' gone)
    (hlast : ∀ x, d''.tasks[x]? =
      if id = x then d'.tasks[x]?.map ({ · with running := false }) else d'.tasks[x]?) :
    d.AsleepAfter d'' (gone ++ [id]) := by
  intro x
  rw [hlast, h x]
  simp only [List.mem_append, List.mem_singleton, eq_comm (a := x)]
  by_cases hid : id = x
  · by_cases hgone : x ∈ gone
    · simp only [hid, hgone, or_true, if_true, Option.map_map, Function.comp_def]
    · simp only [hid, hgone, or_true, if_true, if_false]
  · simp only [hid, or_false, if_false]

theorem AsleepAfter.mail_eq {gone : List TaskId} (h : d.AsleepAfter d' gone) (x : TaskId) :
    d'.mail x = d.mail x :=
  mail_of_ite (h x) fun _ => rfl

theorem AsleepAfter.mem_iff {gone : List TaskId} (h : d.AsleepAfter d' gone) :
    x ∈ d'.tasks ↔ x ∈ d.tasks := by
  have hsome : d'.tasks[x]?.isSome = d.tasks[x]?.isSome := by
    rw [h x]
    split
    · exact Option.isSome_map
    · rfl
  rw [Std.ExtTreeMap.mem_iff_isSome_getElem?, hsome, Std.ExtTreeMap.mem_iff_isSome_getElem?]

/-- When all of the scan have fallen asleep, every task sleeps. -/
theorem AsleepAfter.all (h : d.AsleepAfter d' d.scan) (haccounted : d.Accounted)
    (hx : d.executing? = some id) (x : TaskId) :
    d'.tasks[x]? = d.tasks[x]?.map ({ · with running := false }) := by
  rw [h x]
  by_cases hmem : x ∈ d.scan
  · rw [if_pos hmem]
  · rw [if_neg hmem]
    cases hlive : d.tasks[x]? with
    | none => rfl
    | some task =>
        have hsleeps : task.running = false := by
          rw [mem_scan_iff haccounted hx] at hmem
          exact Bool.eq_false_iff.mpr fun hrunning => hmem ⟨task, hlive, hrunning⟩
        rw [Option.map_some, ← hsleeps]

/-! ## The requests over which a task falls asleep -/

theorem store_self (hlive : d.tasks[id]? = some task) : d.store id task = d := by
  have htasks : d.tasks.insert id task = d.tasks := by
    apply Std.ExtTreeMap.ext_getElem?
    intro x
    rw [Std.ExtTreeMap.getElem?_insert]
    by_cases hx : compare id x = .eq
    · rw [if_pos hx, ← Nat.compare_eq_eq.mp hx, hlive]
    · rw [if_neg hx]
  rw [store, htasks]

/-- Without a message, the executing task falls asleep over its request for one. -/
theorem receiveOrSuspend_dozes (haccounted : d.Accounted) (hvigilant : d.Vigilant)
    (hscan : d.scan = id :: rest) (hmail : d.mail id = []) :
    ∃ outcome, d.receiveOrSuspend = outcome.map .asleep ∧ d.Dozes id rest outcome := by
  have hx := executing_of_scan hscan
  obtain ⟨task, hlive, _⟩ := haccounted.executing_live hx
  have hempty : task.mailbox.messages = [] := (mail_of_live hlive).symm.trans hmail
  have h := served d
  generalize d.receiveOrSuspend = outcome at h ⊢
  cases h with
  | stranded hnone => exact absurd (hnone.symm.trans hx) (by simp)
  | @message other found message hx' hlive' hmessage =>
      cases Option.some.inj (hx.symm.trans hx')
      cases Option.some.inj (hlive.symm.trans hlive')
      simp [Mailbox.pop, hempty] at hmessage
  | gone hx' hgone =>
      cases Option.some.inj (hx.symm.trans hx')
      exact absurd (hgone.symm.trans hlive) (by simp)
  | @slept other found slept hx' hlive' _ hsuspended =>
      cases Option.some.inj (hx.symm.trans hx')
      cases Option.some.inj (hlive.symm.trans hlive')
      -- The empty mailbox was stored back before the task fell asleep.
      have hsame : { task with mailbox := task.mailbox.pop.2 } = task := by
        have hmailbox : task.mailbox.pop.2 = task.mailbox := by
          cases task with
          | mk _ _ _ mailbox => cases mailbox; simp_all [Mailbox.pop]
        rw [hmailbox]
      rw [hsame, store_self hlive] at hsuspended
      exact ⟨slept, rfl, hsuspended.dozes haccounted hvigilant hscan⟩

/-- With a message, the executing task takes the oldest one. -/
theorem receiveOrSuspend_takes (haccounted : d.Accounted) (hscan : d.scan = id :: rest)
    {message : Message} {later : List Message} (hmail : d.mail id = message :: later) :
    ∃ task, d.tasks[id]? = some task ∧
      d.receiveOrSuspend =
        .done (d.store id { task with mailbox := ⟨later⟩ }) (.message message) := by
  have hx := executing_of_scan hscan
  obtain ⟨task, hlive, _⟩ := haccounted.executing_live hx
  have hmessages : task.mailbox.messages = message :: later := (mail_of_live hlive).symm.trans hmail
  have hpop : task.mailbox.pop = (some message, ⟨later⟩) := by
    simp [Mailbox.pop, hmessages]
  refine ⟨task, hlive, ?_⟩
  unfold receiveOrSuspend
  rw [withCurrent_of_executing hx]
  simp only [receive, hlive, hpop, Outcome.answer_done, Outcome.state_done]

/-- Who asks how a live task ended falls asleep over the question. -/
theorem awaitExit_dozes (haccounted : d.Accounted) (hvigilant : d.Vigilant)
    (hscan : d.scan = id :: rest) {target : TaskId} (hcode : d.exitCodes[target]? = none)
    (htarget : target ∈ d.tasks) :
    ∃ outcome, d.awaitExit id target = outcome.map .blocked ∧
      (d.register id target).Dozes id rest outcome := by
  have hwaiter : id ∈ d.tasks := haccounted.mem_executing (executing_of_scan hscan)
  have hregister : d.Quiet (d.register id target) := .register htarget hwaiter
  have h := inquired d id target
  generalize d.awaitExit id target = outcome at h ⊢
  cases h with
  | told hcode' => exact absurd (hcode.symm.trans hcode') (by simp)
  | refused _ hgone => exact absurd ⟨htarget, hwaiter⟩ hgone
  | @blocked slept _ _ _ hsuspended =>
      exact ⟨slept, rfl, hsuspended.dozes (haccounted.quiet hregister)
        (hvigilant.quiet hregister) hscan⟩

end Dispatcher

end TaskKernel
