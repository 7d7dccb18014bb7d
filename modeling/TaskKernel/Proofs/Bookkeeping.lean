import TaskKernel.Dispatcher.Exit
import TaskKernel.Dispatcher.Messages
import TaskKernel.Proofs.Queues
import TaskKernel.Proofs.Requests
import Mathlib.Logic.Relation

/-!
# What the dispatcher's operations are made of

Every operation of the dispatcher is a sequence of a few elementary changes. An invariant of the
dispatcher is proved for these, not for the operations:

* `Quiet` — the run queues do not change: tasks come into being, get a stack, a context or a
  message, are released, noted as waiters or asked for their exit codes, or there is other memory
  for stacks;
* `Requeue` — the run queues change, but not the executing task;
* `Turn` — the executing task gives way: its turn is over, it falls asleep, or it ends.

The first two together are `Bookkeeping`; what of it neither a message nor the end of a task has to
do with is `Plain`. `plain_…` and `books_…` say of an operation that it comes to such changes only;
`suspended`, `inquired` and `served` say of the operations that may put the executing task to sleep
what they do in every case, and `steps_…` what that does to the books.
-/

namespace TaskKernel

open Relation

/-- A task that gets a stack keeps everything but stack and context. -/
theorem Task.exists_of_prepare {task prepared : Task} {start : Task.Start} {stackBytes : Nat}
    {platform : Platform} {block : Option Nat}
    (h : task.prepare start stackBytes platform block = .ok prepared) :
    ∃ stack context, prepared = { task with stack, context } := by
  unfold Task.prepare at h
  split at h
  · exact absurd h (by simp)
  · split at h
    · exact absurd h (by simp)
    · split at h
      · exact absurd h (by simp)
      · cases h
        exact ⟨_, _, rfl⟩

/-- What happens to a task without any change to its place in the run queues. -/
inductive Task.Update (task : Task) : Task → Prop
  | prepare {start : Task.Start} {stackBytes : Nat} {platform : Platform} {block : Option Nat}
      {prepared : Task} : task.prepare start stackBytes platform block = .ok prepared →
      Update task prepared
  | reset (context : Context) : Update task { task with context }
  | post (message : Message) : Update task { task with mailbox := task.mailbox.push message }
  | collect : Update task { task with mailbox := task.mailbox.pop.2 }

/-- An update keeps the number of a task, its level, and whether it is runnable. -/
theorem Task.Update.kept {task updated : Task} (h : task.Update updated) :
    updated.id = task.id ∧ updated.level = task.level ∧ updated.running = task.running := by
  cases h with
  | prepare hprepare =>
      obtain ⟨_, _, rfl⟩ := Task.exists_of_prepare hprepare
      exact ⟨rfl, rfl, rfl⟩
  | reset => exact ⟨rfl, rfl, rfl⟩
  | post => exact ⟨rfl, rfl, rfl⟩
  | collect => exact ⟨rfl, rfl, rfl⟩

namespace Dispatcher

/-! ## Elementary changes -/

/-- The run queues stay as they are. -/
inductive Quiet (d : Dispatcher) : Dispatcher → Prop
  | release : Quiet d d.release
  | enlist : d.newest + 1 < Word.size →
      Quiet d ({ d with newest := d.newest + 1 }.store (d.newest + 1) { id := d.newest + 1 })
  /-- A number is used up for a task that never comes to live. -/
  | discard : d.newest + 1 < Word.size →
      Quiet d { d with newest := d.newest + 1, tasks := d.tasks.erase (d.newest + 1) }
  | update {id : TaskId} {task updated : Task} : d.tasks[id]? = some task → task.Update updated →
      Quiet d (d.store id updated)
  | register {waiter target : TaskId} : target ∈ d.tasks → waiter ∈ d.tasks →
      Quiet d (d.register waiter target)
  | tell {target : TaskId} {code : Int32} : d.exitCodes[target]? = some code →
      Quiet d { d with exitCodes := d.exitCodes.erase target }
  | restock (arena : Arena) : Quiet d { d with arena }

/-- A task that does not execute falls asleep. -/
def dropOut (d : Dispatcher) (id : TaskId) (task : Task) : Dispatcher :=
  { d.store id { task with running := false } with queues := d.queues.erase task.level id }

/-- The executing task falls asleep. -/
def doze (d : Dispatcher) (id : TaskId) (task : Task) : Dispatcher :=
  (d.store id { task with running := false }).rotate false

/-- The tasks that are noted as waiting for the end of another one, in the order of asking. -/
def awaiting (d : Dispatcher) (target : TaskId) : List TaskId := d.waiters[target]?.getD []

/-- The executing task ends, and nobody is noted any more as waiting for it. -/
def conclude (d : Dispatcher) (id : TaskId) (code : Int32) : Dispatcher :=
  { (d.rotate false).retire id code with waiters := d.waiters.erase id }

/-- The run queues change, but the executing task stays. -/
inductive Requeue (d : Dispatcher) : Dispatcher → Prop
  | wake {id : TaskId} {task : Task} (level : Level) : d.tasks[id]? = some task →
      task.running = false → Requeue d (d.makeRunnable id task level)
  | move {id : TaskId} {task : Task} (level : Level) : d.tasks[id]? = some task →
      task.running = true → Requeue d (d.changeLevel id task level)
  | drop {id : TaskId} {task : Task} : d.tasks[id]? = some task → task.running = true →
      d.executing? ≠ some id → Requeue d (d.dropOut id task)

/-- The executing task gives way. -/
inductive Turn (d : Dispatcher) : Dispatcher → Prop
  | elapse {id : TaskId} (saved : Context) : d.executing? = some id →
      Turn d ((d.modifyTask id ({ · with context := saved })).rotate true)
  | sleep {id : TaskId} {task : Task} : d.executing? = some id → d.tasks[id]? = some task →
      task.running = true → Turn d (d.doze id task)
  | finish {id : TaskId} (code : Int32) : d.executing? = some id → Turn d (d.conclude id code)

/-- A change that nobody is told of: no message comes or goes, no record of ends or of waiters is
touched, and nobody falls asleep. -/
inductive Plain (d : Dispatcher) : Dispatcher → Prop
  | release : Plain d d.release
  | enlist : d.newest + 1 < Word.size →
      Plain d ({ d with newest := d.newest + 1 }.store (d.newest + 1) { id := d.newest + 1 })
  | discard : d.newest + 1 < Word.size →
      Plain d { d with newest := d.newest + 1, tasks := d.tasks.erase (d.newest + 1) }
  | prepare {id : TaskId} {task prepared : Task} {start : Task.Start} {stackBytes : Nat}
      {platform : Platform} {block : Option Nat} : d.tasks[id]? = some task →
      task.prepare start stackBytes platform block = .ok prepared →
      Plain d (d.store id prepared)
  | reset {id : TaskId} {task : Task} (context : Context) : d.tasks[id]? = some task →
      Plain d (d.store id { task with context })
  | wake {id : TaskId} {level : Option Level} {woken : Dispatcher} :
      d.wakeAt id level = .ok woken → Plain d woken
  | restock (arena : Arena) : Plain d { d with arena }

/-- Any number of such changes. -/
abbrev Plainly : Dispatcher → Dispatcher → Prop := ReflTransGen Plain

/-- A change that leaves the executing task where it is. -/
def Bookkeeping (d d' : Dispatcher) : Prop := d.Quiet d' ∨ d.Requeue d'

/-- Any number of such changes. -/
abbrev Books : Dispatcher → Dispatcher → Prop := ReflTransGen Bookkeeping

theorem Quiet.books {d d' : Dispatcher} (h : d.Quiet d') : d.Books d' := .single (.inl h)

theorem Requeue.books {d d' : Dispatcher} (h : d.Requeue d') : d.Books d' := .single (.inr h)

theorem books_of_quiet {d d' : Dispatcher} (h : ReflTransGen Quiet d d') : d.Books d' :=
  ReflTransGen.mono (fun _ _ => Or.inl) _ _ h

/-- What survives each change of the books survives any number of them. -/
theorem Books.invariant {P : Dispatcher → Prop}
    (hquiet : ∀ {d d' : Dispatcher}, P d → d.Quiet d' → P d')
    (hrequeue : ∀ {d d' : Dispatcher}, P d → d.Requeue d' → P d') {d d' : Dispatcher}
    (h : d.Books d') (hd : P d) : P d' := by
  induction h with
  | refl => exact hd
  | tail _ hstep ih => exact hstep.elim (hquiet ih) (hrequeue ih)

variable {d : Dispatcher}

/-! ## Creation -/

theorem plain_create (d : Dispatcher) : d.Plainly d.create.state := by
  by_cases h : d.newest + 1 < Word.size
  · rw [create_done h]
    exact .tail (.single .release) (.enlist h)
  · rw [create_full h]
    exact .single .release

theorem plain_prepareWith (d : Dispatcher) (id : TaskId) (start : Task.Start) (stackBytes : Nat) :
    d.Plainly (d.prepareWith id start stackBytes).state := by
  unfold prepareWith
  cases htask : d.tasks[id]? with
  | none => exact .refl
  | some task =>
      simp only
      cases hprepared : task.prepare start stackBytes d.platform
          ((d.arena.reserve (Stack.wordsFor stackBytes)).map (·.1)) with
      | error cause => exact .refl
      | ok prepared => exact .tail (.single (.restock _)) (.prepare htask hprepared)

/-! ## Waking -/

theorem requeue_wakeAt {id : TaskId} {level : Option Level} {woken : Dispatcher}
    (h : d.wakeAt id level = .ok woken) : d.Requeue woken := by
  unfold wakeAt at h
  cases htask : d.tasks[id]? with
  | none => simp [htask] at h
  | some task =>
      simp only [htask, Except.ok.injEq] at h
      subst h
      by_cases hrunning : task.running = true
      · rw [if_pos hrunning]
        exact .move _ htask hrunning
      · rw [if_neg hrunning]
        exact .wake _ htask (Bool.not_eq_true _ ▸ hrunning)

theorem plain_wake (d : Dispatcher) (id : TaskId) (level : Option Nat) :
    d.Plainly (d.wake id level).state := by
  unfold wake
  cases d.config.grantLevel? level with
  | error cause => exact .refl
  | ok granted =>
      simp only
      cases hwoken : d.wakeAt id granted with
      | error cause => exact .refl
      | ok woken => exact .single (.wake hwoken)

theorem books_wakeAll (d : Dispatcher) (ids : List TaskId) : d.Books (d.wakeAll ids) := by
  induction ids generalizing d with
  | nil => exact .refl
  | cons id rest ih =>
      have hfirst : d.Books ((d.wakeAt id none).toOption.getD d) := by
        cases hwoken : d.wakeAt id none with
        | error cause => exact .refl
        | ok woken => exact (requeue_wakeAt hwoken).books
      exact hfirst.trans (ih _)

theorem plain_launch (d : Dispatcher) (entry data : UInt64) (level : Option Nat) :
    d.Plainly (d.launch entry data level).state := by
  have hrelease : d.Plainly d.release := .single .release
  have h := launched d entry data level
  generalize d.launch entry data level = outcome at h ⊢
  cases h with
  | denied => exact .refl
  | full => exact hrelease
  | discarded _ hfits => exact hrelease.tail (.discard hfits)
  | broken _ hfits => exact hrelease.tail (.enlist hfits)
  | @done granted stack context arena _ hfits hfurnished =>
      -- The new task is given its stack and then woken.
      have hlive : d.release.enlisted.tasks[d.newest + 1]? = some { id := d.newest + 1 } :=
        Std.ExtTreeMap.getElem?_insert_self
      obtain ⟨block, hprepared⟩ := prepare_of_furnish { id := d.newest + 1 } hfurnished rfl
      have hhoused : (d.release.enlisted.housed stack context arena).tasks[d.newest + 1]? =
          some { id := d.newest + 1, stack, context } := Std.ExtTreeMap.getElem?_insert_self
      have hstocked := (hrelease.tail (.enlist hfits)).tail (.restock arena)
      refine (hstocked.tail (.prepare hlive hprepared)).tail ?_
      exact .wake (wakeAt_of_sleeping hhoused rfl granted)

/-! ## Plain changes are bookkeeping -/

theorem Plain.books {d' : Dispatcher} (h : d.Plain d') : d.Books d' := by
  cases h with
  | release => exact (Quiet.release).books
  | enlist hfits => exact (Quiet.enlist hfits).books
  | discard hfits => exact (Quiet.discard hfits).books
  | prepare hlive hprepared => exact (Quiet.update hlive (.prepare hprepared)).books
  | reset context hlive => exact (Quiet.update hlive (.reset context)).books
  | wake hwoken => exact (requeue_wakeAt hwoken).books
  | restock arena => exact (Quiet.restock arena).books

theorem Plainly.books {d' : Dispatcher} (h : d.Plainly d') : d.Books d' := by
  induction h with
  | refl => exact .refl
  | tail _ hstep ih => exact ih.trans hstep.books

/-- What survives each plain change survives any number of them. -/
theorem Plainly.invariant {P : Dispatcher → Prop}
    (hplain : ∀ {d d' : Dispatcher}, P d → d.Plain d' → P d') {d' : Dispatcher}
    (h : d.Plainly d') (hd : P d) : P d' := by
  induction h with
  | refl => exact hd
  | tail _ hstep ih => exact hplain ih hstep

/-! ## Messages -/

theorem books_send (d : Dispatcher) (id : TaskId) (message : Message) :
    d.Books (d.send id message).state := by
  unfold send
  cases htask : d.tasks[id]? with
  | none => exact .refl
  | some task =>
      exact .head (.inl (.update htask (.post message))) (plain_wake _ _ _).books

theorem books_receive (d : Dispatcher) (id : TaskId) :
    ReflTransGen Quiet d (d.receive id).state := by
  unfold receive
  cases htask : d.tasks[id]? with
  | none => exact .refl
  | some task => exact .single (.update htask .collect)

/-! ## Giving way -/

theorem withCurrent_of_executing {α : Type} {id : TaskId} (h : d.executing? = some id)
    (act : TaskId → Result α) : d.withCurrent act = act id := by
  unfold withCurrent current
  rw [h]

theorem withCurrent_of_none {α : Type} (h : d.executing? = none) (act : TaskId → Result α) :
    d.withCurrent act = d.fail (.emptyQueue d.active) := by
  unfold withCurrent current
  rw [h]

theorem state_withCurrent_done (d : Dispatcher) : (d.withCurrent (.done d)).state = d := by
  cases h : d.executing? with
  | none => rw [withCurrent_of_none h]; rfl
  | some id => rw [withCurrent_of_executing h]; rfl

/-- What the request to put a task to sleep comes to. -/
inductive Suspended (d : Dispatcher) (id : TaskId) : Result (Option Switch) → Prop
  | gone : d.tasks[id]? = none → Suspended d id (d.release.refuse .noSuchTask)
  | asleep {task : Task} : d.tasks[id]? = some task → task.running = false →
      Suspended d id (.done d.release none)
  | dropped {task : Task} : d.tasks[id]? = some task → task.running = true →
      d.executing? ≠ some id → Suspended d id (.done (d.release.dropOut id task) none)
  | turned {task : Task} {next : TaskId} : d.tasks[id]? = some task → task.running = true →
      d.executing? = some id → (d.release.doze id task).executing? = some next →
      Suspended d id (.done (d.release.doze id task) (some { next, current := id }))
  | stranded {task : Task} : d.tasks[id]? = some task → task.running = true →
      d.executing? = some id → (d.release.doze id task).executing? = none →
      Suspended d id ((d.release.doze id task).fail (.emptyQueue (d.release.doze id task).active))

theorem suspended (d : Dispatcher) (id : TaskId) : d.Suspended id (d.suspend id) := by
  unfold suspend
  cases htask : d.tasks[id]? with
  | none =>
      have hreleased : d.release.tasks[id]? = none := htask
      simp only [hreleased]
      exact .gone htask
  | some task =>
      have hreleased : d.release.tasks[id]? = some task := htask
      simp only [hreleased]
      by_cases hrunning : task.running = true
      · rw [if_neg (by simp [hrunning])]
        by_cases hexecuting : d.release.executing? = some id
        · rw [if_pos hexecuting]
          show d.Suspended id ((d.release.doze id task).withCurrent _)
          cases hnext : (d.release.doze id task).executing? with
          | none =>
              rw [withCurrent_of_none hnext]
              exact .stranded htask hrunning hexecuting hnext
          | some next =>
              rw [withCurrent_of_executing hnext]
              exact .turned htask hrunning hexecuting hnext
        · rw [if_neg hexecuting]
          exact .dropped htask hrunning hexecuting
      · rw [if_pos (by simp [hrunning])]
        exact .asleep htask (Bool.not_eq_true _ ▸ hrunning)

/-- What the question how a task ended comes to. -/
inductive Inquired (d : Dispatcher) (waiter target : TaskId) : Result Awaited → Prop
  | told {code : Int32} : d.exitCodes[target]? = some code →
      Inquired d waiter target
        (.done { d with exitCodes := d.exitCodes.erase target } (.exited code))
  | refused : d.exitCodes[target]? = none → ¬ (target ∈ d.tasks ∧ waiter ∈ d.tasks) →
      Inquired d waiter target (d.refuse .noSuchTask)
  | blocked {outcome : Result (Option Switch)} : d.exitCodes[target]? = none →
      target ∈ d.tasks → waiter ∈ d.tasks →
      (d.register waiter target).Suspended waiter outcome →
      Inquired d waiter target (outcome.map .blocked)

theorem inquired (d : Dispatcher) (waiter target : TaskId) :
    d.Inquired waiter target (d.awaitExit waiter target) := by
  unfold awaitExit
  cases hcode : d.exitCodes[target]? with
  | some code => exact .told hcode
  | none =>
      simp only
      by_cases hlive : target ∈ d.tasks ∧ waiter ∈ d.tasks
      · rw [if_pos hlive]
        exact .blocked hcode hlive.1 hlive.2 (suspended _ _)
      · rw [if_neg hlive]
        exact .refused hcode hlive

/-- What the executing task's request for a message comes to. -/
inductive Served (d : Dispatcher) : Result Receipt → Prop
  | stranded : d.executing? = none → Served d (d.fail (.emptyQueue d.active))
  | message {id : TaskId} {task : Task} {message : Message} : d.executing? = some id →
      d.tasks[id]? = some task → task.mailbox.pop.1 = some message →
      Served d (.done (d.store id { task with mailbox := task.mailbox.pop.2 }) (.message message))
  | gone {id : TaskId} : d.executing? = some id → d.tasks[id]? = none →
      Served d (.done d.release (.asleep none))
  | slept {id : TaskId} {task : Task} {outcome : Result (Option Switch)} :
      d.executing? = some id → d.tasks[id]? = some task → task.mailbox.pop.1 = none →
      (d.store id { task with mailbox := task.mailbox.pop.2 }).Suspended id outcome →
      Served d (outcome.map .asleep)

theorem served (d : Dispatcher) : d.Served d.receiveOrSuspend := by
  unfold receiveOrSuspend
  cases hexecuting : d.executing? with
  | none =>
      rw [withCurrent_of_none hexecuting]
      exact .stranded hexecuting
  | some id =>
      rw [withCurrent_of_executing hexecuting]
      cases htask : d.tasks[id]? with
      | none =>
          have hslept := suspended d id
          simp only [receive, htask, refuse, Outcome.answer_stop, Outcome.state_stop]
          generalize d.suspend id = slept at hslept
          cases hslept with
          | gone => exact .gone hexecuting htask
          | asleep hlive | dropped hlive | turned hlive | stranded hlive =>
              rw [htask] at hlive
              exact absurd hlive (by simp)
      | some task =>
          simp only [receive, htask]
          cases hmessage : task.mailbox.pop.1 with
          | some message => exact .message hexecuting htask hmessage
          | none =>
              simp only [Outcome.answer_done, Outcome.state_done]
              have hslept :=
                suspended (d.store id { task with mailbox := task.mailbox.pop.2 }) id
              generalize (d.store id { task with mailbox := task.mailbox.pop.2 }).suspend id =
                slept at hslept ⊢
              have hoccurred := hslept
              cases hslept with
              | gone hgone => simp [store] at hgone
              | asleep | dropped | turned | stranded =>
                  exact .slept hexecuting htask hmessage hoccurred

/-! ## The end of a turn and of a task -/

theorem rotate_of_none (h : d.executing? = none) (stay : Bool) : d.rotate stay = d := by
  unfold rotate
  rw [h]
  rfl

/-- A task gives way: no choice of level is due any more, since it was made if it was due. -/
theorem rotate_of_executing {id : TaskId} (h : d.executing? = some id) (stay : Bool) :
    d.rotate stay =
      let queues := if stay then d.queues.rotate d.active else d.queues.dropHead d.active
      { d with
        queues
        reselect := false
        active := if d.reselect || (queues.get d.active).isEmpty then queues.highest?.getD d.active
          else d.active } := by
  unfold rotate
  rw [h]
  simp only [Option.isNone_some, Bool.false_eq_true, if_false]
  by_cases hchoose : (d.reselect || ((if stay then d.queues.rotate d.active
      else d.queues.dropHead d.active).get d.active).isEmpty) = true
  · rw [if_pos hchoose, if_pos hchoose]
  · have hreselect : d.reselect = false :=
      (Bool.or_eq_false_iff.mp (Bool.not_eq_true _ ▸ hchoose)).1
    rw [if_neg hchoose, if_neg hchoose, ← hreselect]

/-- Rotating concerns the queues and the active level only. -/
theorem exists_rotate (d : Dispatcher) (stay : Bool) :
    ∃ queues active reselect, d.rotate stay = { d with queues, active, reselect } := by
  cases h : d.executing? with
  | none => exact ⟨d.queues, d.active, d.reselect, rotate_of_none h stay⟩
  | some id => exact ⟨_, _, _, rotate_of_executing h stay⟩

@[simp] theorem tasks_rotate (d : Dispatcher) (stay : Bool) : (d.rotate stay).tasks = d.tasks := by
  obtain ⟨_, _, _, h⟩ := exists_rotate d stay
  rw [h]

@[simp] theorem newest_rotate (d : Dispatcher) (stay : Bool) :
    (d.rotate stay).newest = d.newest := by
  obtain ⟨_, _, _, h⟩ := exists_rotate d stay
  rw [h]

@[simp] theorem waiters_rotate (d : Dispatcher) (stay : Bool) :
    (d.rotate stay).waiters = d.waiters := by
  obtain ⟨_, _, _, h⟩ := exists_rotate d stay
  rw [h]

@[simp] theorem exitCodes_rotate (d : Dispatcher) (stay : Bool) :
    (d.rotate stay).exitCodes = d.exitCodes := by
  obtain ⟨_, _, _, h⟩ := exists_rotate d stay
  rw [h]

@[simp] theorem config_rotate (d : Dispatcher) (stay : Bool) :
    (d.rotate stay).config = d.config := by
  obtain ⟨_, _, _, h⟩ := exists_rotate d stay
  rw [h]

theorem preempt_of_none (h : d.executing? = none) (saved : Context) :
    d.preempt saved = (none, d) := by
  unfold preempt
  rw [h]

theorem preempt_of_executing {id : TaskId} (h : d.executing? = some id) (saved : Context) :
    d.preempt saved =
      let rotated := (d.modifyTask id ({ · with context := saved })).rotate true
      (rotated.executing?.filter (· ≠ id), rotated) := by
  unfold preempt
  rw [h]

theorem exit_of_none (h : d.executing? = none) (code : Int32) :
    d.exit code = d.fail (.emptyQueue d.active) := by
  unfold exit
  rw [h]

/-- The end of a task wakes all who were noted as waiting for it. -/
theorem exit_of_executing {id : TaskId} (h : d.executing? = some id) (code : Int32) :
    d.exit code =
      let woken := (d.conclude id code).wakeAll (d.awaiting id)
      .after [.exited id code] (woken.withCurrent (.done woken)) := by
  have hwaiters : ((d.rotate false).retire id code).waiters = d.waiters := waiters_rotate d false
  unfold exit
  rw [h]
  simp only [hwaiters]
  rfl

theorem state_exit {id : TaskId} (h : d.executing? = some id) (code : Int32) :
    (d.exit code).state = (d.conclude id code).wakeAll (d.awaiting id) := by
  rw [exit_of_executing h]
  exact state_withCurrent_done _

/-! ## What an operation that may give way does to the books -/

/-- The executing task gives way once: before that the queues do not change, and afterwards there is
only bookkeeping. -/
def GivesWay (d d' : Dispatcher) : Prop :=
  ∃ before turned, ReflTransGen Quiet d before ∧ before.Turn turned ∧ turned.Books d'

theorem GivesWay.of_quiet {d d₁ d' : Dispatcher} (hquiet : d.Quiet d₁) (h : d₁.GivesWay d') :
    d.GivesWay d' := by
  obtain ⟨before, turned, hbefore, hturn, hafter⟩ := h
  exact ⟨before, turned, .head hquiet hbefore, hturn, hafter⟩

theorem Suspended.steps {id : TaskId} {outcome : Result (Option Switch)}
    (h : d.Suspended id outcome) :
    d.Books outcome.state ∨ (d.executing? = some id ∧ d.GivesWay outcome.state) := by
  have hrelease : ReflTransGen Quiet d d.release := .single .release
  cases h with
  | gone => exact .inl (books_of_quiet hrelease)
  | asleep => exact .inl (books_of_quiet hrelease)
  | dropped hlive hrunning hother =>
      exact .inl ((books_of_quiet hrelease).tail (.inr (.drop hlive hrunning hother)))
  | turned hlive hrunning hexecuting hnext =>
      exact .inr ⟨hexecuting, _, _, hrelease, .sleep hexecuting hlive hrunning, .refl⟩
  | stranded hlive hrunning hexecuting hnext =>
      exact .inr ⟨hexecuting, _, _, hrelease, .sleep hexecuting hlive hrunning, .refl⟩

theorem Inquired.steps {waiter target : TaskId} {outcome : Result Awaited}
    (h : d.Inquired waiter target outcome) :
    d.Books outcome.state ∨
      (d.executing? = some waiter ∧ d.exitCodes[target]? = none ∧ target ∈ d.tasks ∧
        waiter ∈ d.tasks ∧ d.GivesWay outcome.state) := by
  cases h with
  | told hcode => exact .inl (Quiet.tell hcode).books
  | refused => exact .inl .refl
  | blocked hcode htarget hwaiter hsuspended =>
      have hregister : d.Quiet (d.register waiter target) := .register htarget hwaiter
      rw [Outcome.state_map]
      rcases hsuspended.steps with hbooks | ⟨hexecuting, hway⟩
      · exact .inl (hregister.books.trans hbooks)
      · exact .inr ⟨hexecuting, hcode, htarget, hwaiter, hway.of_quiet hregister⟩

theorem Served.steps {outcome : Result Receipt} (h : d.Served outcome) :
    d.Books outcome.state ∨
      ((∃ id task, d.executing? = some id ∧ d.tasks[id]? = some task ∧
        task.mailbox.pop.1 = none) ∧ d.GivesWay outcome.state) := by
  cases h with
  | stranded => exact .inl .refl
  | message hexecuting hlive hmessage => exact .inl (Quiet.update hlive .collect).books
  | gone => exact .inl (Quiet.release).books
  | @slept id task _ hexecuting hlive hempty hsuspended =>
      -- The search of the empty mailbox comes before the sleep.
      have hcollect : d.Quiet (d.store id { task with mailbox := task.mailbox.pop.2 }) :=
        .update hlive .collect
      rw [Outcome.state_map]
      rcases hsuspended.steps with hbooks | ⟨_, hway⟩
      · exact .inl (hcollect.books.trans hbooks)
      · exact .inr ⟨⟨id, task, hexecuting, hlive, hempty⟩, hway.of_quiet hcollect⟩

theorem steps_exit (d : Dispatcher) (code : Int32) :
    d.Books (d.exit code).state ∨ d.GivesWay (d.exit code).state := by
  cases h : d.executing? with
  | none =>
      rw [exit_of_none h]
      exact .inl .refl
  | some id =>
      rw [state_exit h]
      exact .inr ⟨_, _, .refl, .finish code h, books_wakeAll _ _⟩

theorem steps_preempt (d : Dispatcher) (saved : Context) :
    d.Books (d.preempt saved).2 ∨ d.GivesWay (d.preempt saved).2 := by
  cases h : d.executing? with
  | none =>
      rw [preempt_of_none h]
      exact .inl .refl
  | some id =>
      rw [preempt_of_executing h]
      exact .inr ⟨_, _, .refl, .elapse saved h, .refl⟩

variable {d' : Dispatcher} {x : TaskId}

/-- The run queues change, and with them the tasks that are runnable. -/
theorem Requeue.exists_eq (h : d.Requeue d') :
    ∃ tasks queues active reselect, d' = { d with tasks, queues, active, reselect } := by
  cases h with
  | wake | drop => exact ⟨_, _, _, _, rfl⟩
  | move level =>
      unfold changeLevel
      split
      · exact ⟨_, _, _, _, rfl⟩
      · split
        · exact ⟨_, _, _, _, rfl⟩
        · exact ⟨_, _, _, _, rfl⟩

/-! ## The executing task during bookkeeping -/

/-- A quiet change is not seen by the run queues. -/
theorem Quiet.frame (h : d.Quiet d') :
    d'.queues = d.queues ∧ d'.active = d.active ∧ d'.reselect = d.reselect := by
  cases h <;> exact ⟨rfl, rfl, rfl⟩

theorem Quiet.executing (h : d.Quiet d') : d'.executing? = d.executing? := by
  unfold executing?
  rw [h.frame.1, h.frame.2.1]

/-- A task that is woken joins its level behind the executing task, if that is there. -/
theorem executing_makeRunnable (hx : d.executing? = some x) (id : TaskId) (task : Task)
    (level : Level) : (d.makeRunnable id task level).executing? = some x :=
  RunQueues.head?_pushBack hx

/-- Wherever the requeuing policy puts a task, it does not get in front of the executing one. -/
theorem head?_enqueue {queues : RunQueues} (hx : queues.head? d.active = some x) (level : Level)
    (id : TaskId) : (d.enqueue queues level id).head? d.active = some x := by
  unfold enqueue
  cases d.config.requeuePolicy with
  | back => exact RunQueues.head?_pushBack hx
  | front =>
      simp only
      by_cases hlevel : level = d.active
      · rw [if_pos hlevel]
        exact RunQueues.head?_pushSecond hx
      · rw [if_neg hlevel, RunQueues.head?_pushFront_of_ne _ _ hlevel]
        exact hx

/-- The executing task takes the active level along; others move behind its back. -/
theorem executing_changeLevel (hx : d.executing? = some x) (id : TaskId) (task : Task)
    (level : Level) : (d.changeLevel id task level).executing? = some x := by
  unfold changeLevel
  by_cases hsame : level = task.level
  · rw [if_pos hsame]
    exact hx
  · rw [if_neg hsame]
    by_cases hself : d.executing? = some id
    · rw [if_pos hself]
      have hid : id = x := Option.some.inj (hself.symm.trans hx)
      exact hid ▸ RunQueues.head?_pushFront_self _ level id
    · rw [if_neg hself]
      have hne : x ≠ id := fun h => hself (h ▸ hx)
      exact head?_enqueue (RunQueues.head?_erase hx hne) level id

theorem Requeue.executing (h : d.Requeue d') (hx : d.executing? = some x) :
    d'.executing? = some x := by
  cases h with
  | wake level _ _ => exact executing_makeRunnable hx _ _ level
  | move level _ _ => exact executing_changeLevel hx _ _ level
  | drop _ _ hother => exact RunQueues.head?_erase hx (fun h => hother (h ▸ hx))

/-- Bookkeeping never moves the processor. -/
theorem Books.executing (h : d.Books d') (hx : d.executing? = some x) :
    d'.executing? = some x := by
  refine h.invariant (P := fun d => d.executing? = some x) (fun hx hquiet => ?_)
    (fun hx hrequeue => hrequeue.executing hx) hx
  rw [hquiet.executing]
  exact hx

end Dispatcher

end TaskKernel
