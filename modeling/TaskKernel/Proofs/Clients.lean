import TaskKernel.Proofs.Conduct

/-!
# Those who use the kernel

A client makes calls, and uses the kernel's parts while it works on them and makes further calls, to
any depth. It may look at what comes of each of these before it goes on, and may put up with a
fault. What it does next depends on what it is told, so a client is a tree with a branch for each
answer.

* `Client.perform` — what a client does. It is proper (`proper_client`), like each of its calls.
* `Client.made` — the calls that it makes, each with the kernel to which it is made and the parts in
  whose use that happens. Those are the parts in use at that moment (`uses_of_mem_made`), and all
  departures of the processor come from these calls (`departures_client`).
-/

namespace TaskKernel.Kernel

variable {α β : Type} {k : Kernel}

/-- How a method came out, whether it returned, was refused or stopped on a fault. -/
def caught (method : Method α) : Method (Except Stop α) := fun k =>
  let outcome := method k
  { outcome with answer := match outcome.answer with
      | .ok value => .ok (.ok value)
      | .error (.stop cause) => .ok (.error cause)
      | .error exit => .error exit }

/-- A part comes into use while interrupts are off. -/
def enter (k : Kernel) (part : Part) : Kernel := ({ k with interrupts := false } : Kernel).take part

/-- Somebody who uses the kernel. -/
inductive Client where
  /-- It is done, or fails. -/
  | ends (answer : Except Stop Answer)
  /-- It makes a call, and goes on from how that came out. -/
  | call (call : Call) (next : Except Stop Answer → Client)
  /-- It does something to what the parts hold, and goes on from how that came out. -/
  | work (operation : Scheduler → Scheduler.Result Answer) (next : Except Stop Answer → Client)
  /-- It uses a part for as long as `inside` takes, and goes on from how that came out. -/
  | within (part : Part) (inside : Client) (next : Except Stop Answer → Client)

namespace Client

/-- Carry out what a client does. -/
def perform : Client → Method Answer
  | .ends answer => Act.ofExcept (answer.mapError .stop)
  | .call c next => do (next (← caught c.perform)).perform
  | .work operation next => do (next (← caught (onBoth operation))).perform
  | .within part inside next => do (next (← caught (masked (use part inside.perform)))).perform

/-- A call that a client made. -/
structure Made where
  /-- The parts in whose use it was made, the innermost first. -/
  held : List Part
  /-- The kernel to which it was made. -/
  kernel : Kernel
  call : Call

/-- What was made after an act that succeeded. -/
def onward (outcome : Outcome Exit Event Kernel α) (next : α → Kernel → List Made) : List Made :=
  match outcome.answer with
  | .ok value => next value outcome.state
  | .error _ => []

/-- The calls that a client makes in the use of some parts, in order. -/
def made : Client → List Part → Kernel → List Made
  | .ends _, _, _ => []
  | .call c next, held, k =>
    ⟨held, k, c⟩ :: onward (caught c.perform k) fun answer => (next answer).made held
  | .work operation next, held, k =>
    onward (caught (onBoth operation) k) fun answer => (next answer).made held
  | .within part inside next, held, k =>
    (if k.uses part then [] else inside.made (part :: held) (k.enter part)) ++
      onward (caught (masked (use part inside.perform)) k) fun answer => (next answer).made held

end Client

theorem Proper.caught {method : Method α} (h : Proper k (method k)) :
    Proper k (Kernel.caught method k) := by
  refine h.of_answer fun next => ?_
  split <;> simp_all

/-- **Every client is proper.** -/
theorem proper_client (client : Client) (k : Kernel) : Proper k (client.perform k) := by
  induction client generalizing k with
  | ends answer =>
      cases answer with
      | ok value => exact proper_done k value
      | error cause => exact proper_stop k (by simp)
  | call c next ih =>
      exact (orderly_perform k c).toProper.caught.bind fun answer _ _ => ih answer _
  | work operation next ih =>
      exact (proper_onBoth operation k).caught.bind fun answer _ _ => ih answer _
  | within part inside next hinside ih =>
      have huse := Proper.use (k := { k with interrupts := false }) rfl part fun _ => hinside _
      exact huse.masked.1.caught.bind fun answer _ _ => ih answer _

/-- A kernel that clients lead to, and those who switch interrupts on and off between them. -/
inductive Reachable : Kernel → Prop where
  | start {config : Config} {platform : Platform} {arena : Arena} {interrupts : Bool} {k : Kernel} :
    start config platform arena interrupts = .ok k → Reachable k
  | client {k : Kernel} (client : Client) : Reachable k → Reachable (client.perform k).state
  | interrupts {k : Kernel} (interrupts : Bool) : Reachable k → Reachable { k with interrupts }

/-- Between clients nobody uses the kernel's parts. -/
theorem Reachable.idle (h : Reachable k) : k.Idle := by
  induction h with
  | start hstart => exact (leaves_start hstart).toIdle
  | client client _ ih =>
      rw [idle_iff] at ih ⊢
      exact fun part => ((proper_client client _).uses_eq part).trans (ih part)
  | interrupts _ _ ih => exact ⟨ih.tasks_free, ih.timers_free⟩

namespace Client

variable {held : List Part}

/-! ## The calls of a client -/

theorem mem_onward {outcome : Outcome Exit Event Kernel α} {next : α → Kernel → List Made}
    {m : Made} (h : m ∈ onward outcome next) :
    ∃ value, outcome.answer = .ok value ∧ m ∈ next value outcome.state := by
  unfold onward at h
  split at h
  · rename_i value hanswer
    exact ⟨value, hanswer, h⟩
  · exact absurd h List.not_mem_nil

theorem uses_enter (hheld : ∀ part, k.uses part = true ↔ part ∈ held) (part other : Part) :
    (k.enter part).uses other = true ↔ other ∈ part :: held := by
  rw [enter, uses_take, uses_mask, Bool.or_eq_true, beq_iff_eq, List.mem_cons, hheld, or_comm,
    eq_comm]

/-- The parts in use when a call is made are those in whose use it is made. -/
theorem uses_of_mem_made {client : Client} (hheld : ∀ part, k.uses part = true ↔ part ∈ held)
    {m : Made} (h : m ∈ client.made held k) (part : Part) :
    m.kernel.uses part = true ↔ part ∈ m.held := by
  induction client generalizing held k with
  | ends answer => exact absurd h List.not_mem_nil
  | call c next ih =>
      rcases List.mem_cons.mp h with rfl | h
      · exact hheld part
      · obtain ⟨answer, _, h⟩ := mem_onward h
        have hproper := (orderly_perform k c).toProper.caught
        exact ih answer (fun part => by rw [hproper.uses_eq, hheld]) h
  | work operation next ih =>
      obtain ⟨answer, _, h⟩ := mem_onward h
      exact ih answer (fun part => by rw [(proper_onBoth operation k).caught.uses_eq, hheld]) h
  | within taken inside next hinside ih =>
      rcases List.mem_append.mp h with h | h
      · split at h
        · exact absurd h List.not_mem_nil
        · exact hinside (uses_enter hheld taken) h
      · obtain ⟨answer, _, h⟩ := mem_onward h
        have huse := Proper.use (k := { k with interrupts := false }) rfl taken
          fun _ => proper_client inside _
        exact ih answer (fun part => by rw [huse.masked.1.caught.uses_eq, hheld]) h

/-- How the kernel stood at the departures of the processor among some events. -/
def departures (events : List Event) : List View := events.filterMap Event.departure?

/-- How it stood at those of some calls. -/
def departuresOf (calls : List Made) : List View :=
  calls.flatMap fun m => departures (m.call.perform m.kernel).events

theorem departures_bind {first : Outcome Exit Event Kernel α}
    {next : α → Kernel → Outcome Exit Event Kernel β} {calls : α → Kernel → List Made}
    (hnext : ∀ value, departures (next value first.state).events =
      departuresOf (calls value first.state)) :
    departures (first.bind next).events =
      departures first.events ++ departuresOf (onward first calls) := by
  unfold Outcome.bind onward
  cases first.answer with
  | error cause => simp [departuresOf]
  | ok value =>
      show departures (first.events ++ (next value first.state).events) = _
      rw [departures, List.filterMap_append]
      exact congrArg (departures first.events ++ ·) (hnext value)

theorem departures_eq_nil {events : List Event}
    (h : ∀ event ∈ events, event.departure? = none) : departures events = [] :=
  List.filterMap_eq_nil_iff.mpr h

/-- **Nothing but the calls of a client makes the processor depart.** -/
theorem departures_client (client : Client) (held : List Part) (k : Kernel) :
    departures (client.perform k).events = departuresOf (client.made held k) := by
  induction client generalizing held k with
  | ends answer =>
      cases answer with
      | ok value => rfl
      | error cause => rfl
  | call c next ih => exact departures_bind fun answer => ih answer held _
  | work operation next ih =>
      have hquiet : departures (caught (onBoth operation) k).events = [] := by
        show departures (onBoth operation k).events = []
        exact departures_eq_nil (stays_lift _ _)
      refine (departures_bind fun answer => ih answer held _).trans ?_
      rw [hquiet, List.nil_append]
      rfl
  | within part inside next hinside ih =>
      have huse : departures (caught (masked (use part inside.perform)) k).events =
          departuresOf (if k.uses part then [] else inside.made (part :: held) (k.enter part)) := by
        show departures (use part inside.perform { k with interrupts := false }).events = _
        rw [use_apply, uses_mask]
        cases k.uses part with
        | true => rfl
        | false => exact hinside (part :: held) (k.enter part)
      refine (departures_bind fun answer => ih answer held _).trans ?_
      rw [huse, made, departuresOf, departuresOf, departuresOf, List.flatMap_append]

end Client

end TaskKernel.Kernel
