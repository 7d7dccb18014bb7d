import TaskKernel.Guard.Cell
import TaskKernel.Outcome
import Std.Data.ExtTreeMap

/-!
# Critical sections

Programs that take and give back masks and use two guarded numbers, and what they do. A fault ends
everything around it up to the nearest use of a number, which reports it; masks and uses that it
passes on the way out are given back.
-/

namespace TaskKernel.Guard

/-- What a program does at one place. -/
inductive Action where
  /-- Switch interrupts on. -/
  | enable
  /-- Switch interrupts off. -/
  | disable
  /-- Take a mask and keep it under a name. A mask of that name is given back afterwards. -/
  | acquire (name : String)
  /-- Give back the mask of a name. -/
  | release (name : String)
  /-- Lose the mask of a name without giving it back. -/
  | forget (name : String)
  /-- Look at a number. -/
  | get (cell : Fin 2)
  /-- Add to a number; it wraps. -/
  | add (cell : Fin 2) (amount : Int64)
  deriving DecidableEq, Repr

/-- How a number is used while a part of the program runs. -/
inductive Access where
  /-- The mask is taken for the purpose. -/
  | masking
  /-- A mask is held already. -/
  | masked
  deriving DecidableEq, Repr

/-- A program. Where `raise` holds, a fault that a place reports goes on from there. -/
inductive Program where
  | done
  | act (action : Action) (raise : Bool) (rest : Program)
  /-- Hold a mask while `body` runs. -/
  | scope (body : Program) (raise : Bool) (rest : Program)
  /-- Add to a number, and go on using it while `body` runs. -/
  | use (access : Access) (cell : Fin 2) (amount : Int64) (body : Program) (raise : Bool)
    (rest : Program)
  deriving DecidableEq, Repr

/-- What a place of a program reports. -/
inductive Report where
  | nothing
  /-- Whether there was a mask of the name. -/
  | found (found : Bool)
  /-- What the number is now. -/
  | value (value : Int64)
  /-- A scope ended. -/
  | left
  | failed (fault : Fault)
  deriving DecidableEq, Repr

/-- What can be seen of a program, with the interrupt flag at that moment. -/
inductive Trace where
  | report (report : Report) (interrupts : Bool)
  /-- A scope began. -/
  | entered (interrupts : Bool)
  /-- The use of a number began. -/
  | using (access : Access) (interrupts : Bool) (value : Int64)
  deriving DecidableEq, Repr

/-- The state of a program. -/
structure State where
  interrupts : Bool
  cells : Vector (Cell Int64) 2
  /-- The masks that are kept under a name. -/
  masks : Std.ExtTreeMap String Mask

namespace State

/-- Interrupts are on, no mask is taken, and the numbers are 0 and 100. -/
def start : State where
  interrupts := true
  cells := #v[Cell.new 0, Cell.new 100]
  masks := Std.ExtTreeMap.empty

/-- Give back a mask, if there is one. -/
def release (s : State) : Option Mask → State
  | none => s
  | some mask => { s with interrupts := mask.release s.interrupts }

/-- Change one of the numbers' cells. -/
def setCell (s : State) (cell : Fin 2) (content : Cell Int64) : State :=
  { s with cells := s.cells.set cell content }

end State

/-- What a part of a program comes to. -/
abbrev Result (α : Type) := Outcome Fault Trace State α

/-- Run a part of a program under a mask of its own. -/
def masking {α : Type} (s : State) (body : State → Result α) : Result α :=
  let (mask, interrupts) := Mask.acquire s.interrupts
  (body { s with interrupts }).mapState (·.release (some mask))

/-- Use a number while a part of a program runs. -/
def borrowing {α : Type} (s : State) (cell : Fin 2) (body : Int64 → State → Result α) : Result α :=
  match s.cells[cell].borrow with
  | .error fault => .stop s fault
  | .ok held =>
    (body held.value (s.setCell cell held)).mapState fun s => s.setCell cell s.cells[cell].giveBack

/-- The mask of a name, and the state without it. -/
def State.take (s : State) (name : String) : Option Mask × State :=
  (s.masks[name]?, { s with masks := s.masks.erase name })

/-- Carry out one action. A fault becomes part of its report. -/
def Action.perform (s : State) : Action → Report × State
  | .enable => (.nothing, { s with interrupts := true })
  | .disable => (.nothing, { s with interrupts := false })
  | .acquire name =>
    let (mask, interrupts) := Mask.acquire s.interrupts
    let replaced := s.masks[name]?
    let s := { s with interrupts, masks := s.masks.insert name mask }
    (.found replaced.isSome, s.release replaced)
  | .release name =>
    let (mask, s) := s.take name
    (.found mask.isSome, s.release mask)
  | .forget name =>
    let (mask, s) := s.take name
    (.found mask.isSome, s)
  | .get cell => change s cell id
  | .add cell amount => change s cell (· + amount)
where
  change (s : State) (cell : Fin 2) (f : Int64 → Int64) : Report × State :=
    let used : Result Int64 := masking s fun s => borrowing s cell fun value s =>
      .done (s.setCell cell { s.cells[cell] with value := f value }) (f value)
    match used.answer with
    | .ok value => (.value value, used.state)
    | .error fault => (.failed fault, used.state)

/-- Put a report into the trace. A fault goes on from here if it is to be raised again. -/
def State.report (s : State) (report : Report) (raise : Bool) : Result Unit :=
  .after [.report report s.interrupts] <|
    match report, raise with
    | .failed fault, true => .stop s fault
    | _, _ => .done s ()

/-- What a use of a number reports: the number, or the fault that ended it. -/
def Report.ofAnswer : Except Fault Int64 → Report
  | .ok number => .value number
  | .error fault => .failed fault

/-- Run a program. -/
def Program.run (s : State) : Program → Result Unit
  | .done => .done s ()
  | .act action raise rest =>
    let (report, s) := action.perform s
    (s.report report raise).bind fun () s => rest.run s
  | .scope body raise rest =>
    let inner := masking s fun s => .after [.entered s.interrupts] (body.run s)
    inner.bind fun () s => (s.report .left raise).bind fun () s => rest.run s
  | .use access cell amount body raise rest =>
    let used := masking s fun s => borrowing s cell fun value s =>
      .after [.using access s.interrupts value] <|
        let s := s.setCell cell { s.cells[cell] with value := value + amount }
        (body.run s).bind fun () s => .done s s.cells[cell].value
    .after used.events <|
      (used.state.report (.ofAnswer used.answer) raise).bind fun () s => rest.run s

end TaskKernel.Guard
