import TaskKernel.Memory.Heap
import TaskKernel.Notice

/-!
# What the machine does to the world

The machine writes to its console, to the registers of other devices and, while it starts, to its
page tables.
-/

namespace TaskKernel.Machine

/-- Something that the machine does. -/
inductive Effect where
  /-- A text goes to the console. -/
  | text (content : String)
  /-- A character that was typed goes to the console. -/
  | echo (character : UInt8)
  /-- A value goes to the register of a device that has this address. -/
  | device (address value : Nat)
  /-- A page is mapped. -/
  | mapped (mapping : Memory.Mapping)
  deriving DecidableEq

/-- What the console's line carries for a character. A character that rubs out is followed by a
blank in its place. -/
def wire (c : Char) : List Char :=
  if c = '\x08' ∨ c = '\x7f' then ['\x08', ' ', '\x08'] else [c]

/-- What the console's line carries for an effect. -/
def Effect.console : Effect → List Char
  | .text content => content.toList.flatMap wire
  | .echo character => wire (Char.ofNat character.toNat)
  | .device .. | .mapped .. => []

/-- What the console's line carries for several effects. -/
def transcript (effects : List Effect) : String :=
  String.ofList (effects.flatMap Effect.console)

/-- The writes to devices among some effects. -/
def deviceWrites (effects : List Effect) : List (Nat × Nat) :=
  effects.filterMap fun
    | .device address value => some (address, value)
    | _ => none

/-- The pages that were mapped among some effects. -/
def mappings (effects : List Effect) : List Memory.Mapping :=
  effects.filterMap fun
    | .mapped mapping => some mapping
    | _ => none

/-! ## Repetitions -/

/-- Equal neighbours, with their number. -/
def counted {α : Type} [DecidableEq α] : List α → List (α × Nat)
  | [] => []
  | a :: rest =>
    match counted rest with
    | (b, n) :: runs => if a = b then (b, n + 1) :: runs else (a, 1) :: (b, n) :: runs
    | [] => [(a, 1)]

/-- Neighbouring pages on neighbouring frames with the same flags: the first of them, and how many
there are. -/
def pageRuns : List Memory.Mapping → List (Memory.Mapping × Nat)
  | [] => []
  | a :: rest =>
    match pageRuns rest with
    | (b, n) :: runs =>
      if b.page = a.page + Memory.frameBytes ∧ b.frame = a.frame + Memory.frameBytes ∧
          b.flags = a.flags then
        (a, n + 1) :: runs
      else (a, 1) :: (b, n) :: runs
    | [] => [(a, 1)]

end TaskKernel.Machine
