import TaskKernel.Processor.State

/-!
# Instructions

The instructions of which the routines that move the processor between tasks are made, and what each
of them does. Moves leave the flags alone. What arithmetic does to them is left open: it is a
function of the flags before and of the result.
-/

namespace TaskKernel.Processor

/-- A place in memory: a register and a distance from where it points. -/
structure Operand where
  base : General
  displacement : UInt64
  deriving DecidableEq, Repr

/-- An instruction. -/
inductive Instruction where
  /-- Copy a general register. -/
  | move (target source : General)
  /-- Read a word from memory. -/
  | load (target : General) (source : Operand)
  /-- Write a register to memory. -/
  | store (target : Operand) (source : General)
  /-- Compute where an operand lies. -/
  | address (target : General) (source : Operand)
  /-- Read the address of the page tables. -/
  | readRoot (target : General)
  /-- Change the address of the page tables. -/
  | writeRoot (source : General)
  /-- Read a selector into the low half word of a register. -/
  | readSelector (target : General) (source : Selector)
  /-- Change a selector to the low half word of a register. -/
  | writeSelector (target : Selector) (source : General)
  /-- Make a register zero by arithmetic. -/
  | clear (target : General)
  | add (target : General) (amount : UInt64)
  | subtract (target : General) (amount : UInt64)
  | push (source : General)
  | pushConstant (value : UInt64)
  | pushMemory (source : Operand)
  | pushFlags
  | pop (target : General)
  /-- Move a word from the stack to memory. -/
  | popMemory (target : Operand)
  /-- Write the image of the floating-point unit to memory. -/
  | saveImage (target : Operand)
  /-- Set the floating-point unit from an image in memory. -/
  | restoreImage (source : Operand)
  /-- Go on as a frame on the stack says: place, code selector, flags, stack pointer and stack
  selector. -/
  | returnFromInterrupt
  deriving DecidableEq, Repr

/-- How arithmetic changes the flags, given the result. -/
abbrev FlagRule := UInt64 → UInt64 → UInt64

namespace State

/-- Where an operand lies. -/
def locate (s : State) (o : Operand) : UInt64 := s.general o.base + o.displacement

/-- The result of arithmetic goes to a register and changes the flags. -/
def compute (rule : FlagRule) (s : State) (target : General) (result : UInt64) : State :=
  { s.set target result with flags := rule s.flags result }

/-- The frame of an interrupt on the stack says how to go on. -/
def leaveInterrupt (s : State) : State :=
  let word (i : UInt64) : UInt64 := s.memory.readWord (s.general .rsp + 8 * i)
  let resumed := (s.setSelector .cs (word 1).toUInt16).setSelector .ss (word 4).toUInt16
  { resumed.set .rsp (word 3) with
    place := word 0
    flags := word 2 }

end State

/-- Whether an image may lie at an address. -/
def imageAligned (address : UInt64) : Bool := address % 16 == 0

/-- Replace the low half word of a word. -/
def withLowHalf (word : UInt64) (half : UInt16) : UInt64 :=
  (word &&& 0xffffffffffff0000) ||| half.toUInt64

/-- Carry out an instruction. An image that is not aligned is an exception, which ends everything.
-/
def Instruction.execute (rule : FlagRule) (s : State) : Instruction → Option State
  | .move target source => some (s.set target (s.general source))
  | .load target source => some (s.set target (s.memory.readWord (s.locate source)))
  | .store target source =>
    some { s with memory := s.memory.writeWord (s.locate target) (s.general source) }
  | .address target source => some (s.set target (s.locate source))
  | .readRoot target => some (s.set target s.root)
  | .writeRoot source => some { s with root := s.general source }
  | .readSelector target source =>
    some (s.set target (withLowHalf (s.general target) (s.selector source)))
  | .writeSelector target source => some (s.setSelector target (s.general source).toUInt16)
  | .clear target => some (s.compute rule target 0)
  | .add target amount => some (s.compute rule target (s.general target + amount))
  | .subtract target amount => some (s.compute rule target (s.general target - amount))
  | .push source => some (s.push (s.general source))
  | .pushConstant value => some (s.push value)
  | .pushMemory source => some (s.push (s.memory.readWord (s.locate source)))
  | .pushFlags => some (s.push s.flags)
  | .pop target => some ((s.drop 1).set target s.top)
  | .popMemory target =>
    let dropped := s.drop 1
    some { dropped with memory := s.memory.writeWord (dropped.locate target) s.top }
  | .saveImage target =>
    if imageAligned (s.locate target) then
      some { s with memory := s.memory.writeBytes (s.locate target) s.fx.toList }
    else none
  | .restoreImage source =>
    if imageAligned (s.locate source) then
      some { s with fx := s.memory.readImage (s.locate source) }
    else none
  | .returnFromInterrupt => some s.leaveInterrupt

/-- Carry out instructions in order. -/
def run (rule : FlagRule) (s : State) (code : List Instruction) : Option State :=
  code.foldlM (Instruction.execute rule) s

@[simp] theorem run_nil (rule : FlagRule) (s : State) : run rule s [] = some s := rfl

theorem run_cons (rule : FlagRule) (s : State) (first : Instruction) (rest : List Instruction) :
    run rule s (first :: rest) = (first.execute rule s).bind fun t => run rule t rest := rfl

theorem run_append (rule : FlagRule) (s : State) (code rest : List Instruction) :
    run rule s (code ++ rest) = (run rule s code).bind fun t => run rule t rest :=
  List.foldlM_append

end TaskKernel.Processor
