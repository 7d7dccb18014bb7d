import TaskKernel.Context

/-!
# The processor

The registers of the processor and the memory it works on. What a context can hold of the
processor's state is read off by `State.context`; what a piece of memory holds when it is read as a
context is `readContext`.
-/

namespace TaskKernel.Processor

/-- A general register. -/
inductive General where
  | rax | rbx | rcx | rdx | rdi | rsi | rsp | rbp
  | r8 | r9 | r10 | r11 | r12 | r13 | r14 | r15
  deriving DecidableEq, Repr

/-- A register that selects a segment. -/
inductive Selector where
  | cs | ss | fs | gs
  deriving DecidableEq, Repr

/-- Memory, byte by byte. -/
abbrev Memory := UInt64 → UInt8

/-- The state of the processor and its memory. -/
structure State where
  general : General → UInt64
  selector : Selector → UInt16
  /-- Where the processor goes on. Within a routine this is not followed. -/
  place : UInt64
  flags : UInt64
  /-- The address of the page tables, with their flags. -/
  root : UInt64
  /-- The state of the floating-point unit, as its image shows it. -/
  fx : Vector UInt8 fxsaveBytes
  memory : Memory

/-! ## Memory -/

namespace Memory

/-- The word at an address. -/
def readWord (m : Memory) (address : UInt64) : UInt64 :=
  UInt64.ofNat <| Bytes.ofLittleEndian <| (List.range 8).map fun i => m (address + UInt64.ofNat i)

/-- Store bytes from an address on. -/
def writeBytes (m : Memory) (address : UInt64) (bytes : List UInt8) : Memory := fun a =>
  bytes.getD (a - address).toNat (m a)

/-- Store a word at an address. -/
def writeWord (m : Memory) (address value : UInt64) : Memory :=
  m.writeBytes address (Bytes.littleEndian 8 value.toNat)

/-- The floating-point image at an address. -/
def readImage (m : Memory) (address : UInt64) : Vector UInt8 fxsaveBytes :=
  Vector.ofFn fun i => m (address + UInt64.ofNat i)

/-- The context at an address. -/
def readContext (m : Memory) (address : UInt64) : Context :=
  .ofRegisters (fun r => m.readWord (address + UInt64.ofNat r.offset))
    (m.readImage (address + UInt64.ofNat (8 * Register.count)))

end Memory

/-! ## Registers -/

namespace State

/-- Change a general register. -/
def set (s : State) (r : General) (value : UInt64) : State :=
  { s with general := fun q => if q = r then value else s.general q }

/-- Change a selector. -/
def setSelector (s : State) (r : Selector) (value : UInt16) : State :=
  { s with selector := fun q => if q = r then value else s.selector q }

@[simp] theorem general_set (s : State) (r : General) (value : UInt64) (q : General) :
    (s.set r value).general q = if q = r then value else s.general q := rfl

@[simp] theorem memory_set (s : State) (r : General) (value : UInt64) :
    (s.set r value).memory = s.memory := rfl

/-- What the processor has for a place of a context. -/
def register (s : State) : Register → UInt64
  | .cr3 => s.root
  | .rip => s.place
  | .rflags => s.flags
  | .reserved => 0
  | .cs => (s.selector .cs).toUInt64
  | .ss => (s.selector .ss).toUInt64
  | .fs => (s.selector .fs).toUInt64
  | .gs => (s.selector .gs).toUInt64
  | .rax => s.general .rax
  | .rbx => s.general .rbx
  | .rcx => s.general .rcx
  | .rdx => s.general .rdx
  | .rdi => s.general .rdi
  | .rsi => s.general .rsi
  | .rsp => s.general .rsp
  | .rbp => s.general .rbp
  | .r8 => s.general .r8
  | .r9 => s.general .r9
  | .r10 => s.general .r10
  | .r11 => s.general .r11
  | .r12 => s.general .r12
  | .r13 => s.general .r13
  | .r14 => s.general .r14
  | .r15 => s.general .r15

/-- Everything about the processor that a context holds. -/
def context (s : State) : Context := .ofRegisters s.register s.fx

/-- Put a word on the stack. -/
def push (s : State) (value : UInt64) : State :=
  let top := s.general .rsp - 8
  { s.set .rsp top with memory := s.memory.writeWord top value }

@[simp] theorem general_push (s : State) (value : UInt64) (q : General) :
    (s.push value).general q = if q = .rsp then s.general .rsp - 8 else s.general q := rfl

@[simp] theorem memory_push (s : State) (value : UInt64) :
    (s.push value).memory = s.memory.writeWord (s.general .rsp - 8) value := rfl

/-- The word on top of the stack. -/
def top (s : State) : UInt64 := s.memory.readWord (s.general .rsp)

/-- Drop words from the stack. -/
def drop (s : State) (words : UInt64) : State := s.set .rsp (s.general .rsp + 8 * words)

/-- To drop a word that was put on the stack leaves it in memory only. -/
theorem drop_push (s : State) (value : UInt64) :
    (s.push value).drop 1 =
      { s with memory := s.memory.writeWord (s.general .rsp - 8) value } := by
  have hgeneral : ((s.push value).drop 1).general = s.general := by
    funext q
    rw [drop, general_set]
    split
    · next hq => rw [hq, general_push, if_pos rfl, UInt64.mul_one, UInt64.sub_add_cancel]
    · next hq => rw [general_push, if_neg hq]
  calc (s.push value).drop 1
      = { s with
          general := ((s.push value).drop 1).general
          memory := s.memory.writeWord (s.general .rsp - 8) value } := rfl
    _ = _ := by rw [hgeneral]

/-- Call a routine: the place to return to goes on the stack. -/
def call (s : State) : State := s.push s.place

end State

end TaskKernel.Processor
