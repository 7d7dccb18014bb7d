import TaskKernel.Bytes
import TaskKernel.Text.Quoted

/-!
# Saved contexts

A context holds everything that has to be put back for a task to go on where it stopped: the general
registers, the address space, the flags and selectors, and the state of the floating-point unit. Its
layout is fixed: register `r` lies `8 * r.index` bytes from the start, and the floating-point image
follows the registers.
-/

namespace TaskKernel

/-- The places of a context that hold a word, in the order of its layout. -/
inductive Register where
  | cr3 | rip | rflags | reserved | cs | ss | fs | gs | rax | rbx | rcx | rdx | rdi
  | rsi | rsp | rbp | r8 | r9 | r10 | r11 | r12 | r13 | r14 | r15
  deriving DecidableEq, Repr

namespace Register

/-- The number of registers in a context. -/
abbrev count : Nat := 24

/-- All registers in the order of the layout. -/
def all : List Register :=
  [.cr3, .rip, .rflags, .reserved, .cs, .ss, .fs, .gs, .rax, .rbx, .rcx, .rdx,
   .rdi, .rsi, .rsp, .rbp, .r8, .r9, .r10, .r11, .r12, .r13, .r14, .r15]

/-- The place of a register in the layout. -/
def index : Register → Fin count
  | .cr3 => 0
  | .rip => 1
  | .rflags => 2
  | .reserved => 3
  | .cs => 4
  | .ss => 5
  | .fs => 6
  | .gs => 7
  | .rax => 8
  | .rbx => 9
  | .rcx => 10
  | .rdx => 11
  | .rdi => 12
  | .rsi => 13
  | .rsp => 14
  | .rbp => 15
  | .r8 => 16
  | .r9 => 17
  | .r10 => 18
  | .r11 => 19
  | .r12 => 20
  | .r13 => 21
  | .r14 => 22
  | .r15 => 23

/-- The register at a place of the layout. -/
def ofIndex (i : Fin count) : Register := all.get i

@[simp] theorem ofIndex_index (r : Register) : ofIndex r.index = r := by
  cases r <;> rfl

@[simp] theorem index_ofIndex (i : Fin count) : (ofIndex i).index = i := by
  revert i; decide

/-- The distance of a register from the start of a context, in bytes. -/
def offset (r : Register) : Nat := 8 * r.index

/-- A register ends where the next one starts, and the last one where the registers end. -/
theorem offset_add_le (r : Register) : r.offset + 8 ≤ 8 * count := by
  have := r.index.isLt
  rw [offset]
  omega

theorem index_injective {r s : Register} (h : r.index = s.index) : r = s := by
  revert h; cases r <;> cases s <;> decide

theorem map_index_all : all.map index = List.finRange count := by decide

/-- The name of a register. -/
def name : Register → String
  | .cr3 => "cr3"
  | .rip => "rip"
  | .rflags => "rflags"
  | .reserved => "reserved1"
  | .cs => "cs"
  | .ss => "ss"
  | .fs => "fs"
  | .gs => "gs"
  | .rax => "rax"
  | .rbx => "rbx"
  | .rcx => "rcx"
  | .rdx => "rdx"
  | .rdi => "rdi"
  | .rsi => "rsi"
  | .rsp => "rsp"
  | .rbp => "rbp"
  | .r8 => "r8"
  | .r9 => "r9"
  | .r10 => "r10"
  | .r11 => "r11"
  | .r12 => "r12"
  | .r13 => "r13"
  | .r14 => "r14"
  | .r15 => "r15"

end Register

/-- The size of the image of the floating-point unit in bytes. -/
abbrev fxsaveBytes : Nat := 512

/-- What has to be put back for a task to go on where it stopped. -/
structure Context where
  registers : Vector UInt64 Register.count
  /-- The image of the floating-point unit. -/
  fx : Vector UInt8 fxsaveBytes
  deriving DecidableEq

/-- What a new context takes over from the machine that runs it. -/
structure Platform where
  /-- The address of the page tables in use, with their flags. -/
  pageTableRoot : UInt64
  codeSelector : UInt64
  stackSelector : UInt64
  /-- Where a task goes whose entry function returns. -/
  taskReturn : UInt64
  deriving DecidableEq, Repr

/-- The platform that stands in for hardware. -/
def Platform.simulated : Platform where
  pageTableRoot := 0x100000
  codeSelector := 0x08
  stackSelector := 0x10
  taskReturn := 0x5bd10e7ac340

namespace Context

/-- The size of a context in bytes. -/
def bytes : Nat := 8 * Register.count + fxsaveBytes

/-- Flags of a new task: interrupts on, and the bit that is always one. -/
def initialFlags : UInt64 := 0x202

/-- Floating-point control word of a new task: every exception masked. -/
def initialControlWord : UInt16 := 0x037f

/-- Vector-unit control of a new task: every exception masked, rounding to nearest. -/
def initialVectorControl : UInt32 := 0x1f80

/-- Where the vector-unit control lies in the floating-point image. -/
def vectorControlOffset : Nat := 24

/-- The context in which everything is zero. -/
def zero : Context := ⟨Vector.replicate _ 0, Vector.replicate _ 0⟩

/-- The context with these registers and this floating-point image. -/
def ofRegisters (f : Register → UInt64) (fx : Vector UInt8 fxsaveBytes) : Context :=
  ⟨Vector.ofFn fun i => f (Register.ofIndex i), fx⟩

/-- The content of a register. -/
def get (c : Context) (r : Register) : UInt64 := c.registers[r.index]

/-- Change a register. -/
def set (c : Context) (r : Register) (value : UInt64) : Context :=
  { c with registers := c.registers.set r.index value }

/-- Change a byte of the floating-point image; there is nothing behind its end. -/
def setFx (c : Context) (i : Nat) (value : UInt8) : Context :=
  { c with fx := c.fx.setIfInBounds i value }

/-- Write bytes into the floating-point image from place `start` on. -/
def storeFx (c : Context) (start : Nat) : List UInt8 → Context
  | [] => c
  | byte :: rest => (c.setFx start byte).storeFx (start + 1) rest

/-- The floating-point control word. -/
def controlWord (c : Context) : UInt16 :=
  UInt16.ofNat (Bytes.ofLittleEndian (c.fx.toList.take 2))

/-- The control of the vector unit. -/
def vectorControl (c : Context) : UInt32 :=
  UInt32.ofNat (Bytes.ofLittleEndian ((c.fx.toList.drop vectorControlOffset).take 4))

/-- The context in which a task starts `entry` with two arguments on a stack, in the address space
and with the privileges of the platform. -/
def entering (platform : Platform) (entry first second stackPointer : UInt64) : Context :=
  zero
    |>.set .cr3 platform.pageTableRoot
    |>.set .cs platform.codeSelector
    |>.set .ss platform.stackSelector
    |>.set .rip entry
    |>.set .rdi first
    |>.set .rsi second
    |>.set .rsp stackPointer
    |>.set .rflags initialFlags
    |>.storeFx 0 (Bytes.littleEndian 2 initialControlWord.toNat)
    |>.storeFx vectorControlOffset (Bytes.littleEndian 4 initialVectorControl.toNat)

/-- The form in which diagnostics show a context. -/
def describe (c : Context) : String :=
  let field r := Register.name r ++ ": " ++ Text.hexadecimal (c.get r).toNat
  let fields := [Register.rip, .rsp, .rflags, .cr3].map field
  "TaskContext \x7b " ++ String.intercalate ", " fields ++ ", .. \x7d"

theorem ext_get {c d : Context} (h : ∀ r, c.get r = d.get r) (hfx : c.fx = d.fx) : c = d := by
  rcases c with ⟨cr, cf⟩
  rcases d with ⟨dr, df⟩
  simp only [Context.mk.injEq]
  refine ⟨Vector.ext fun i hi => ?_, hfx⟩
  have hall : (⟨i, hi⟩ : Fin Register.count) ∈ Register.all.map Register.index := by
    rw [Register.map_index_all]; exact List.mem_finRange _
  obtain ⟨r, _, hr⟩ := List.mem_map.mp hall
  have := h r
  simpa [get, hr] using this

@[simp] theorem get_zero (r : Register) : zero.get r = 0 := by
  simp [get, zero]

@[simp] theorem fx_set (c : Context) (r : Register) (value : UInt64) :
    (c.set r value).fx = c.fx := rfl

theorem get_mk_registers (c : Context) (fx : Vector UInt8 fxsaveBytes) (r : Register) :
    (Context.mk c.registers fx).get r = c.get r := rfl

@[simp] theorem get_setFx (c : Context) (i : Nat) (value : UInt8) (r : Register) :
    (c.setFx i value).get r = c.get r := rfl

@[simp] theorem get_storeFx (c : Context) (start : Nat) (bytes : List UInt8) (r : Register) :
    (c.storeFx start bytes).get r = c.get r := by
  induction bytes generalizing c start with
  | nil => rfl
  | cons b rest ih => simp [storeFx, ih]

theorem get_set (c : Context) (r s : Register) (value : UInt64) :
    (c.set r value).get s = if r = s then value else c.get s := by
  have hindex : (r.index : Nat) = s.index ↔ r = s :=
    ⟨fun e => Register.index_injective (Fin.ext e), fun e => by rw [e]⟩
  simp only [get, set, Fin.getElem_fin, Vector.getElem_set, hindex]

@[simp] theorem get_ofRegisters (f : Register → UInt64) (fx : Vector UInt8 fxsaveBytes)
    (r : Register) : (ofRegisters f fx).get r = f r := by
  simp [get, ofRegisters]

@[simp] theorem fx_ofRegisters (f : Register → UInt64) (fx : Vector UInt8 fxsaveBytes) :
    (ofRegisters f fx).fx = fx := rfl

end Context

end TaskKernel
