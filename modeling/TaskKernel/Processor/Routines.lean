import TaskKernel.Processor.Instruction

/-!
# Moving between tasks

The routines that save the processor's state into a context and that set it from one. A context is
put back by way of an interrupt frame, so that a task that gave way and a task that was interrupted
are resumed alike.
-/

namespace TaskKernel.Processor

/-- A word of the context to which a register points. -/
def field (base : General) (r : Register) : Operand := ⟨base, UInt64.ofNat r.offset⟩

/-- The floating-point image of the context to which a register points. -/
def image (base : General) : Operand := ⟨base, UInt64.ofNat (8 * Register.count)⟩

/-- Save the state in which the routine was called, as it is after the return, into the context to
which `rsi` points. -/
def saveContext : List Instruction :=
  [.store (field .rsi .rax) .rax, .store (field .rsi .rbx) .rbx, .store (field .rsi .rcx) .rcx,
    .store (field .rsi .rdx) .rdx, .store (field .rsi .rdi) .rdi, .store (field .rsi .rsi) .rsi,
    .address .rax ⟨.rsp, 8⟩, .store (field .rsi .rsp) .rax, .store (field .rsi .rbp) .rbp,
    .store (field .rsi .r8) .r8, .store (field .rsi .r9) .r9, .store (field .rsi .r10) .r10,
    .store (field .rsi .r11) .r11, .store (field .rsi .r12) .r12, .store (field .rsi .r13) .r13,
    .store (field .rsi .r14) .r14, .store (field .rsi .r15) .r15,
    .readRoot .rax, .store (field .rsi .cr3) .rax,
    .load .rax ⟨.rsp, 0⟩, .store (field .rsi .rip) .rax,
    .pushFlags, .popMemory (field .rsi .rflags),
    .clear .rax, .readSelector .rax .cs, .store (field .rsi .cs) .rax,
    .readSelector .rax .ss, .store (field .rsi .ss) .rax,
    .readSelector .rax .fs, .store (field .rsi .fs) .rax,
    .readSelector .rax .gs, .store (field .rsi .gs) .rax,
    .saveImage (image .rsi)]

/-- Go on with the context to which `rdi` points. -/
def resumeContext : List Instruction :=
  [.pushMemory (field .rdi .ss), .pushMemory (field .rdi .rsp), .pushMemory (field .rdi .rflags),
    .pushMemory (field .rdi .cs), .pushMemory (field .rdi .rip),
    .restoreImage (image .rdi),
    .load .rax (field .rdi .cr3), .writeRoot .rax,
    .load .rax (field .rdi .fs), .writeSelector .fs .rax,
    .load .rax (field .rdi .gs), .writeSelector .gs .rax,
    .load .rax (field .rdi .rax), .load .rbx (field .rdi .rbx), .load .rcx (field .rdi .rcx),
    .load .rdx (field .rdi .rdx), .load .rsi (field .rdi .rsi), .load .rbp (field .rdi .rbp),
    .load .r8 (field .rdi .r8), .load .r9 (field .rdi .r9), .load .r10 (field .rdi .r10),
    .load .r11 (field .rdi .r11), .load .r12 (field .rdi .r12), .load .r13 (field .rdi .r13),
    .load .r14 (field .rdi .r14), .load .r15 (field .rdi .r15), .load .rdi (field .rdi .rdi),
    .returnFromInterrupt]

/-- Save the caller's state into the context to which `rsi` points, and go on with the context to
which `rdi` points. -/
def transfer : List Instruction := saveContext ++ resumeContext

/-- The start of the timer's entry: build a context of the interrupted task on the stack, below the
frame that the processor pushed. -/
def enterTimer : List Instruction :=
  [.push .rbp, .move .rbp .rsp, .subtract .rsp (UInt64.ofNat fxsaveBytes),
    .saveImage ⟨.rsp, 0⟩,
    .push .r15, .push .r14, .push .r13, .push .r12, .push .r11, .push .r10, .push .r9, .push .r8,
    .pushMemory ⟨.rbp, 0⟩, .pushMemory ⟨.rbp, 0x20⟩,
    .push .rsi, .push .rdi, .push .rdx, .push .rcx, .push .rbx, .push .rax,
    .clear .rax, .readSelector .rax .gs, .push .rax,
    .readSelector .rax .fs, .push .rax,
    .pushMemory ⟨.rbp, 0x28⟩, .pushMemory ⟨.rbp, 0x10⟩, .pushConstant 0,
    .pushMemory ⟨.rbp, 0x18⟩, .pushMemory ⟨.rbp, 0x08⟩,
    .readRoot .rax, .push .rax,
    .move .rdi .rsp]

/-- The end of the timer's entry: go on with the interrupted task. -/
def leaveTimer : List Instruction :=
  [.add .rsp 64,
    .pop .rax, .pop .rbx, .pop .rcx, .pop .rdx, .pop .rdi, .pop .rsi, .add .rsp 16,
    .pop .r8, .pop .r9, .pop .r10, .pop .r11, .pop .r12, .pop .r13, .pop .r14, .pop .r15,
    .restoreImage ⟨.rsp, 0⟩,
    .move .rsp .rbp, .pop .rbp, .returnFromInterrupt]

/-- An interrupt is delivered: the stack is aligned, and the processor pushes the frame from which
it can go on. -/
def State.deliver (s : State) : State :=
  let aligned := s.set .rsp (s.general .rsp / 16 * 16)
  [s.register .ss, s.general .rsp, s.flags, s.register .cs, s.place].foldl State.push aligned

end TaskKernel.Processor
