import TaskKernel.Word

/-!
# Stacks

A task's stack is a block of words. A new stack holds one thing, the address to which the task's
entry function returns, at a place that leaves the stack aligned as after a call.
-/

namespace TaskKernel

/-- A block of memory in words, with the address of its first word. -/
structure Stack where
  bottom : Nat
  /-- The number of words. -/
  length : Nat
  /-- The words that were written, each with its place; all others are zero. -/
  written : List (Nat × UInt64)
  deriving DecidableEq, Repr

namespace Stack

/-- The stack of a task that has none yet. -/
def empty : Stack := ⟨8, 0, []⟩

/-- The size in bytes. -/
def size (stack : Stack) : Nat := 8 * stack.length

/-- The first address above the stack. -/
def top (stack : Stack) : Nat := stack.bottom + stack.size

/-- Whether an address lies on the stack. -/
def holds (stack : Stack) (address : Nat) : Bool :=
  stack.bottom ≤ address && address < stack.top

/-- The word at a place of the stack, counted from the bottom. -/
def word? (stack : Stack) (place : Nat) : Option UInt64 :=
  if place < stack.length then some ((stack.written.lookup place).getD 0) else none

/-- The word that lies at an address of the stack. -/
def read? (stack : Stack) (address : Nat) : Option UInt64 :=
  if stack.bottom ≤ address then stack.word? ((address - stack.bottom) / 8) else none

/-- The number of words in a stack of so many bytes: never fewer than two. -/
def wordsFor (bytes : Nat) : Nat := max ((bytes + 7) / 8) 2

/-- A new stack at an address, and the stack pointer of a task that starts on it. The word at the
stack pointer holds `returnTo`, all others are zero, and eight bytes above it the stack is aligned
to sixteen. -/
def prepare (bottom words : Nat) (returnTo : UInt64) : Except Fault (Stack × Nat) := do
  let bytes ← Word.mul words 8
  let top ← Word.add bottom bytes
  let pointer ← Word.sub (Word.alignDown top 16) 8
  let offset ← Word.sub pointer bottom
  let slot := offset / 8
  if slot < words then
    return (⟨bottom, words, [(slot, returnTo)]⟩, pointer)
  else
    throw (.outOfBounds slot words)

end Stack

/-- Memory from which stacks are taken in ascending order, as long as nobody else uses it. What
comes back, and what others take and give back, is left open: it makes another arena of it
(`Scheduler.Operation.restock`). -/
structure Arena where
  /-- The first address that is free. -/
  next : Nat
  /-- The first address behind the memory. -/
  limit : Nat
  /-- The size in bytes of the largest block that is handed out. -/
  largest : Nat
  deriving DecidableEq, Repr

namespace Arena

/-- How many addresses a simulated platform has for stacks. -/
def simulatedBytes : Nat := 0x100000000000

/-- The addresses of a simulated platform from `start` on. A block has to be smaller than the
platform's memory of 32 GiB. -/
def simulated (start : Nat) : Arena where
  next := start
  limit := start + simulatedBytes
  largest := 0x7ffffffff

/-- Take room for so many words, aligned to sixteen bytes, if it is there. -/
def reserve (arena : Arena) (words : Nat) : Option (Nat × Arena) :=
  let start := Word.alignDown (arena.next + 15) 16
  let stop := start + 8 * words
  if 8 * words ≤ arena.largest ∧ stop ≤ arena.limit then
    some (start, { arena with next := stop })
  else none

end Arena

end TaskKernel
