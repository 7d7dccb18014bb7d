import TaskKernel.Memory.Frames
import TaskKernel.Outcome

/-!
# Mapping the heap

The heap is a range of virtual memory. Each of its pages gets a frame; a page table that is missing
on the way to the page gets a frame of its own, the upper ones first.
-/

namespace TaskKernel.Memory

/-- The virtual address of the heap. -/
def heapBase : Nat := 0x444444440000

/-- The size of the heap in bytes. -/
def heapBytes : Nat := 1024 * 1024

/-- The pages of the heap by ascending address. -/
def heapPages : List Nat :=
  (List.range (heapBytes / frameBytes)).map fun i => heapBase + i * frameBytes

/-- Heap pages can be used, and written to. -/
def heapFlags : Nat := 3

/-- Why memory cannot be set up. -/
inductive SetupError where
  /-- Physical memory cannot be reached through virtual addresses. -/
  | noPhysicalMapping
  /-- There are not enough frames for the heap. -/
  | heapMapping
  deriving DecidableEq, Repr

/-- The name under which a failure is reported. -/
def SetupError.name : SetupError → String
  | .noPhysicalMapping => "NoPhysicalMapping"
  | .heapMapping => "HeapMapping"

/-- Why a page cannot be mapped. -/
inductive MapError where
  /-- There is no frame left. -/
  | noFrame
  | fault (cause : Fault)
  deriving DecidableEq, Repr

/-- A page that was mapped. -/
structure Mapping where
  page : Nat
  frame : Nat
  flags : Nat
  deriving DecidableEq, Repr

/-- A page table below the topmost, by the size of what one of them spans and by its place among
those. -/
structure Table where
  span : Nat
  place : Nat
  deriving DecidableEq, Repr

/-- The tables that lead to a page, from the top. Each has 512 entries. -/
def tablesOf (page : Nat) : List Table :=
  let spans := [512 * 512 * 512 * frameBytes, 512 * 512 * frameBytes, 512 * frameBytes]
  spans.map fun span => { span, place := page / span }

/-- The virtual memory that is set up. -/
structure AddressSpace where
  frames : Frames
  /-- The page tables there are, apart from the topmost. -/
  tables : List Table
  deriving DecidableEq, Repr

/-- A step in setting up virtual memory. -/
abbrev Step (α : Type) := Act MapError Mapping AddressSpace α

/-- Take a frame. -/
def takeFrame : Step Nat := fun space =>
  let (answer, frames) := space.frames.allocate
  let space := { space with frames }
  match answer with
  | .ok (some frame) => .done space frame
  | .ok none => .stop space .noFrame
  | .error cause => .stop space (.fault cause)

/-- Make sure that a table is there. -/
def ensureTable (table : Table) : Step Unit := do
  let space ← Act.get
  if table ∉ space.tables then
    let _ ← takeFrame
    Act.modify fun space => { space with tables := table :: space.tables }

/-- Give a page a frame. -/
def mapPage (page : Nat) : Step Unit := do
  let frame ← takeFrame
  (tablesOf page).forM ensureTable
  Act.report { page, frame, flags := heapFlags }

/-- Give each page of the heap a frame. -/
def mapHeap : Step Unit := heapPages.forM mapPage

end TaskKernel.Memory
