import TaskKernel.Word

/-!
# Physical frames

The firmware describes physical memory as a list of regions. The usable ones are carved up into
frames of 4 KiB, region by region and by ascending address. A frame that was handed out does not
come back.
-/

namespace TaskKernel.Memory

/-- The size of a frame, and of a page, in bytes. -/
def frameBytes : Nat := 4096

/-- What a region of memory is good for. -/
inductive RegionKind where
  | usable
  | bootloader
  /-- Known to the firmware only by this number. -/
  | firmware (tag : Nat)
  deriving DecidableEq, Repr

/-- A region of physical memory. -/
structure Region where
  start : Nat
  /-- The first address behind the region. -/
  stop : Nat
  kind : RegionKind
  deriving DecidableEq, Repr

/-- The number of frames that have room in a region. -/
def Region.frames (region : Region) : Except Fault Nat :=
  if region.kind = .usable then (Word.sub region.stop region.start).map (· / frameBytes) else .ok 0

/-- The frames that are handed out. -/
structure Frames where
  /-- All of memory. -/
  regions : List Region
  /-- The regions that are not used up. The first one is being carved up. -/
  remaining : List Region
  /-- Where the first of these is free. -/
  cursor : Nat
  deriving DecidableEq, Repr

namespace Frames

/-- No frame was handed out. -/
def start (regions : List Region) : Frames where
  regions
  remaining := regions
  cursor := 0

/-- The number of usable frames in all of memory. -/
def usable (frames : Frames) : Except Fault Nat :=
  frames.regions.foldlM (fun sum region => do Word.add sum (← region.frames)) 0

/-- The number of physical addresses: the hardware has 52 bits for one. -/
def addressLimit : Nat := 0x10000000000000

/-- A physical address, if the hardware has room for it. -/
def checkAddress (address : Nat) : Except Fault Nat :=
  if address < addressLimit then .ok address else .error .addressTooWide

/-- The first aligned frame of a region at or behind an address, and the address behind it. -/
def firstFrame (region : Region) (cursor : Nat) : Except Fault (Nat × Nat) := do
  let above ← Word.add (max cursor region.start) frameBytes
  let first := Word.alignDown (above - 1) frameBytes
  return (first, ← Word.add first frameBytes)

/-- Hand out the next frame, if one is left. The frame counts as handed out even if the hardware
cannot address it. -/
def allocate (frames : Frames) : Except Fault (Option Nat) × Frames :=
  search frames.remaining frames.cursor
where
  search : List Region → Nat → Except Fault (Option Nat) × Frames
    | [], cursor => (.ok none, { frames with remaining := [], cursor })
    | region :: rest, cursor =>
      if region.kind = .usable then
        match firstFrame region cursor with
        | .error fault => (.error fault, { frames with remaining := region :: rest, cursor })
        | .ok (first, behind) =>
          if behind ≤ region.stop then
            ((checkAddress first).map some,
              { frames with remaining := region :: rest, cursor := behind })
          else search rest 0
      else search rest 0

/-- Hand out several frames in turn. -/
def allocateMany (frames : Frames) : (n : Nat) → List (Except Fault (Option Nat)) × Frames
  | 0 => ([], frames)
  | n + 1 =>
    let (first, frames) := frames.allocate
    let (others, frames) := frames.allocateMany n
    (first :: others, frames)

end Frames

end TaskKernel.Memory
