import TaskKernel.Proofs.FrameSupply
import Mathlib.Algebra.Order.BigOperators.Group.List
import Mathlib.Algebra.Order.Group.Nat
import Mathlib.Algebra.Ring.Nat
import Mathlib.Data.List.Perm.Subperm

/-!
# How many frames are reported

The number of usable frames is computed from the sizes of the regions, while the allocator rounds
addresses. For one region the two numbers differ by at most one: the number is too large by one
where the region begins within a frame and its last, partial frame makes up for what is missing from
the first (`Region.overcounted`, `length_supply_add`).

* `usable_start` — the sum of the sizes does not overflow where the usable regions are disjoint,
  since all their bytes are addresses (`sum_room_le`);
* `handsOut_iff` — the number of allocations that succeed is the number of frames that are left;
* `tally` — hence the number that is reported is the number of frames that are handed out and, on
  top of it, one for each region that is overcounted.
-/

namespace TaskKernel.Memory

namespace Region

variable {region other : Region}

theorem disjoint_iff :
    region.Disjoint other ↔ min region.stop other.stop ≤ max region.start other.start := by
  constructor
  · intro h
    by_contra hmeet
    exact h (max region.start other.start) (by omega) (by omega) (by omega) (by omega)
  · intro h address hstart hstop hstart' hstop'
    omega

instance (region other : Region) : Decidable (region.Disjoint other) :=
  decidable_of_iff _ disjoint_iff.symm

/-- The number of frames that would have room in a usable region if it began with a frame. -/
def room (region : Region) : Nat :=
  if region.kind = .usable then (region.stop - region.start) / frameBytes else 0

/-- A usable region that begins within a frame and has room for a frame, but ends within one no
earlier than it begins: what is missing from its first frame counts as part of its last. -/
def overcounted (region : Region) : Bool :=
  region.kind = .usable ∧ ¬ frameBytes ∣ region.start ∧
    region.start % frameBytes ≤ region.stop % frameBytes ∧
    region.start + frameBytes ≤ region.stop

theorem frames_eq_ok (h : region.start ≤ region.stop) : region.frames = .ok region.room := by
  unfold frames room
  by_cases husable : region.kind = .usable
  · rw [if_pos husable, if_pos husable, Word.sub_eq_ok.mpr ⟨h, rfl⟩]
    rfl
  · rw [if_neg husable, if_neg husable]

/-- How many of the first `n` places are not in front of `first`. -/
theorem length_filter_range (first n : Nat) :
    ((List.range n).filter (first ≤ ·)).length = n - first := by
  induction n with
  | zero => rw [Nat.zero_sub]; rfl
  | succ n ih =>
      rw [List.range_succ, List.filter_append, List.length_append, ih]
      by_cases hle : first ≤ n
      · rw [List.filter_cons_of_pos (by simpa using hle), List.filter_nil, List.length_singleton]
        omega
      · rw [List.filter_cons_of_neg (by simpa using hle), List.filter_nil, List.length_nil]
        omega

/-- The frames of a usable region are those from the rounded start up to the rounded stop. -/
theorem length_supply (husable : region.kind = .usable) :
    region.supply.length =
      region.stop / frameBytes - (region.start + frameBytes - 1) / frameBytes := by
  have hplaces : region.supply = ((List.range (region.stop / frameBytes)).filter
      ((region.start + frameBytes - 1) / frameBytes ≤ ·)).map (· * frameBytes) := by
    unfold supply
    rw [List.filter_map]
    refine congrArg _ (List.filter_congr fun place _ => ?_)
    simp only [Function.comp, husable, true_and, decide_eq_decide]
    unfold frameBytes
    omega
  rw [hplaces, List.length_map, length_filter_range]

/-- What is reported of a region exceeds what it has by at most one. -/
theorem length_supply_add (region : Region) :
    region.supply.length + (if region.overcounted then 1 else 0) = region.room := by
  unfold room overcounted
  by_cases husable : region.kind = .usable
  · rw [length_supply husable, if_pos husable]
    simp only [husable, true_and, decide_eq_true_eq]
    -- Only the remainders of the two bounds decide whether the quotients differ.
    unfold frameBytes
    split <;> omega
  · rw [supply_of_unusable husable, if_neg husable]
    simp only [husable, false_and, decide_false, List.length_nil, Bool.false_eq_true, if_false]

/-- What is reported of all regions. -/
theorem length_supplies_add (regions : List Region) :
    (regions.flatMap supply).length + regions.countP overcounted = (regions.map room).sum := by
  induction regions with
  | nil => rfl
  | cons region rest ih =>
      rw [List.flatMap_cons, List.length_append, List.countP_cons, List.map_cons, List.sum_cons,
        ← length_supply_add region, ← ih]
      omega

/-- The addresses in a usable region. -/
def bytes (region : Region) : List Nat :=
  if region.kind = .usable then List.range' region.start (region.stop - region.start) else []

theorem mem_bytes {address : Nat} :
    address ∈ region.bytes ↔
      region.kind = .usable ∧ region.start ≤ address ∧ address < region.stop := by
  unfold bytes
  by_cases husable : region.kind = .usable
  · rw [if_pos husable, List.mem_range'_1]
    simp only [husable, true_and]
    omega
  · rw [if_neg husable]
    simp only [husable, false_and, List.not_mem_nil]

theorem room_le_length_bytes (region : Region) : region.room ≤ region.bytes.length := by
  unfold room bytes
  by_cases husable : region.kind = .usable
  · rw [if_pos husable, if_pos husable, List.length_range']
    exact Nat.div_le_self _ _
  · rw [if_neg husable]
    exact Nat.zero_le _

theorem nodup_bytes {regions : List Region}
    (h : (regions.filter (·.kind = .usable)).Pairwise Disjoint) :
    (regions.flatMap bytes).Nodup := by
  refine List.nodup_flatMap.mpr ⟨fun region _ => ?_, ?_⟩
  · unfold bytes
    split
    · exact List.nodup_range' 1
    · exact List.nodup_nil
  · refine (List.pairwise_filter.mp h).imp fun {region other} hdisjoint address hmem hmem' => ?_
    obtain ⟨husable, hstart, hstop⟩ := mem_bytes.mp hmem
    obtain ⟨husable', hstart', hstop'⟩ := mem_bytes.mp hmem'
    exact hdisjoint (decide_eq_true husable) (decide_eq_true husable') address hstart hstop hstart'
      hstop'

/-- There are no more frames in disjoint regions than there are addresses. -/
theorem sum_room_le {regions : List Region} (h : ∀ region ∈ regions, region.Addressable)
    (hdisjoint : (regions.filter (·.kind = .usable)).Pairwise Disjoint) :
    (regions.map room).sum ≤ Frames.addressLimit := by
  have hwithin : regions.flatMap bytes ⊆ List.range Frames.addressLimit := by
    intro address hmem
    obtain ⟨region, hregion, hmem⟩ := List.mem_flatMap.mp hmem
    obtain ⟨_, _, hstop⟩ := mem_bytes.mp hmem
    exact List.mem_range.mpr (Nat.lt_of_lt_of_le hstop (h region hregion).stop_le_limit)
  calc (regions.map room).sum
      ≤ (regions.map fun region => region.bytes.length).sum :=
        List.sum_le_sum fun region _ => room_le_length_bytes region
    _ = (regions.flatMap bytes).length := List.length_flatMap.symm
    _ ≤ (List.range Frames.addressLimit).length :=
        ((nodup_bytes hdisjoint).subperm hwithin).length_le
    _ = Frames.addressLimit := List.length_range

end Region

namespace Frames

variable {frames : Frames} {regions : List Region} {n : Nat}

/-! ## The number that is reported -/

theorem sum_frames (h : ∀ region ∈ regions, region.start ≤ region.stop) {sum : Nat}
    (hfits : sum + (regions.map Region.room).sum < Word.size) :
    regions.foldlM (fun sum region => do Word.add sum (← region.frames)) sum =
      .ok (sum + (regions.map Region.room).sum) := by
  induction regions generalizing sum with
  | nil => rfl
  | cons region rest ih =>
      obtain ⟨hregion, hrest⟩ := List.forall_mem_cons.mp h
      rw [List.map_cons, List.sum_cons, ← Nat.add_assoc] at hfits ⊢
      have hadd : Word.add sum region.room = .ok (sum + region.room) :=
        Word.add_eq_ok.mpr ⟨by omega, rfl⟩
      rw [List.foldlM_cons, Region.frames_eq_ok hregion]
      simp only [bind, Except.bind, hadd]
      exact ih hrest hfits

theorem usable_start (h : ∀ region ∈ regions, region.Addressable)
    (hdisjoint : (regions.filter (·.kind = .usable)).Pairwise Region.Disjoint) :
    (start regions).usable = .ok (regions.map Region.room).sum := by
  have hle := Region.sum_room_le h hdisjoint
  have hsize : addressLimit < Word.size := by decide
  have hfits : 0 + (regions.map Region.room).sum < Word.size := by omega
  have hsum := sum_frames (fun region hmem => (h region hmem).start_le_stop) hfits
  rwa [Nat.zero_add] at hsum

theorem search_of_fault (frames : Frames) {region : Region} {cursor : Nat} {fault : Fault}
    (h : region.kind = .usable) (hfault : firstFrame region cursor = .error fault)
    (rest : List Region) :
    allocate.search frames (region :: rest) cursor =
      (.error fault, { frames with remaining := region :: rest, cursor }) := by
  refine (if_pos h).trans ?_
  rw [hfault]

theorem regions_search (frames : Frames) (regions : List Region) (cursor : Nat) :
    (allocate.search frames regions cursor).2.regions = frames.regions := by
  induction regions generalizing cursor with
  | nil => rfl
  | cons region rest ih =>
      by_cases husable : region.kind = .usable
      · cases hfound : firstFrame region cursor with
        | error fault =>
            rw [search_of_fault frames husable hfound]
        | ok found =>
            rw [search_of_found frames husable hfound]
            by_cases hfits : found.2 ≤ region.stop
            · rw [if_pos hfits]
            · rw [if_neg hfits]
              exact ih 0
      · rw [search_of_unusable frames husable]
        exact ih 0

theorem regions_allocateMany (frames : Frames) (n : Nat) :
    (frames.allocateMany n).2.regions = frames.regions := by
  induction n generalizing frames with
  | zero => rfl
  | succ n ih => exact (ih _).trans (regions_search frames _ _)

/-! ## The number that is handed out -/

/-- So many allocations give a frame, and the next one does not. -/
structure HandsOut (frames : Frames) (n : Nat) : Prop where
  given : ∀ i < n, ∃ frame, (frames.allocateMany (n + 1)).1[i]? = some (.ok (some frame))
  done : (frames.allocateMany (n + 1)).1[n]? = some (.ok none)

theorem handsOut_iff (h : frames.Sound) : frames.HandsOut n ↔ n = frames.left.length := by
  have hanswer (i : Nat) (hi : i < n + 1) :
      (frames.allocateMany (n + 1)).1[i]? = some (.ok frames.left[i]?) := by
    rw [allocateMany_spec h, List.getElem?_map, List.getElem?_range hi]
    rfl
  constructor
  · rintro ⟨hgiven, hdone⟩
    rw [hanswer n (Nat.lt_succ_self n)] at hdone
    have hle : frames.left.length ≤ n :=
      List.getElem?_eq_none_iff.mp (Except.ok.inj (Option.some.inj hdone))
    refine Nat.le_antisymm (Nat.le_of_not_lt fun hlt => ?_) hle
    obtain ⟨frame, hframe⟩ := hgiven _ hlt
    rw [hanswer _ (Nat.lt_succ_of_lt hlt), List.getElem?_eq_none (Nat.le_refl _)] at hframe
    exact nomatch hframe
  · rintro rfl
    refine ⟨fun i hi => ⟨frames.left[i], ?_⟩, ?_⟩
    · rw [hanswer i (Nat.lt_succ_of_lt hi), List.getElem?_eq_getElem hi]
    · rw [hanswer _ (Nat.lt_succ_self _), List.getElem?_eq_none (Nat.le_refl _)]

/-- How the number of frames that is reported compares with the number that is handed out. -/
structure Tally (regions : List Region) : Prop where
  /-- It is larger by one for each region that is overcounted. -/
  excess : ∃ n, (start regions).HandsOut n ∧
    (start regions).usable = .ok (n + regions.countP Region.overcounted)
  /-- So it is right exactly if there is none. -/
  exact_iff : (∃ n, (start regions).HandsOut n ∧ (start regions).usable = .ok n) ↔
    ∀ region ∈ regions, region.overcounted = false
  /-- It does not change as frames are handed out. -/
  steady : ∀ n, ((start regions).allocateMany n).2.usable = (start regions).usable

/-- **The number of frames that is reported** is never too small, and it is too large by one for each
usable region whose bounds within a frame make up for each other. -/
theorem tally (h : ∀ region ∈ regions, region.Addressable)
    (hdisjoint : (regions.filter (·.kind = .usable)).Pairwise Region.Disjoint) :
    Tally regions := by
  have hsupply := handsOut_iff (n := (start regions).left.length) (sound_start h)
  have husable := usable_start h hdisjoint
  rw [← Region.length_supplies_add, ← left_start] at husable
  refine ⟨⟨_, hsupply.mpr rfl, husable⟩, ?_, fun n => ?_⟩
  · have hexact : (∀ region ∈ regions, region.overcounted = false) ↔
        regions.countP Region.overcounted = 0 := by
      simp only [List.countP_eq_zero, Bool.not_eq_true]
    rw [hexact, husable]
    constructor
    · rintro ⟨n, hhands, hreported⟩
      rw [handsOut_iff (sound_start h)] at hhands
      have hsame := Except.ok.inj hreported
      omega
    · intro hnone
      rw [hnone]
      exact ⟨_, hsupply.mpr rfl, rfl⟩
  · unfold usable
    rw [regions_allocateMany]

/-- Each of the first two regions has a frame less than its size promises. -/
theorem tally_unaligned :
    Tally [⟨1, 4097, .usable⟩, ⟨0x1800, 0x4800, .usable⟩, ⟨0x4fff, 0x7000, .usable⟩,
      ⟨0x7000, 0x9000, .bootloader⟩] :=
  tally (by decide) (by decide)

/-- One region has the size of a frame, but no frame has room in it. -/
theorem straddling_counts :
    (∀ region ∈ [(⟨1, 4097, .usable⟩ : Region)], region.Addressable) ∧
      [(⟨1, 4097, .usable⟩ : Region)].Pairwise Region.Disjoint ∧
      (start [⟨1, 4097, .usable⟩]).usable = .ok 1 ∧ (start [⟨1, 4097, .usable⟩]).HandsOut 0 ∧
      ¬ ∃ n, (start [⟨1, 4097, .usable⟩]).HandsOut n ∧
        (start [⟨1, 4097, .usable⟩]).usable = .ok n := by
  have hcount : (start [⟨1, 4097, .usable⟩]).usable = .ok 1 := by decide
  have hnone : ((start [⟨1, 4097, .usable⟩]).allocateMany 2).1[0]? = some (.ok none) := by decide
  refine ⟨by decide, by decide, hcount, ⟨nofun, by decide⟩, ?_⟩
  rintro ⟨n, hhands, hreported⟩
  obtain rfl : 1 = n := Except.ok.inj (hcount.symm.trans hreported)
  obtain ⟨frame, hframe⟩ := hhands.given 0 (by decide)
  rw [hnone] at hframe
  exact nomatch hframe

end Frames

end TaskKernel.Memory
