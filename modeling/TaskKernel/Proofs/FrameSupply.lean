import TaskKernel.Memory.Frames
import Mathlib.Data.List.Sort

/-!
# Which frames are handed out

The allocator walks over the regions with a cursor. What it will hand out from a given state on can
be told without walking: the frames of the first region at or behind the cursor, and then those of
the other regions (`Frames.left`).

* `allocate_spec` — one allocation hands out the first of these and leaves the others.
* `allocateMany_spec` — so several allocations hand them out in order, and then none any more.
* `exactSupply` — from the start these are the aligned frames inside the usable regions, each once.
-/

namespace TaskKernel.Memory

/-- The frame is aligned and lies in the region with all its bytes, and the region is usable. -/
structure Region.Offers (region : Region) (frame : Nat) : Prop where
  usable : region.kind = .usable
  aligned : frameBytes ∣ frame
  start_le : region.start ≤ frame
  le_stop : frame + frameBytes ≤ region.stop

/-- No address lies in both regions. -/
def Region.Disjoint (region other : Region) : Prop :=
  ∀ address, region.start ≤ address → address < region.stop →
    other.start ≤ address → ¬ address < other.stop

/-- The frames of a region, by ascending address. -/
def Region.supply (region : Region) : List Nat :=
  ((List.range (region.stop / frameBytes)).map (· * frameBytes)).filter fun frame =>
    region.kind = .usable ∧ region.start ≤ frame

/-- The region is described as firmware describes memory that the hardware can address. -/
structure Region.Addressable (region : Region) : Prop where
  start_le_stop : region.start ≤ region.stop
  stop_le_limit : region.stop ≤ Frames.addressLimit

instance (region : Region) : Decidable region.Addressable :=
  decidable_of_iff (region.start ≤ region.stop ∧ region.stop ≤ Frames.addressLimit)
    ⟨fun h => ⟨h.1, h.2⟩, fun h => ⟨h.start_le_stop, h.stop_le_limit⟩⟩

variable {region other : Region} {frame cursor : Nat}

namespace Region

theorem mem_supply : frame ∈ region.supply ↔ region.Offers frame := by
  simp only [supply, List.mem_filter, List.mem_map, List.mem_range, decide_eq_true_eq]
  constructor
  · rintro ⟨⟨place, hplace, rfl⟩, husable, hstart⟩
    refine ⟨husable, Nat.dvd_mul_left _ _, hstart, ?_⟩
    have hfits := (Nat.le_div_iff_mul_le (by decide)).mp (Nat.succ_le_of_lt hplace)
    rwa [Nat.succ_mul] at hfits
  · rintro ⟨husable, ⟨place, rfl⟩, hstart, hstop⟩
    refine ⟨⟨place, ?_, Nat.mul_comm _ _⟩, husable, hstart⟩
    refine Nat.lt_of_succ_le ((Nat.le_div_iff_mul_le (by decide)).mpr ?_)
    rwa [Nat.succ_mul, Nat.mul_comm]

theorem sorted_supply (region : Region) : region.supply.Pairwise (· < ·) := by
  refine List.Pairwise.filter _ (List.pairwise_map.mpr ?_)
  refine List.pairwise_lt_range.imp ?_
  intro place next hlt
  exact Nat.mul_lt_mul_of_pos_right hlt (by decide)

theorem supply_of_unusable (h : region.kind ≠ .usable) : region.supply = [] := by
  refine List.eq_nil_iff_forall_not_mem.mpr fun frame hmem => ?_
  exact h (mem_supply.mp hmem).usable

/-- Frames of disjoint regions do not coincide: they would share their first byte. -/
theorem Disjoint.ne_of_offers (h : region.Disjoint other) {frame' : Nat}
    (hframe : region.Offers frame) (hframe' : other.Offers frame') : frame ≠ frame' := by
  rintro rfl
  have hbytes : 0 < frameBytes := by decide
  have hstop := hframe.le_stop
  have hstop' := hframe'.le_stop
  exact h frame hframe.start_le (by omega) hframe'.start_le (by omega)

/-- Within a region the frames are told apart by their order, and across regions by their bytes. -/
theorem nodup_supplies {regions : List Region}
    (h : (regions.filter (·.kind = .usable)).Pairwise Disjoint) :
    (regions.flatMap supply).Nodup := by
  refine List.nodup_flatMap.mpr ⟨fun region _ => (sorted_supply region).imp Nat.ne_of_lt, ?_⟩
  refine (List.pairwise_filter.mp h).imp fun {region other} hdisjoint frame hmem hmem' => ?_
  have hoffers := mem_supply.mp hmem
  have hoffers' := mem_supply.mp hmem'
  refine (hdisjoint ?_ ?_).ne_of_offers hoffers hoffers' rfl
  · exact decide_eq_true hoffers.usable
  · exact decide_eq_true hoffers'.usable

end Region

namespace Frames

/-- The frames of some regions, of the first one only those at or behind the cursor. -/
def supplyBehind (cursor : Nat) : List Region → List Nat
  | [] => []
  | region :: rest => region.supply.filter (cursor ≤ ·) ++ rest.flatMap Region.supply

/-- The frames that are still to be handed out, in order. -/
def left (frames : Frames) : List Nat := supplyBehind frames.cursor frames.remaining

/-- The allocator is in a state in which its sums fit. -/
structure Sound (frames : Frames) : Prop where
  addressable : ∀ region ∈ frames.remaining, region.Addressable
  cursor_le : frames.cursor ≤ addressLimit

theorem supplyBehind_zero (regions : List Region) :
    supplyBehind 0 regions = regions.flatMap Region.supply := by
  cases regions with
  | nil => rfl
  | cons region rest =>
      rw [supplyBehind, List.flatMap_cons, List.filter_eq_self.mpr]
      exact fun frame _ => decide_eq_true (Nat.zero_le frame)

/-! ## One frame -/

/-- The address at which the search in a region begins is rounded up. Nothing overflows. -/
theorem exists_firstFrame (h : region.Addressable) (hcursor : cursor ≤ addressLimit) :
    ∃ first behind, firstFrame region cursor = .ok (first, behind) ∧
      behind = first + frameBytes ∧ frameBytes ∣ first ∧
      max cursor region.start ≤ first ∧ first < max cursor region.start + frameBytes := by
  have hlow : max cursor region.start ≤ addressLimit :=
    max_le hcursor (h.start_le_stop.trans h.stop_le_limit)
  unfold firstFrame
  generalize max cursor region.start = low at hlow ⊢
  -- Both sums stay far below the size of a word, since addresses do.
  have hsizes : addressLimit + 2 * frameBytes < Word.size := by decide
  have hpos : 0 < frameBytes := by decide
  have hdown : Word.alignDown (low + frameBytes - 1) frameBytes ≤ low + frameBytes - 1 :=
    Word.alignDown_le _ _
  have hup : low + frameBytes - 1 < Word.alignDown (low + frameBytes - 1) frameBytes + frameBytes :=
    Nat.lt_div_mul_add hpos
  rw [Word.add_eq_ok.mpr ⟨by omega, rfl⟩]
  refine ⟨Word.alignDown (low + frameBytes - 1) frameBytes, _, ?_, rfl,
    Word.alignDown_dvd _ _, by omega, by omega⟩
  simp only [bind, Except.bind, pure, Except.pure]
  rw [Word.add_eq_ok.mpr ⟨by omega, rfl⟩]

/-- No aligned address lies between the lower bound and the one it was rounded to. -/
theorem le_of_aligned {low first : Nat} (hfirst : frameBytes ∣ first)
    (hnear : first < low + frameBytes) (hframe : frameBytes ∣ frame) (hlow : low ≤ frame) :
    first ≤ frame := by
  unfold frameBytes at hfirst hnear hframe
  omega

/-- Behind the cursor there is nothing left if the rounded frame does not fit. -/
theorem supply_eq_nil {first : Nat} (hfirst : frameBytes ∣ first)
    (hnear : first < max cursor region.start + frameBytes)
    (hfull : ¬ first + frameBytes ≤ region.stop) :
    region.supply.filter (cursor ≤ ·) = [] := by
  refine List.filter_eq_nil_iff.mpr fun frame hmem hcursor => hfull ?_
  have hoffers := Region.mem_supply.mp hmem
  have hle := le_of_aligned hfirst hnear hoffers.aligned
    (max_le (of_decide_eq_true hcursor) hoffers.start_le)
  exact (Nat.add_le_add_right hle _).trans hoffers.le_stop

/-- Else that frame is the first one there, and the others lie behind it. -/
theorem supply_eq_cons {first : Nat} (husable : region.kind = .usable)
    (hfirst : frameBytes ∣ first) (hlow : max cursor region.start ≤ first)
    (hnear : first < max cursor region.start + frameBytes)
    (hfits : first + frameBytes ≤ region.stop) :
    region.supply.filter (cursor ≤ ·) =
      first :: region.supply.filter (first + frameBytes ≤ ·) := by
  obtain ⟨hcursor, hstart⟩ := Nat.max_le.mp hlow
  have hpos : 0 < frameBytes := by decide
  have hsorted := Region.sorted_supply region
  refine (hsorted.filter _).eq_of_mem_iff (List.pairwise_cons.mpr ⟨?_, hsorted.filter _⟩) ?_
  · intro frame hmem
    have hbehind := of_decide_eq_true (List.mem_filter.mp hmem).2
    omega
  · intro frame
    simp only [List.mem_cons, List.mem_filter, Region.mem_supply, decide_eq_true_eq]
    constructor
    · rintro ⟨hoffers, hbehind⟩
      have hle := le_of_aligned hfirst hnear hoffers.aligned (max_le hbehind hoffers.start_le)
      rcases Nat.eq_or_lt_of_le hle with rfl | hlt
      · exact .inl rfl
      · refine .inr ⟨hoffers, ?_⟩
        obtain ⟨place, rfl⟩ := hfirst
        obtain ⟨next, hnext⟩ := hoffers.aligned
        rw [hnext] at hlt ⊢
        exact Nat.mul_le_mul_left _ (Nat.lt_of_mul_lt_mul_left hlt)
    · rintro (rfl | ⟨hoffers, hbehind⟩)
      · exact ⟨⟨husable, hfirst, hstart, hfits⟩, hcursor⟩
      · exact ⟨hoffers, by omega⟩

theorem search_of_unusable (frames : Frames) (h : region.kind ≠ .usable) (rest : List Region) :
    allocate.search frames (region :: rest) cursor = allocate.search frames rest 0 := if_neg h

theorem search_of_found (frames : Frames) {first behind : Nat} (h : region.kind = .usable)
    (hfound : firstFrame region cursor = .ok (first, behind)) (rest : List Region) :
    allocate.search frames (region :: rest) cursor =
      if behind ≤ region.stop then
        ((checkAddress first).map some,
          { frames with remaining := region :: rest, cursor := behind })
      else allocate.search frames rest 0 := by
  refine (if_pos h).trans ?_
  rw [hfound]

/-- The search passes over the regions that have nothing left, and stops at the first that has. -/
theorem search_spec (frames : Frames) {regions : List Region}
    (hregions : ∀ region ∈ regions, region.Addressable) (hcursor : cursor ≤ addressLimit) :
    (allocate.search frames regions cursor).1 = .ok (supplyBehind cursor regions).head? ∧
      (allocate.search frames regions cursor).2.left = (supplyBehind cursor regions).tail ∧
      (allocate.search frames regions cursor).2.Sound := by
  induction regions generalizing cursor with
  | nil => exact ⟨rfl, rfl, hregions, hcursor⟩
  | cons region rest ih =>
      obtain ⟨hregion, hrest⟩ := List.forall_mem_cons.mp hregions
      have hnext := ih hrest (Nat.zero_le _)
      rw [supplyBehind_zero] at hnext
      rw [supplyBehind]
      by_cases husable : region.kind = .usable
      · obtain ⟨first, behind, hfound, hbehind, hfirst, hlow, hnear⟩ :=
          exists_firstFrame hregion hcursor
        rw [search_of_found frames husable hfound]
        by_cases hfits : behind ≤ region.stop
        · have hstop := hregion.stop_le_limit
          have hwithin : first < addressLimit := by
            have hpos : 0 < frameBytes := by decide
            omega
          rw [if_pos hfits, supply_eq_cons husable hfirst hlow hnear (hbehind ▸ hfits), checkAddress,
            if_pos hwithin, ← hbehind]
          exact ⟨rfl, rfl, hregions, hfits.trans hstop⟩
        · rw [if_neg hfits, supply_eq_nil hfirst hnear (hbehind ▸ hfits)]
          exact hnext
      · rw [search_of_unusable frames husable, Region.supply_of_unusable husable]
        exact hnext

/-- An allocation hands out the first of the frames that are left. -/
theorem allocate_spec {frames : Frames} (h : frames.Sound) :
    frames.allocate.1 = .ok frames.left.head? ∧ frames.allocate.2.left = frames.left.tail ∧
      frames.allocate.2.Sound :=
  search_spec frames h.addressable h.cursor_le

/-! ## Several frames -/

/-- The answers of several allocations: the frames that are left, and then none any more. -/
theorem allocateMany_spec {frames : Frames} (h : frames.Sound) (n : Nat) :
    (frames.allocateMany n).1 = (List.range n).map fun i => .ok frames.left[i]? := by
  induction n generalizing frames with
  | zero => rfl
  | succ n ih =>
      obtain ⟨hanswer, hleft, hsound⟩ := allocate_spec h
      show frames.allocate.1 :: (frames.allocate.2.allocateMany n).1 = _
      rw [ih hsound, hanswer, hleft, List.range_succ_eq_map, List.map_cons, List.map_map,
        List.head?_eq_getElem?]
      refine congrArg _ (List.map_congr_left fun i _ => ?_)
      rw [List.getElem?_tail]
      rfl

theorem sound_start {regions : List Region} (h : ∀ region ∈ regions, region.Addressable) :
    (start regions).Sound := ⟨h, Nat.zero_le _⟩

theorem left_start (regions : List Region) :
    (start regions).left = regions.flatMap Region.supply := supplyBehind_zero regions

/-- From these regions exactly the usable frames are handed out. -/
structure ExactSupply (regions : List Region) : Prop where
  /-- What a region has is its usable frames, -/
  offered : ∀ region ∈ regions, ∀ frame, frame ∈ region.supply ↔ region.Offers frame
  /-- by ascending address. -/
  sorted : ∀ region ∈ regions, region.supply.Pairwise (· < ·)
  /-- The answers are these, region by region, and then none for ever. No allocation stops on a
  fault. -/
  answers : ∀ n, ((start regions).allocateMany n).1 =
    (List.range n).map fun i => Except.ok (regions.flatMap Region.supply)[i]?
  /-- Where the usable regions are disjoint, no frame is handed out twice. -/
  once : (regions.filter (·.kind = .usable)).Pairwise Region.Disjoint →
    ∀ n frame, ∀ i j : Nat, i < j →
    ((start regions).allocateMany n).1[i]? = some (Except.ok (some frame)) →
      ((start regions).allocateMany n).1[j]? ≠ some (Except.ok (some frame))

/-- **The allocator hands out exactly the usable frames**, in the order of the regions, whatever
their kinds, their sizes and the alignment of their bounds. -/
theorem exactSupply {regions : List Region} (h : ∀ region ∈ regions, region.Addressable) :
    ExactSupply regions := by
  have hanswers (n : Nat) := allocateMany_spec (sound_start h) n
  rw [left_start] at hanswers
  have hfrom : ∀ {n i : Nat} {frame : Nat},
      ((start regions).allocateMany n).1[i]? = some (Except.ok (some frame)) →
        (regions.flatMap Region.supply)[i]? = some frame := by
    intro n i frame hgiven
    rw [hanswers, List.getElem?_map, Option.map_eq_some_iff] at hgiven
    obtain ⟨place, hplace, hframe⟩ := hgiven
    obtain ⟨_, rfl⟩ := List.getElem?_eq_some_iff.mp hplace
    rw [List.getElem_range] at hframe
    exact Except.ok.inj hframe
  refine ⟨fun _ _ _ => Region.mem_supply, fun region _ => region.sorted_supply, hanswers, ?_⟩
  intro hdisjoint n frame i j hlt hfirst hsecond
  have hnodup := Region.nodup_supplies hdisjoint
  obtain ⟨hi, hatFirst⟩ := List.getElem?_eq_some_iff.mp (hfrom hfirst)
  obtain ⟨hj, hatSecond⟩ := List.getElem?_eq_some_iff.mp (hfrom hsecond)
  exact absurd (hnodup.getElem_inj_iff.mp (hatFirst.trans hatSecond.symm)) (Nat.ne_of_lt hlt)

/-- Regions that begin and end within frames, one that has no frame, one that is empty, and one that
is in use. -/
theorem exactSupply_unaligned :
    ExactSupply [⟨5, 0x3005, .usable⟩, ⟨0x3800, 0x4800, .usable⟩, ⟨0x5000, 0x5000, .usable⟩,
      ⟨0x6000, 0x9000, .bootloader⟩, ⟨0x9fff, 0xb000, .usable⟩] :=
  exactSupply (by decide)

example :
    ((start [⟨5, 0x3005, .usable⟩, ⟨0x3800, 0x4800, .usable⟩, ⟨0x5000, 0x5000, .usable⟩,
      ⟨0x6000, 0x9000, .bootloader⟩, ⟨0x9fff, 0xb000, .usable⟩]).allocateMany 5).1 =
        [.ok (some 0x1000), .ok (some 0x2000), .ok (some 0xa000), .ok none, .ok none] := by
  decide

end Frames

end TaskKernel.Memory
