import TaskKernel.Processor.State
import Mathlib.Data.List.GetD

/-!
# Words and contexts in memory

What is read after a store. Addresses wrap around, so that two stretches of memory are kept apart by
the distance from either to the other (`Apart`). What is read of a stretch depends on nothing
outside it (`SameOn`), and a store leaves every stretch that is apart as it was.

* A word is read back as it was stored (`readWord_writeWord`), and so is a floating-point image.
* A word that is stored at the place of a register sets this register in the context that is read
  there, and nothing else (`readContext_writeField`).
* Words that follow each other, the stack from its top or a context from its start, are `Holds`.
-/

namespace TaskKernel.Processor.Memory

variable {m m' : Memory} {a b : UInt64} {n k : Nat}

/-! ## Stretches -/

/-- The `n` bytes from `a` on and the `k` bytes from `b` on have none in common. -/
def Apart (a : UInt64) (n : Nat) (b : UInt64) (k : Nat) : Prop :=
  n ≤ (b - a).toNat ∧ k ≤ (a - b).toNat

instance : Decidable (Apart a n b k) := inferInstanceAs (Decidable (_ ∧ _))

theorem Apart.symm (h : Apart a n b k) : Apart b k a n := And.symm h

/-- What is apart from a stretch is apart from every part of it. -/
theorem Apart.part (h : Apart a n b k) {j l : Nat} (hj : j + l ≤ k) (hl : 0 < l) :
    Apart a n (b + UInt64.ofNat j) l := by
  obtain ⟨hn, hk⟩ := h
  have := a.toNat_lt
  have := b.toNat_lt
  constructor <;>
    simp only [UInt64.toNat_sub, UInt64.toNat_add, UInt64.toNat_ofNat'] at hn hk ⊢ <;> omega

/-- Stretches one behind the other, counted from one address, are apart if they do not go round. -/
theorem apart_behind (a : UInt64) {i j : Nat} (hij : i + n ≤ j) (hn : 0 < n)
    (hj : j + k ≤ i + (1 <<< 64)) (hlt : j < 1 <<< 64) :
    Apart (a + UInt64.ofNat i) n (a + UInt64.ofNat j) k := by
  have := a.toNat_lt
  constructor <;>
    simp only [UInt64.toNat_sub, UInt64.toNat_add, UInt64.toNat_ofNat'] <;> omega

/-- What starts at an address is apart from what ends there, if it does not go round. -/
theorem apart_below (a : UInt64) {k : UInt64} (hk : 0 < k.toNat) (hn : n + k.toNat ≤ 1 <<< 64) :
    Apart a n (a - k) k.toNat := by
  have := a.toNat_lt
  have := k.toNat_lt
  constructor <;> simp only [UInt64.toNat_sub] <;> omega

/-- Two memories are the same on the `n` bytes from `a` on. -/
def SameOn (m m' : Memory) (a : UInt64) (n : Nat) : Prop :=
  ∀ i < n, m' (a + UInt64.ofNat i) = m (a + UInt64.ofNat i)

theorem SameOn.refl (m : Memory) (a : UInt64) (n : Nat) : SameOn m m a n := fun _ _ => rfl

theorem SameOn.trans {m'' : Memory} (h : SameOn m m' a n) (h' : SameOn m' m'' a n) :
    SameOn m m'' a n := fun i hi => (h' i hi).trans (h i hi)

/-- Memories that are the same on a stretch are so on every part of it. -/
theorem SameOn.part (h : SameOn m m' a n) {i : Nat} (hi : i + k ≤ n) :
    SameOn m m' (a + UInt64.ofNat i) k := fun j hj => by
  rw [UInt64.add_assoc, ← UInt64.ofNat_add]
  exact h (i + j) (by omega)

theorem SameOn.take (h : SameOn m m' a n) (hk : k ≤ n) : SameOn m m' a k :=
  fun i hi => h i (by omega)

theorem SameOn.readWord (h : SameOn m m' a 8) : m'.readWord a = m.readWord a := by
  have hbytes : (List.range 8).map (fun i => m' (a + UInt64.ofNat i)) =
      (List.range 8).map fun i => m (a + UInt64.ofNat i) :=
    List.map_congr_left fun i hi => h i (List.mem_range.mp hi)
  rw [Memory.readWord, hbytes, ← Memory.readWord]

theorem SameOn.readImage (h : SameOn m m' a fxsaveBytes) : m'.readImage a = m.readImage a := by
  refine Vector.ext fun i hi => ?_
  simpa [Memory.readImage] using h i hi

/-! ## Stores -/

/-- A store leaves alone what is apart from it. -/
theorem sameOn_writeBytes {bytes : List UInt8} (h : Apart a n b bytes.length) :
    SameOn m (m.writeBytes b bytes) a n := by
  intro i hi
  have hbehind : bytes.length ≤ (a + UInt64.ofNat i - b).toNat := by
    obtain ⟨hn, hk⟩ := h
    simp only [UInt64.toNat_sub, UInt64.toNat_add, UInt64.toNat_ofNat'] at hn hk ⊢
    have := a.toNat_lt
    have := b.toNat_lt
    omega
  rw [writeBytes, List.getD_eq_default _ _ hbehind]

theorem sameOn_writeWord {value : UInt64} (h : Apart a n b 8) :
    SameOn m (m.writeWord b value) a n :=
  sameOn_writeBytes (by rwa [Bytes.length_littleEndian])

/-- A byte that was stored is read back. -/
theorem writeBytes_inside {bytes : List UInt8} {i : Nat} (hi : i < bytes.length)
    (hlt : bytes.length ≤ 1 <<< 64) :
    m.writeBytes a bytes (a + UInt64.ofNat i) = bytes[i] := by
  have hplace : (a + UInt64.ofNat i - a).toNat = i := by
    simp only [UInt64.toNat_sub, UInt64.toNat_add, UInt64.toNat_ofNat']
    have := a.toNat_lt
    omega
  rw [writeBytes, hplace, List.getD_eq_getElem _ _ hi]

/-- A word is read back as it was stored. -/
@[simp] theorem readWord_writeWord (m : Memory) (a value : UInt64) :
    (m.writeWord a value).readWord a = value := by
  have hbytes : (List.range 8).map (fun i => m.writeWord a value (a + UInt64.ofNat i)) =
      Bytes.littleEndian 8 value.toNat := by
    refine List.ext_getElem (by simp) fun i hi hi' => ?_
    rw [List.getElem_map, List.getElem_range]
    exact writeBytes_inside hi' (by simp)
  rw [readWord, hbytes, Bytes.ofLittleEndian_littleEndian value.toNat_lt, UInt64.ofNat_toNat]

/-- A floating-point image is read back as it was stored. -/
@[simp] theorem readImage_writeBytes (m : Memory) (a : UInt64) (fx : Vector UInt8 fxsaveBytes) :
    (m.writeBytes a fx.toList).readImage a = fx := by
  refine Vector.ext fun i hi => ?_
  have hlength := fx.length_toList
  have hlt : fx.toList.length ≤ 1 <<< 64 := by rw [hlength]; decide
  rw [readImage, Vector.getElem_ofFn, writeBytes_inside (by rwa [hlength]) hlt,
    Vector.getElem_toList]

/-! ## Contexts -/

@[simp] theorem get_readContext (m : Memory) (a : UInt64) (r : Register) :
    (m.readContext a).get r = m.readWord (a + UInt64.ofNat r.offset) :=
  Context.get_ofRegisters _ _ r

@[simp] theorem fx_readContext (m : Memory) (a : UInt64) :
    (m.readContext a).fx = m.readImage (a + UInt64.ofNat (8 * Register.count)) := rfl

theorem SameOn.readContext (h : SameOn m m' a Context.bytes) :
    m'.readContext a = m.readContext a := by
  refine Context.ext_get (fun r => ?_) ?_
  · rw [get_readContext, get_readContext]
    have hr := r.offset_add_le
    exact (h.part (by rw [Context.bytes]; omega)).readWord
  · exact (h.part (by decide)).readImage

/-- The words of two registers are apart. -/
theorem apart_registers (a : UInt64) {r q : Register} (hrq : r ≠ q) :
    Apart (a + UInt64.ofNat r.offset) 8 (a + UInt64.ofNat q.offset) 8 := by
  have hr : r.offset + 8 ≤ 8 * 24 := r.offset_add_le
  have hq : q.offset + 8 ≤ 8 * 24 := q.offset_add_le
  have hne : (r.index : Nat) ≠ q.index := fun h => hrq (Register.index_injective (Fin.ext h))
  rcases Nat.lt_or_gt_of_ne hne with hlt | hlt
  · exact apart_behind a (by simp only [Register.offset]; omega) (by omega) (by omega) (by omega)
  · exact (apart_behind a (by simp only [Register.offset]; omega) (by omega) (by omega)
      (by omega)).symm

/-- The word of a register is apart from the floating-point image. -/
theorem apart_image (a : UInt64) (r : Register) :
    Apart (a + UInt64.ofNat r.offset) 8 (a + UInt64.ofNat (8 * Register.count)) fxsaveBytes := by
  have hr : r.offset + 8 ≤ 8 * 24 := r.offset_add_le
  refine apart_behind a hr (by omega) ?_ (by decide)
  simp only [fxsaveBytes, Register.count]
  omega

/-- To store a word at the place of a register is to set this register. -/
theorem readContext_writeField (m : Memory) (a : UInt64) (r : Register) (value : UInt64) :
    (m.writeWord (a + UInt64.ofNat r.offset) value).readContext a =
      (m.readContext a).set r value := by
  refine Context.ext_get (fun q => ?_) ?_
  · rw [Context.get_set, get_readContext, get_readContext]
    split
    · next hrq => rw [hrq, readWord_writeWord]
    · next hrq => exact (sameOn_writeWord (apart_registers a (Ne.symm hrq))).readWord
  · rw [Context.fx_set, fx_readContext, fx_readContext]
    exact (sameOn_writeWord (apart_image a r).symm).readImage

/-- To store a floating-point image behind the registers is to set it. -/
theorem readContext_writeImage (m : Memory) (a : UInt64) (fx : Vector UInt8 fxsaveBytes) :
    (m.writeBytes (a + UInt64.ofNat (8 * Register.count)) fx.toList).readContext a =
      ⟨(m.readContext a).registers, fx⟩ := by
  refine Context.ext_get (fun q => ?_) ?_
  · rw [Context.get_mk_registers (m.readContext a), get_readContext, get_readContext]
    refine (sameOn_writeBytes ?_).readWord
    rw [Vector.length_toList]
    exact apart_image a q
  · exact readImage_writeBytes m _ fx

/-! ## Words in a row -/

/-- From an address on, these words follow each other. -/
def Holds (m : Memory) (a : UInt64) : List UInt64 → Prop
  | [] => True
  | word :: rest => m.readWord a = word ∧ Holds m (a + 8) rest

theorem holds_iff {words : List UInt64} :
    Holds m a words ↔
      ∀ (i : Nat) (hi : i < words.length), m.readWord (a + UInt64.ofNat (8 * i)) = words[i] := by
  induction words generalizing a with
  | nil => simp [Holds]
  | cons word rest ih =>
    have hnext (i : Nat) : a + 8 + UInt64.ofNat (8 * i) = a + UInt64.ofNat (8 * (i + 1)) := by
      rw [UInt64.add_assoc, Nat.mul_add, Nat.add_comm, UInt64.ofNat_add]
      rfl
    rw [Holds, ih]
    constructor
    · rintro ⟨hword, hrest⟩ (_ | i) hi
      · rw [Nat.mul_zero]
        simpa using hword
      · rw [← hnext]
        exact hrest i (by simpa using hi)
    · intro h
      refine ⟨by simpa using h 0 (Nat.succ_pos _), fun i hi => ?_⟩
      rw [hnext]
      exact h (i + 1) (by simpa using hi)

/-- Words in a row depend on nothing but where they lie. -/
theorem SameOn.holds {words : List UInt64} (h : SameOn m m' a (8 * words.length))
    (hm : Holds m a words) : Holds m' a words := by
  rw [holds_iff] at hm ⊢
  intro i hi
  rw [(h.part (k := 8) (by omega)).readWord]
  exact hm i hi

/-- A word that is stored in front of words in a row goes first. -/
theorem Holds.push {words : List UInt64} {value : UInt64} (h : Holds m a words)
    (hlt : 8 * (words.length + 1) ≤ 1 <<< 64) :
    Holds (m.writeWord (a - 8) value) (a - 8) (value :: words) := by
  refine ⟨readWord_writeWord _ _ _, ?_⟩
  rw [UInt64.sub_add_cancel]
  exact (sameOn_writeWord (apart_below a (by decide) (by simpa [Nat.mul_add] using hlt))).holds h

/-- A context is its registers in a row, and the image behind them. -/
theorem holds_registers {f : Register → UInt64} :
    Holds m a (Register.all.map f) ↔ ∀ r, (m.readContext a).get r = f r := by
  have hlength : (Register.all.map f).length = Register.count := by rfl
  rw [holds_iff]
  constructor
  · intro h r
    rw [get_readContext, Register.offset, h r.index (by rw [hlength]; exact r.index.isLt),
      List.getElem_map]
    exact congrArg f r.ofIndex_index
  · intro h i hi
    have hr := h (Register.ofIndex ⟨i, hlength ▸ hi⟩)
    rw [get_readContext, Register.offset, Register.index_ofIndex] at hr
    rw [hr, List.getElem_map]
    rfl

end TaskKernel.Processor.Memory
