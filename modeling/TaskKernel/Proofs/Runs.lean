import TaskKernel.Processor.Routines
import TaskKernel.Proofs.Words

/-!
# Runs of the processor

How runs are put together, and what is common to all routines.

* Code leads to a state in which something holds (`Leads`). A routine is cut into pieces by `append`,
  and where it treats one register like another, `leads_each` says so once.
* The places of the processor's registers in a context, and what it means that a state is kept there
  (`State.KeptIn`).
* The stack: words that have been pushed lie in a row, and nothing else has changed. An interrupt
  frame on it supplies what the registers do not have (`context_leaveInterrupt`).
-/

namespace TaskKernel.Processor

open Memory

/-! ## Runs -/

/-- Carrying out the code leads to a state in which `P` holds. -/
def Leads (rule : FlagRule) (s : State) (code : List Instruction) (P : State → Prop) : Prop :=
  ∃ t, run rule s code = some t ∧ P t

variable {rule : FlagRule} {s t w : State} {code rest : List Instruction} {i : Instruction}
  {P Q : State → Prop}

theorem leads_nil (h : P s) : Leads rule s [] P := ⟨s, rfl, h⟩

theorem leads_cons (hi : i.execute rule s = some t) (h : Leads rule t rest P) :
    Leads rule s (i :: rest) P := by
  obtain ⟨v, hv, hP⟩ := h
  exact ⟨v, by rw [run_cons, hi, Option.bind_some, hv], hP⟩

theorem Leads.append (h : Leads rule s code P) (hrest : ∀ t, P t → Leads rule t rest Q) :
    Leads rule s (code ++ rest) Q := by
  obtain ⟨t, ht, hP⟩ := h
  obtain ⟨v, hv, hQ⟩ := hrest t hP
  exact ⟨v, by rw [run_append, ht, Option.bind_some, hv], hQ⟩

theorem Leads.mono (h : Leads rule s code P) (hPQ : ∀ t, P t → Q t) : Leads rule s code Q := by
  obtain ⟨t, ht, hP⟩ := h
  exact ⟨t, ht, hPQ t hP⟩

/-- Pieces of code, each of which adds its register to those of which an invariant speaks. The room that
is left is enough for the pieces that are still to come. -/
theorem leads_each {α : Type} (inv : List Register → State → Prop) {piece : α → List Instruction}
    {register : α → Register} (l : List α) {done : List Register} (h : inv done w)
    (hpiece : ∀ a ∈ l, ∀ (sofar : List Register) (t : State),
      sofar.length < done.length + l.length → inv sofar t →
        Leads rule t (piece a) (inv (register a :: sofar))) :
    Leads rule w (l.flatMap piece) (inv ((l.map register).reverse ++ done)) := by
  induction l generalizing w done with
  | nil => exact leads_nil h
  | cons a rest ih =>
    simp only [List.flatMap_cons, List.map_cons, List.reverse_cons, List.append_assoc]
    refine (hpiece a List.mem_cons_self done w (by simp) h).append fun t ht => ih ht ?_
    intro b hb sofar u hroom
    refine hpiece b (List.mem_cons_of_mem a hb) sofar u ?_
    simp only [List.length_append, List.length_cons, List.length_nil] at hroom ⊢
    omega

/-! ## The places of the registers in a context -/

/-- The place of a general register. -/
def General.slot : General → Register
  | .rax => .rax
  | .rbx => .rbx
  | .rcx => .rcx
  | .rdx => .rdx
  | .rdi => .rdi
  | .rsi => .rsi
  | .rsp => .rsp
  | .rbp => .rbp
  | .r8 => .r8
  | .r9 => .r9
  | .r10 => .r10
  | .r11 => .r11
  | .r12 => .r12
  | .r13 => .r13
  | .r14 => .r14
  | .r15 => .r15

/-- The place of a selector. -/
def Selector.slot : Selector → Register
  | .cs => .cs
  | .ss => .ss
  | .fs => .fs
  | .gs => .gs

@[simp] theorem register_general (s : State) (q : General) : s.register q.slot = s.general q := by
  cases q <;> rfl

@[simp] theorem register_selector (s : State) (x : Selector) :
    s.register x.slot = (s.selector x).toUInt64 := by
  cases x <;> rfl

/-- A state is kept in a context: every register is in its place. The reserved place is of no
account. -/
structure State.KeptIn (s : State) (c : Context) : Prop where
  get : ∀ r, r ≠ .reserved → c.get r = s.register r
  fx : c.fx = s.fx

theorem keptIn_context (s : State) : s.KeptIn s.context :=
  ⟨fun r _ => Context.get_ofRegisters _ _ r, rfl⟩

/-- Two states with the same registers have the same context. -/
theorem context_congr (hgeneral : t.general = s.general) (hselector : t.selector = s.selector)
    (hplace : t.place = s.place) (hflags : t.flags = s.flags) (hroot : t.root = s.root)
    (hfx : t.fx = s.fx) : t.context = s.context := by
  have hregister (r : Register) : t.register r = s.register r := by
    cases r <;> simp only [State.register, hgeneral, hselector, hplace, hflags, hroot]
  exact Context.ext_get (fun r => by simp [State.context, hregister]) hfx

/-! ## Images and half words -/

theorem imageAligned_image {a : UInt64} (ha : imageAligned a) :
    imageAligned (a + UInt64.ofNat (8 * Register.count)) := by
  simp only [imageAligned, beq_iff_eq, ← UInt64.toNat_inj, UInt64.toNat_mod, UInt64.toNat_add,
    UInt64.toNat_ofNat', UInt64.reduceToNat, Register.count] at ha ⊢
  omega

/-- The low half of a word is the whole word if its high half is not in use. -/
theorem withLowHalf_toUInt64 (x y : UInt16) : withLowHalf x.toUInt64 y = y.toUInt64 := by
  have hhigh : x.toUInt64 &&& 0xffffffffffff0000 = 0 := by
    refine UInt64.toNat_inj.mp (Nat.eq_of_testBit_eq fun i => ?_)
    rw [UInt64.toNat_and, Nat.testBit_and]
    rcases Nat.lt_or_ge i 16 with hi | hi
    · have hmask : ∀ i < 16, (0xffffffffffff0000 : UInt64).toNat.testBit i = false := by decide
      rw [hmask i hi, Bool.and_false]
      exact (Nat.zero_testBit i).symm
    · have hx : x.toUInt64.toNat.testBit i = false :=
        Nat.testBit_lt_two_pow (Nat.lt_of_lt_of_le x.toNat_lt (Nat.pow_le_pow_right (by decide) hi))
      rw [hx, Bool.false_and]
      exact (Nat.zero_testBit i).symm
  rw [withLowHalf, hhigh, UInt64.zero_or]

/-! ## The stack -/

theorem general_pushes (words : List UInt64) (s : State) (q : General) :
    (words.foldl State.push s).general q =
      if q = .rsp then s.general .rsp - 8 * UInt64.ofNat words.length else s.general q := by
  induction words generalizing s with
  | nil => simp +contextual
  | cons word rest ih =>
    rw [List.foldl_cons, ih, State.general_push, State.general_push, if_pos rfl, List.length_cons,
      UInt64.ofNat_add]
    split
    · grind
    · rfl

/-- A word takes eight bytes of the room that is free. -/
theorem rsp_push {low : UInt64} {free : Nat} (htop : s.general .rsp = low + UInt64.ofNat free)
    (hfit : 8 ≤ free) (word : UInt64) :
    (s.push word).general .rsp = low + UInt64.ofNat (free - 8) := by
  have hsplit : UInt64.ofNat free = UInt64.ofNat (free - 8) + 8 := by
    rw [← Nat.sub_add_cancel hfit, UInt64.ofNat_add, Nat.add_sub_cancel]
    rfl
  rw [State.general_push, if_pos rfl, htop, hsplit, ← UInt64.add_assoc, UInt64.add_sub_cancel]

/-- Words on the stack leave alone what is apart from the room in which they fit. -/
theorem sameOn_pushes {a low : UInt64} {n room free : Nat} (h : Apart a n low room)
    {s : State} (htop : s.general .rsp = low + UInt64.ofNat free) (words : List UInt64)
    (hfree : free ≤ room) (hfit : 8 * words.length ≤ free) :
    SameOn s.memory (words.foldl State.push s).memory a n := by
  induction words generalizing s free with
  | nil => exact SameOn.refl _ _ _
  | cons word rest ih =>
    rw [List.length_cons] at hfit
    have hnext := rsp_push htop (by omega) word
    have hfirst : SameOn s.memory (s.push word).memory a n := by
      rw [State.general_push, if_pos rfl] at hnext
      rw [State.memory_push, hnext]
      exact sameOn_writeWord (h.part (by omega) (by omega))
    exact hfirst.trans (ih hnext (by omega) (by omega))

/-- Words on the stack lie in a row, the last one first. -/
theorem holds_pushes (words : List UInt64) {above : List UInt64} {s : State}
    (h : Holds s.memory (s.general .rsp) above)
    (hlt : 8 * (words.length + above.length) ≤ 1 <<< 64) :
    Holds (words.foldl State.push s).memory ((words.foldl State.push s).general .rsp)
      (words.reverse ++ above) := by
  induction words generalizing s above with
  | nil => exact h
  | cons word rest ih =>
    rw [List.length_cons] at hlt
    have hpush : Holds (s.push word).memory ((s.push word).general .rsp) (word :: above) :=
      h.push (by omega)
    rw [List.reverse_cons, List.append_assoc]
    exact ih hpush (by rw [List.length_append, List.length_singleton]; omega)

/-- The registers that an interrupt frame holds, from the top of the stack on. -/
def frameRegisters : List Register := [.rip, .cs, .rflags, .rsp, .ss]

/-- The frame of an interrupt from which the processor goes on in a state. -/
def State.frame (s : State) : List UInt64 := frameRegisters.map s.register

/-- An interrupt frame supplies what the other registers do not have. -/
theorem context_leaveInterrupt (hframe : Holds w.memory (w.general .rsp) s.frame)
    (hgeneral : ∀ q, q ≠ .rsp → w.general q = s.general q)
    (hfs : w.selector .fs = s.selector .fs) (hgs : w.selector .gs = s.selector .gs)
    (hroot : w.root = s.root) (hfx : w.fx = s.fx) : w.leaveInterrupt.context = s.context := by
  obtain ⟨hplace, hcs, hflags, hrsp, hss, -⟩ := hframe
  simp only [UInt64.add_assoc, UInt64.reduceAdd] at hcs hflags hrsp hss
  refine context_congr (funext fun q => ?_) (funext fun x => ?_) ?_ hflags hroot hfx
  · rw [State.leaveInterrupt, State.general_set]
    split
    · next hq => rw [hq]; exact hrsp
    · next hq => exact hgeneral q hq
  · cases x with
    | cs => exact (congrArg UInt64.toUInt16 hcs).trans (by simp [State.register])
    | ss => exact (congrArg UInt64.toUInt16 hss).trans (by simp [State.register])
    | fs => exact hfs
    | gs => exact hgs
  · have htop : w.general .rsp + 8 * 0 = w.general .rsp := UInt64.add_zero _
    exact (congrArg w.memory.readWord htop).trans hplace

end TaskKernel.Processor
