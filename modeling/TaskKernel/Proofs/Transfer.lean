import TaskKernel.Proofs.Runs

/-!
# Saving a context and going on with one

What the two halves of a transfer do, each as a whole.

* While a context is saved, everything that is not yet saved is still as the caller had it
  (`Saving`). One lemma for each way to save a register; the only registers that are used on the way
  are used after they have been saved. At the end the caller's state is kept in the context
  (`leads_saveContext`).
* A context in which a state is kept is enough to go on in that state (`leads_resumeContext`),
  provided that the stack on which the interrupt frame is built is not part of it.
-/

namespace TaskKernel.Processor

open Memory

variable {rule : FlagRule} {s u w : State} {i : Instruction}

/-! ## Saving -/

/-- The caller's state `s` is being saved into the context to which `rsi` points. What is saved is
kept there. The scratch register and the flags are the caller's until they have been saved, and
everything else is so throughout; the place to return to is on the stack. -/
structure Saving (s w : State) (saved : List Register) : Prop where
  get : ∀ r ∈ saved, (w.memory.readContext (s.general .rsi)).get r = s.register r
  general : ∀ q, q ≠ .rsp → q ≠ .rax ∨ .rax ∉ saved → w.general q = s.general q
  rsp : w.general .rsp = s.general .rsp - 8
  top : w.top = s.place
  flags : .rflags ∉ saved → w.flags = s.flags
  selector : w.selector = s.selector
  root : w.root = s.root
  fx : w.fx = s.fx

/-- A context may be saved at `rsi`: it does not overlap the 48 bytes below the stack. -/
abbrev SavesApart (s : State) : Prop :=
  Apart (s.general .rsi) Context.bytes (s.general .rsp - 48) 48

variable {saved : List Register}

theorem saving_call (s : State) : Saving s s.call [] where
  get _ hr := absurd hr List.not_mem_nil
  general _ hq _ := if_neg hq
  rsp := rfl
  top := readWord_writeWord _ _ _
  flags _ := rfl
  selector := rfl
  root := rfl
  fx := rfl

theorem Saving.rsi (h : Saving s w saved) : w.general .rsi = s.general .rsi :=
  h.general .rsi (by decide) (.inl (by decide))

/-- Where a field of the context lies. -/
theorem Saving.locate (h : Saving s w saved) (r : Register) :
    w.locate (field .rsi r) = s.general .rsi + UInt64.ofNat r.offset := by
  rw [State.locate, field, h.rsi]

/-- The place to return to is not part of the context. -/
theorem SavesApart.top (ha : SavesApart s) :
    Apart (s.general .rsi) Context.bytes (s.general .rsp - 8) 8 := by
  have h := Apart.part (j := 40) (l := 8) ha (by omega) (by omega)
  rwa [show s.general .rsp - 48 + UInt64.ofNat 40 = s.general .rsp - 8 by grind] at h

/-- Nor is the place below it. -/
theorem SavesApart.belowTop (ha : SavesApart s) :
    Apart (s.general .rsi) Context.bytes (s.general .rsp - 8 - 8) 8 := by
  have h := Apart.part (j := 32) (l := 8) ha (by omega) (by omega)
  rwa [show s.general .rsp - 48 + UInt64.ofNat 32 = s.general .rsp - 8 - 8 by grind] at h

/-- A register that is intact is saved by a store. -/
theorem Saving.store (h : Saving s w saved) (ha : SavesApart s) (r : Register) (value : UInt64)
    (hvalue : value = s.register r) :
    Saving s { w with memory := w.memory.writeWord (w.locate (field .rsi r)) value }
      (r :: saved) where
  get q hq := by
    rw [h.locate, readContext_writeField, Context.get_set, hvalue]
    split
    · next hrq => rw [hrq]
    · next hrq => exact h.get q ((List.mem_cons.mp hq).resolve_left (Ne.symm hrq))
  general q hq hrax := h.general q hq (hrax.imp_right fun hn => (hn <| List.mem_cons_of_mem r ·))
  rsp := h.rsp
  top := by
    have hfield := Apart.part (j := r.offset) (l := 8) ha.top.symm
      (by have := r.offset_add_le; rw [Context.bytes]; omega) (by omega)
    rw [← h.top, State.top, State.top, h.locate, h.rsp]
    exact (sameOn_writeWord hfield).readWord
  flags hn := h.flags (hn <| List.mem_cons_of_mem r ·)
  selector := h.selector
  root := h.root
  fx := h.fx

/-- Once the scratch register is saved it may be used. -/
theorem Saving.scratch (h : Saving s w saved) (hrax : .rax ∈ saved) (value : UInt64) :
    Saving s (w.set .rax value) saved where
  get := h.get
  general q hq hn := by
    have hne : q ≠ .rax := hn.resolve_right (not_not_intro hrax)
    rw [State.general_set, if_neg hne]
    exact h.general q hq hn
  rsp := h.rsp
  top := h.top
  flags := h.flags
  selector := h.selector
  root := h.root
  fx := h.fx

/-- Once the flags are saved they may change. -/
theorem Saving.changeFlags (h : Saving s w saved) (hflags : .rflags ∈ saved) (flags : UInt64) :
    Saving s { w with flags := flags } saved :=
  { h with flags := (absurd hflags ·) }

/-- A general register is saved by a store. -/
theorem Saving.storeGeneral (h : Saving s w saved) (ha : SavesApart s) {q : General}
    (hq : q ≠ .rsp ∧ (q ≠ .rax ∨ .rax ∉ saved)) :
    Leads rule w [.store (field .rsi q.slot) q] fun t => Saving s t (q.slot :: saved) := by
  have hvalue : w.general q = s.register q.slot := by
    rw [register_general]
    exact h.general q hq.1 hq.2
  exact leads_cons rfl (leads_nil (h.store ha q.slot _ hvalue))

/-- Registers that the routine does not use are saved by a store each. -/
theorem Saving.stores (h : Saving s w saved) (ha : SavesApart s) (l : List General)
    (hl : ∀ q ∈ l, q ≠ .rsp ∧ q ≠ .rax) :
    Leads rule w (l.flatMap fun q => [.store (field .rsi q.slot) q])
      fun t => Saving s t ((l.map General.slot).reverse ++ saved) :=
  leads_each (fun saved t => Saving s t saved) l h fun q hq _ _ _ ht =>
    ht.storeGeneral ha ⟨(hl q hq).1, .inl (hl q hq).2⟩

/-- A register is saved by way of the scratch register. -/
theorem Saving.viaScratch (h : Saving s w saved) (ha : SavesApart s) (hrax : .rax ∈ saved)
    {r : Register} (hi : i.execute rule w = some (w.set .rax (s.register r))) :
    Leads rule w [i, .store (field .rsi r) .rax] fun t => Saving s t (r :: saved) :=
  leads_cons hi (leads_cons rfl (leads_nil ((h.scratch hrax _).store ha r _ rfl)))

/-- A word below the place to return to is not part of anything. -/
theorem Saving.writeBelow (h : Saving s w saved) (ha : SavesApart s) (value : UInt64) :
    Saving s { w with memory := w.memory.writeWord (s.general .rsp - 8 - 8) value } saved where
  get r hr := by
    rw [(sameOn_writeWord ha.belowTop).readContext]
    exact h.get r hr
  general := h.general
  rsp := h.rsp
  top := by
    rw [← h.top, State.top, State.top, h.rsp]
    exact (sameOn_writeWord (apart_below _ (by decide) (by decide))).readWord
  flags := h.flags
  selector := h.selector
  root := h.root
  fx := h.fx

/-- The flags are saved by way of the stack. -/
theorem Saving.saveFlags (h : Saving s w saved) (ha : SavesApart s) (hflags : .rflags ∉ saved) :
    Leads rule w [.pushFlags, .popMemory (field .rsi .rflags)]
      fun t => Saving s t (.rflags :: saved) := by
  have hpop : (Instruction.popMemory (field .rsi .rflags)).execute rule (w.push w.flags) =
      some { ((w.push w.flags).drop 1) with
        memory := (w.push w.flags).memory.writeWord
          (((w.push w.flags).drop 1).locate (field .rsi .rflags)) (w.push w.flags).top } := rfl
  rw [State.drop_push, State.top, State.general_push, if_pos rfl, State.memory_push,
    readWord_writeWord, h.rsp] at hpop
  exact leads_cons rfl (leads_cons hpop
    (leads_nil ((h.writeBelow ha w.flags).store ha .rflags _ (h.flags hflags))))

/-- The stack pointer after the return is computed from the one before. -/
theorem Saving.address_return (h : Saving s w saved) :
    (Instruction.address .rax ⟨.rsp, 8⟩).execute rule w =
      some (w.set .rax (s.register .rsp)) := by
  rw [Instruction.execute, State.locate, h.rsp, UInt64.sub_add_cancel]
  rfl

theorem Saving.readRoot (h : Saving s w saved) :
    (Instruction.readRoot .rax).execute rule w = some (w.set .rax (s.register .cr3)) := by
  rw [Instruction.execute, h.root]
  rfl

/-- The place to return to is on top of the stack. -/
theorem Saving.load_return (h : Saving s w saved) :
    (Instruction.load .rax ⟨.rsp, 0⟩).execute rule w = some (w.set .rax (s.register .rip)) := by
  rw [Instruction.execute, State.locate, UInt64.add_zero, ← State.top, h.top]
  rfl

/-- Selectors are saved by way of the scratch register. It is made zero first, which changes the
flags, and from then on nothing but its low half is in use. -/
theorem Saving.selectors (h : Saving s w saved) (ha : SavesApart s) (hrax : .rax ∈ saved)
    (hflags : .rflags ∈ saved) (l : List Selector) :
    Leads rule w
      (.clear .rax ::
        l.flatMap fun x => [.readSelector .rax x, .store (field .rsi x.slot) .rax])
      fun t => Saving s t ((l.map Selector.slot).reverse ++ saved) := by
  have hclear : Saving s (w.compute rule .rax 0) saved :=
    (h.scratch hrax 0).changeFlags hflags (rule w.flags 0)
  let Ready (saved : List Register) (t : State) : Prop :=
    Saving s t saved ∧ .rax ∈ saved ∧ ∃ x : UInt16, t.general .rax = x.toUInt64
  refine leads_cons rfl ((leads_each Ready l ⟨hclear, hrax, 0, rfl⟩ ?_).mono fun t ht => ht.1)
  rintro y - sofar t - ⟨ht, hmem, x, hx⟩
  have hread : (Instruction.readSelector .rax y).execute rule t =
      some (t.set .rax (s.register y.slot)) := by
    rw [Instruction.execute, hx, withLowHalf_toUInt64, ht.selector, register_selector]
  exact leads_cons hread (leads_cons rfl (leads_nil ⟨(ht.scratch hmem _).store ha y.slot _ rfl,
    List.mem_cons_of_mem _ hmem, s.selector y, register_selector s y⟩))

/-- The image comes last, and with it the whole state is kept. -/
theorem Saving.saveImage (h : Saving s w saved) (haligned : imageAligned (s.general .rsi))
    (hall : ∀ r, r ≠ .reserved → r ∈ saved) :
    Leads rule w [.saveImage (image .rsi)] fun t =>
      s.KeptIn (t.memory.readContext (s.general .rsi)) ∧ t.general = w.general := by
  have hplace : w.locate (image .rsi) =
      s.general .rsi + UInt64.ofNat (8 * Register.count) := by
    rw [State.locate, image, h.rsi]
  have hsave : (Instruction.saveImage (image .rsi)).execute rule w =
      some { w with
        memory := w.memory.writeBytes (s.general .rsi + UInt64.ofNat (8 * Register.count))
          w.fx.toList } := by
    rw [Instruction.execute, hplace, if_pos (imageAligned_image haligned)]
  refine leads_cons hsave (leads_nil ⟨?_, rfl⟩)
  rw [readContext_writeImage]
  refine ⟨fun r hr => ?_, h.fx⟩
  rw [Context.get_mk_registers (w.memory.readContext _)]
  exact h.get r (hall r hr)

/-- Saved is the state to which the routine returns. The stack and the register that points to the
other context are as they were. -/
theorem leads_saveContext (rule : FlagRule) (s : State) (ha : SavesApart s)
    (haligned : imageAligned (s.general .rsi)) :
    Leads rule s.call saveContext fun t =>
      s.KeptIn (t.memory.readContext (s.general .rsi)) ∧ t.general .rdi = s.general .rdi ∧
        t.general .rsp = s.general .rsp - 8 := by
  -- The scratch register comes first, and the flags come before the instruction that changes them.
  have hrax : Leads rule s.call _ fun t => Saving s t [.rax] :=
    (saving_call s).storeGeneral ha (q := .rax) (by decide)
  have hgeneral := hrax.append fun t h => h.stores ha [.rbx, .rcx, .rdx, .rdi, .rsi] (by decide)
  have hrsp := hgeneral.append fun t h => h.viaScratch ha (by decide) (r := .rsp) h.address_return
  have hothers := hrsp.append fun t h => h.stores ha
    [.rbp, .r8, .r9, .r10, .r11, .r12, .r13, .r14, .r15] (by decide)
  have hroot := hothers.append fun t h => h.viaScratch ha (by decide) (r := .cr3) h.readRoot
  have hplace := hroot.append fun t h => h.viaScratch ha (by decide) (r := .rip) h.load_return
  have hflags := hplace.append fun t h => h.saveFlags ha (by decide)
  have hselectors := hflags.append fun t h =>
    h.selectors ha (by decide) (by decide) [.cs, .ss, .fs, .gs]
  have hcode : saveContext = saveContext.dropLast ++ [.saveImage (image .rsi)] := rfl
  rw [hcode]
  refine Leads.append hselectors fun t h => ?_
  refine (h.saveImage haligned (fun r hr => ?_)).mono fun v ⟨hkept, hsame⟩ => ⟨hkept, ?_, ?_⟩
  · cases r <;> first | exact absurd rfl hr | decide
  · rw [hsame]
    exact h.general .rdi (by decide) (.inl (by decide))
  · rw [hsame]
    exact h.rsp

/-! ## Going on -/

/-- Fields of a context go to the stack. They are what the context held before, if the stack does
not run into it. -/
theorem leads_pushFields (w : State) (fields : List Register) :
    Leads rule w (fields.map fun r => .pushMemory (field .rdi r)) fun t =>
      ∃ words : List UInt64, words.length = fields.length ∧ t = words.foldl State.push w ∧
        ∀ {low : UInt64} {room free : Nat}, Apart (w.general .rdi) Context.bytes low room →
          w.general .rsp = low + UInt64.ofNat free → free ≤ room → 8 * fields.length ≤ free →
          words = fields.map (w.memory.readContext (w.general .rdi)).get := by
  induction fields generalizing w with
  | nil => exact leads_nil ⟨[], rfl, rfl, fun _ _ _ _ => rfl⟩
  | cons r rest ih =>
    let word := w.memory.readWord (w.locate (field .rdi r))
    refine leads_cons rfl ((ih (w.push word)).mono ?_)
    rintro t ⟨words, hlength, ht, hwords⟩
    refine ⟨word :: words, congrArg Nat.succ hlength, ht, ?_⟩
    intro low room free ha htop hfree hfit
    rw [List.length_cons] at hfit
    have hnext := rsp_push htop (by omega) word
    have hsame : SameOn w.memory (w.push word).memory (w.general .rdi) Context.bytes :=
      sameOn_pushes ha htop [word] hfree (by rw [List.length_singleton]; omega)
    rw [List.map_cons, hwords ha hnext (by omega) (by omega), State.general_push,
      if_neg (by decide), hsame.readContext, get_readContext]
    rfl

/-- General registers are read from a context, one after another. -/
theorem run_loadFields (w : State) (l : List General) (hl : .rdi ∉ l) :
    run rule w (l.map fun q => .load q (field .rdi q.slot)) =
      some { w with
        general := fun q =>
          if q ∈ l then (w.memory.readContext (w.general .rdi)).get q.slot else w.general q } := by
  induction l generalizing w with
  | nil => simp
  | cons q rest ih =>
    obtain ⟨hq, hrest⟩ : General.rdi ≠ q ∧ General.rdi ∉ rest := by simpa using hl
    have hload : (Instruction.load q (field .rdi q.slot)).execute rule w =
        some (w.set q ((w.memory.readContext (w.general .rdi)).get q.slot)) := by
      rw [get_readContext]
      rfl
    rw [List.map_cons, run_cons, hload, Option.bind_some, ih _ hrest]
    simp only [State.general_set, if_neg hq, State.memory_set]
    have hgeneral (c : Context) (x : General) :
        (if x ∈ rest then c.get x.slot else if x = q then c.get q.slot else w.general x) =
          if x ∈ q :: rest then c.get x.slot else w.general x := by
      grind
    simp only [hgeneral]
    rfl

/-- What is not a general register has been taken from the context to which `rdi` points, for which
nothing but the scratch register was used. -/
structure Resuming (w t : State) : Prop where
  rdi : t.general .rdi = w.general .rdi
  rsp : t.general .rsp = w.general .rsp
  memory : t.memory = w.memory
  fx : t.fx = (w.memory.readContext (w.general .rdi)).fx
  root : t.root = (w.memory.readContext (w.general .rdi)).get .cr3
  fs : t.selector .fs = ((w.memory.readContext (w.general .rdi)).get .fs).toUInt16
  gs : t.selector .gs = ((w.memory.readContext (w.general .rdi)).get .gs).toUInt16

theorem leads_loadSpecial (w : State) (haligned : imageAligned (w.general .rdi)) :
    Leads rule w
      [.restoreImage (image .rdi),
        .load .rax (field .rdi .cr3), .writeRoot .rax,
        .load .rax (field .rdi .fs), .writeSelector .fs .rax,
        .load .rax (field .rdi .gs), .writeSelector .gs .rax]
      (Resuming w) := by
  have himage : (Instruction.restoreImage (image .rdi)).execute rule w =
      some { w with fx := (w.memory.readContext (w.general .rdi)).fx } := by
    rw [Instruction.execute]
    exact if_pos (imageAligned_image haligned)
  refine leads_cons himage (leads_cons rfl (leads_cons rfl (leads_cons rfl (leads_cons rfl
    (leads_cons rfl (leads_cons rfl (leads_nil ?_)))))))
  exact
    { rdi := rfl
      rsp := rfl
      memory := rfl
      fx := rfl
      root := (get_readContext _ _ .cr3).symm
      fs := congrArg UInt64.toUInt16 (get_readContext _ _ .fs).symm
      gs := congrArg UInt64.toUInt16 (get_readContext _ _ .gs).symm }

/-- After the frame has been built, everything else comes out of the context. -/
theorem leads_resumeRest (w : State) (haligned : imageAligned (w.general .rdi)) :
    Leads rule w (resumeContext.drop 5) fun v => v.memory = w.memory ∧
      ∀ s : State, s.KeptIn (w.memory.readContext (w.general .rdi)) →
        Holds w.memory (w.general .rsp) s.frame → v.context = s.context := by
  let general : List General :=
    [.rax, .rbx, .rcx, .rdx, .rsi, .rbp, .r8, .r9, .r10, .r11, .r12, .r13, .r14, .r15]
  have hcode : resumeContext.drop 5 =
      [.restoreImage (image .rdi),
        .load .rax (field .rdi .cr3), .writeRoot .rax,
        .load .rax (field .rdi .fs), .writeSelector .fs .rax,
        .load .rax (field .rdi .gs), .writeSelector .gs .rax] ++
      (general.map (fun q => .load q (field .rdi q.slot)) ++
      [.load .rdi (field .rdi .rdi), .returnFromInterrupt]) := rfl
  have hgeneral (q : General) (hq : q ≠ .rsp) : q = .rdi ∨ q ∈ general := by
    revert hq; cases q <;> decide
  rw [hcode]
  refine (leads_loadSpecial w haligned).append fun t h => ?_
  have hcontext : t.memory.readContext (t.general .rdi) =
      w.memory.readContext (w.general .rdi) := by
    rw [h.memory, h.rdi]
  refine Leads.append ⟨_, run_loadFields t general (by decide), rfl⟩ ?_
  rintro _ rfl
  rw [hcontext]
  refine leads_cons rfl (leads_cons rfl (leads_nil ⟨h.memory, fun s hkept hframe => ?_⟩))
  have hget (q : General) : (w.memory.readContext (w.general .rdi)).get q.slot = s.general q :=
    (hkept.get q.slot (by cases q <;> decide)).trans (register_general s q)
  have hselector (x : Selector) :
      ((w.memory.readContext (w.general .rdi)).get x.slot).toUInt16 = s.selector x := by
    rw [hkept.get x.slot (by cases x <;> decide), register_selector, UInt16.toUInt16_toUInt64]
  refine context_leaveInterrupt ?_ (fun q hq => ?_) ?_ ?_ ?_ ?_
  · rw [← h.memory, ← h.rsp] at hframe
    exact hframe
  · rcases hgeneral q hq with rfl | hmem
    · have hload := (get_readContext t.memory (t.general .rdi) .rdi).symm
      rw [hcontext] at hload
      exact hload.trans (hget .rdi)
    · have hne : q ≠ .rdi := by rintro rfl; exact absurd hmem (by decide)
      rw [State.general_set, if_neg hne]
      exact (if_pos hmem).trans (hget q)
  · exact h.fs.trans (hselector .fs)
  · exact h.gs.trans (hselector .gs)
  · exact h.root.trans (hkept.get .cr3 (by decide))
  · exact h.fx.trans hkept.fx

/-- To go on with a context touches nothing but the 40 bytes below the stack. The state that is kept
in the context is the one in which the processor goes on, if these bytes are not part of it. -/
theorem leads_resumeContext (rule : FlagRule) (u : State)
    (haligned : imageAligned (u.general .rdi)) :
    Leads rule u resumeContext fun v =>
      (∀ a n, Apart a n (u.general .rsp - 40) 40 → SameOn u.memory v.memory a n) ∧
        (Apart (u.general .rdi) Context.bytes (u.general .rsp - 40) 40 → ∀ s : State,
          s.KeptIn (u.memory.readContext (u.general .rdi)) → v.context = s.context) := by
  have hcode : resumeContext =
      frameRegisters.reverse.map (fun r => .pushMemory (field .rdi r)) ++
        resumeContext.drop 5 := rfl
  have htop : u.general .rsp = u.general .rsp - 40 + UInt64.ofNat 40 := by
    grind
  rw [hcode]
  refine (leads_pushFields u _).append ?_
  rintro t ⟨words, hlength, rfl, hwords⟩
  have hrdi : (words.foldl State.push u).general .rdi = u.general .rdi := by
    rw [general_pushes, if_neg (by decide)]
  refine (leads_resumeRest _ (by rwa [hrdi])).mono fun v ⟨hmemory, hcontext⟩ => ⟨?_, ?_⟩
  · intro a n ha
    rw [hmemory]
    exact sameOn_pushes ha htop words (by omega) (by rw [hlength]; decide)
  · intro ha s hkept
    have hsame := sameOn_pushes ha htop words (by omega) (by rw [hlength]; decide)
    refine hcontext s (by rwa [hrdi, hsame.readContext]) ?_
    have hnone : Holds u.memory (u.general .rsp) [] := trivial
    have hframe := holds_pushes words hnone (by rw [hlength]; decide)
    have hfields : frameRegisters.map (u.memory.readContext (u.general .rdi)).get = s.frame :=
      List.map_congr_left fun r hr =>
        hkept.get r (by rintro rfl; exact absurd hr (by decide))
    have hreversed : words.reverse = s.frame := by
      rw [hwords ha htop (by omega) (by decide), List.map_reverse, List.reverse_reverse, hfields]
    rwa [List.append_nil, hreversed] at hframe

end TaskKernel.Processor
