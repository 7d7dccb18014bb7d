import TaskKernel.Proofs.Transfer

/-!
# The timer's entry

When the timer interrupts a task, a context of the task is built on the stack, below the frame that
the processor pushed, one word after another (`Framing`). Complete, it is the state that was
interrupted (`leads_enterTimer`): what the entry itself has changed is taken from the stack. If the
handler returns, the task goes on from there (`leads_leaveTimer`); if it switches, a copy of the
context will do.

Together with the transfer this is all that can happen to a task that does not run:
`transfer_lossless` says that it does not notice.
-/

namespace TaskKernel.Processor

open Memory

variable {rule : FlagRule} {s e f g t u w : State} {i : Instruction}

/-! ## Interrupts -/

/-- A task was interrupted in state `s`, and `e` is the state in which the handler's entry starts.
The frame from which the processor can go on lies on the stack and ends at an aligned place. What is
not in the frame is as it was. -/
structure Interrupted (s e : State) : Prop where
  frame : Holds e.memory (e.general .rsp) s.frame
  aligned : imageAligned (e.general .rsp + 40)
  general : ∀ q, q ≠ .rsp → e.general q = s.general q
  fs : e.selector .fs = s.selector .fs
  gs : e.selector .gs = s.selector .gs
  root : e.root = s.root
  fx : e.fx = s.fx

theorem imageAligned_roundDown (a : UInt64) : imageAligned (a / 16 * 16) := by
  simp only [imageAligned, beq_iff_eq, ← UInt64.toNat_inj, UInt64.toNat_mod, UInt64.toNat_mul,
    UInt64.toNat_div, UInt64.reduceToNat]
  omega

/-- The processor delivers interrupts so. -/
theorem interrupted_deliver (s : State) : Interrupted s s.deliver := by
  let aligned := s.set .rsp (s.general .rsp / 16 * 16)
  have hdeliver : s.deliver = s.frame.reverse.foldl State.push aligned := rfl
  have hlength : s.frame.reverse.length = 5 := rfl
  have hgeneral (q : General) : s.deliver.general q =
      if q = .rsp then s.general .rsp / 16 * 16 - 40 else s.general q := by
    rw [hdeliver, general_pushes, hlength]
    split
    · rfl
    · next hq => exact if_neg hq
  have hnone : Holds aligned.memory (aligned.general .rsp) [] := trivial
  have hframe := holds_pushes s.frame.reverse hnone (by rw [hlength]; decide)
  rw [List.reverse_reverse, List.append_nil, ← hdeliver] at hframe
  exact
    { frame := hframe
      aligned := by
        rw [hgeneral, if_pos rfl, UInt64.sub_add_cancel]
        exact imageAligned_roundDown _
      general := fun q hq => by rw [hgeneral, if_neg hq]
      fs := rfl
      gs := rfl
      root := rfl
      fx := rfl }

/-! ## The context on the stack -/

/-- Where the context of the interrupted task comes to lie. -/
def contextPlace (e : State) : UInt64 := e.general .rsp - UInt64.ofNat (8 + Context.bytes)

/-- The context of `s` is being built on the stack: these registers are on it, and there is room for
those that are missing. Above them are the floating-point image, the register that now points to
what is above the context, and the frame. The scratch register is as it was until it is on the
stack, and what has not been used is as it was throughout. -/
structure Framing (s e w : State) (pushed : List Register) : Prop where
  fits : pushed.length ≤ Register.count
  rsp : w.general .rsp =
    contextPlace e + UInt64.ofNat (8 * (Register.count - pushed.length))
  holds : Holds w.memory (w.general .rsp) (pushed.map s.register)
  image : w.memory.readImage (contextPlace e + UInt64.ofNat (8 * Register.count)) = s.fx
  rbp : w.general .rbp = contextPlace e + UInt64.ofNat Context.bytes
  above : Holds w.memory (w.general .rbp) (s.general .rbp :: s.frame)
  general : ∀ q, q ≠ .rsp → q ≠ .rbp → q ≠ .rax ∨ .rax ∉ pushed → w.general q = s.general q
  fs : w.selector .fs = s.selector .fs
  gs : w.selector .gs = s.selector .gs
  root : w.root = s.root

variable {pushed : List Register}

theorem contextPlace_image (e : State) :
    contextPlace e + UInt64.ofNat (8 * Register.count) + UInt64.ofNat fxsaveBytes =
      contextPlace e + UInt64.ofNat Context.bytes :=
  UInt64.add_assoc _ _ _

/-- The context comes to lie at an aligned place. -/
theorem Interrupted.place_aligned (h : Interrupted s e) : imageAligned (contextPlace e) := by
  have hframe := h.aligned
  have hdown : contextPlace e = e.general .rsp + 40 - 752 := by
    rw [contextPlace]
    change e.general .rsp - 712 = _
    grind
  rw [hdown]
  simp only [imageAligned, beq_iff_eq, ← UInt64.toNat_inj, UInt64.toNat_mod, UInt64.toNat_sub,
    UInt64.reduceToNat] at hframe ⊢
  omega

/-- The image lies behind the registers, and one more word below the frame. -/
theorem contextPlace_belowFrame (e : State) :
    e.general .rsp - 8 - UInt64.ofNat fxsaveBytes =
      contextPlace e + UInt64.ofNat (8 * Register.count) := by
  have hbytes : UInt64.ofNat (8 + Context.bytes) =
      8 + UInt64.ofNat (8 * Register.count) + UInt64.ofNat fxsaveBytes := rfl
  rw [contextPlace, hbytes]
  grind

/-- What lies above the registers comes first. -/
theorem framing_start (rule : FlagRule) (h : Interrupted s e) :
    Leads rule e
      [.push .rbp, .move .rbp .rsp, .subtract .rsp (UInt64.ofNat fxsaveBytes), .saveImage ⟨.rsp, 0⟩]
      fun t => Framing s e t [] := by
  let place := contextPlace e + UInt64.ofNat (8 * Register.count)
  let pushed := (e.push (e.general .rbp)).memory
  have hplace : e.general .rsp - 8 - UInt64.ofNat fxsaveBytes = place := contextPlace_belowFrame e
  have hzero : e.general .rsp - 8 - UInt64.ofNat fxsaveBytes + 0 = place :=
    (UInt64.add_zero _).trans hplace
  have hrbp : e.general .rsp - 8 = contextPlace e + UInt64.ofNat Context.bytes := by
    rw [← contextPlace_image, ← contextPlace_belowFrame, UInt64.sub_add_cancel]
  have haligned : imageAligned (e.general .rsp - 8 - UInt64.ofNat fxsaveBytes + 0) := by
    rw [hzero]
    exact imageAligned_image h.place_aligned
  have himage (a : UInt64) (ha : a = place) :
      (pushed.writeBytes a e.fx.toList).readImage place = s.fx := by
    rw [ha, readImage_writeBytes, h.fx]
  have habove (a : UInt64) (ha : a = place) :
      Holds (pushed.writeBytes a e.fx.toList) (e.general .rsp - 8)
        (s.general .rbp :: s.frame) := by
    have hpushed : Holds pushed (e.general .rsp - 8) (s.general .rbp :: s.frame) := by
      rw [← h.general .rbp (by decide)]
      exact h.frame.push (by change 8 * (5 + 1) ≤ 1 <<< 64; decide)
    have hapart : Apart (contextPlace e + UInt64.ofNat Context.bytes) 48 place fxsaveBytes :=
      (apart_behind _ (by decide) (by decide) (by decide) (by decide)).symm
    rw [ha]
    refine (sameOn_writeBytes ?_).holds hpushed
    rw [hrbp, Vector.length_toList]
    exact hapart
  refine leads_cons rfl (leads_cons rfl (leads_cons rfl (leads_cons (if_pos haligned)
    (leads_nil ?_))))
  exact
    { fits := Nat.zero_le _
      rsp := hplace
      holds := trivial
      image := himage _ hzero
      rbp := hrbp
      above := habove _ hzero
      general := fun q hrsp hrbp _ => by
        rw [← h.general q hrsp]
        exact (if_neg hrsp).trans ((if_neg hrbp).trans (if_neg hrsp))
      fs := h.fs
      gs := h.gs
      root := h.root }

/-- Where the next word goes. -/
theorem Framing.next (h : Framing s e w pushed) (hroom : pushed.length < Register.count) :
    w.general .rsp - 8 =
      contextPlace e + UInt64.ofNat (8 * (Register.count - (pushed.length + 1))) := by
  have hroom' : 8 * (Register.count - pushed.length) - 8 =
      8 * (Register.count - (pushed.length + 1)) := by omega
  have hnext := rsp_push h.rsp (by omega) 0
  rwa [State.general_push, if_pos rfl, hroom'] at hnext

/-- The next word leaves alone what lies above the registers. -/
theorem Framing.sameOn (h : Framing s e w pushed) (hroom : pushed.length < Register.count)
    (value : UInt64) :
    SameOn w.memory (w.push value).memory (contextPlace e + UInt64.ofNat (8 * Register.count))
      (fxsaveBytes + 48) := by
  have hcount : Register.count = 24 := rfl
  have hbytes : fxsaveBytes = 512 := rfl
  rw [State.memory_push, h.next hroom]
  exact sameOn_writeWord
    (apart_behind _ (by omega) (by omega) (by omega) (by omega)).symm

/-- The next register goes on the stack. -/
theorem Framing.push (h : Framing s e w pushed) (hroom : pushed.length < Register.count)
    (r : Register) : Framing s e (w.push (s.register r)) (r :: pushed) where
  fits := hroom
  rsp := h.next hroom
  holds := h.holds.push (by
    have hcount : Register.count = 24 := rfl
    rw [List.length_map]
    omega)
  image := ((h.sameOn hroom _).take (Nat.le_add_right _ _)).readImage.trans h.image
  rbp := h.rbp
  above := by
    have hsame := (h.sameOn hroom (s.register r)).part (Nat.le_refl (fxsaveBytes + 48))
    rw [contextPlace_image, ← h.rbp] at hsame
    exact hsame.holds h.above
  general q hrsp hrbp hrax := by
    rw [State.general_push, if_neg hrsp]
    exact h.general q hrsp hrbp (hrax.imp_right fun hn => (hn <| List.mem_cons_of_mem r ·))
  fs := h.fs
  gs := h.gs
  root := h.root

/-- Once the scratch register is on the stack it may be used, and the flags may change. -/
theorem Framing.scratch (h : Framing s e w pushed) (hrax : .rax ∈ pushed) (value flags : UInt64) :
    Framing s e { w.set .rax value with flags := flags } pushed where
  fits := h.fits
  rsp := h.rsp
  holds := h.holds
  image := h.image
  rbp := h.rbp
  above := h.above
  general q hrsp hrbp hn := by
    have hne : q ≠ .rax := hn.resolve_right (not_not_intro hrax)
    exact (if_neg hne).trans (h.general q hrsp hrbp hn)
  fs := h.fs
  gs := h.gs
  root := h.root

/-- A register that is as it was goes on the stack. -/
theorem Framing.pushGeneral (h : Framing s e w pushed) (hroom : pushed.length < Register.count)
    {q : General} (hq : (q ≠ .rsp ∧ q ≠ .rbp) ∧ (q ≠ .rax ∨ .rax ∉ pushed)) :
    Leads rule w [.push q] fun t => Framing s e t (q.slot :: pushed) := by
  refine leads_cons ?_ (leads_nil (h.push hroom q.slot))
  rw [Instruction.execute, h.general q hq.1.1 hq.1.2 hq.2, register_general]

theorem Framing.pushes (h : Framing s e w pushed) (l : List General)
    (hroom : pushed.length + l.length ≤ Register.count)
    (hl : ∀ q ∈ l, (q ≠ .rsp ∧ q ≠ .rbp) ∧ q ≠ .rax) :
    Leads rule w (l.flatMap fun q => [.push q])
      fun t => Framing s e t ((l.map General.slot).reverse ++ pushed) :=
  leads_each (fun pushed t => Framing s e t pushed) l h fun q hq _ _ hlt ht =>
    ht.pushGeneral (Nat.lt_of_lt_of_le hlt hroom) ⟨(hl q hq).1, .inl (hl q hq).2⟩

/-- A register that lies above the context goes on the stack once more. -/
theorem Framing.pushAbove (h : Framing s e w pushed) (hroom : pushed.length < Register.count)
    (k : Nat) {r : Register} (hk : (s.general .rbp :: s.frame)[k]? = some (s.register r)) :
    Leads rule w [.pushMemory ⟨.rbp, UInt64.ofNat (8 * k)⟩]
      fun t => Framing s e t (r :: pushed) := by
  obtain ⟨hlt, hr⟩ := List.getElem?_eq_some_iff.mp hk
  refine leads_cons ?_ (leads_nil (h.push hroom r))
  rw [Instruction.execute, State.locate, holds_iff.mp h.above k hlt, hr]

/-- Selectors go on the stack by way of the scratch register. It is made zero first, and from then on
nothing but its low half is in use. -/
theorem Framing.selectors (h : Framing s e w pushed) (hrax : .rax ∈ pushed) (l : List Selector)
    (hroom : pushed.length + l.length ≤ Register.count) (hl : ∀ y ∈ l, y = .fs ∨ y = .gs) :
    Leads rule w (.clear .rax :: l.flatMap fun y => [.readSelector .rax y, .push .rax])
      fun t => Framing s e t ((l.map Selector.slot).reverse ++ pushed) := by
  have hclear : Framing s e (w.compute rule .rax 0) pushed := h.scratch hrax 0 (rule w.flags 0)
  let Ready (pushed : List Register) (t : State) : Prop :=
    Framing s e t pushed ∧ .rax ∈ pushed ∧ ∃ x : UInt16, t.general .rax = x.toUInt64
  refine leads_cons rfl ((leads_each Ready l ⟨hclear, hrax, 0, rfl⟩ ?_).mono fun t ht => ht.1)
  rintro y hy sofar t hlt ⟨ht, hmem, x, hx⟩
  have hselector : t.selector y = s.selector y := by
    rcases hl y hy with rfl | rfl
    · exact ht.fs
    · exact ht.gs
  have hread : (Instruction.readSelector .rax y).execute rule t =
      some (t.set .rax (s.register y.slot)) := by
    rw [Instruction.execute, hx, withLowHalf_toUInt64, hselector, register_selector]
  have hpush := (ht.scratch hmem (s.register y.slot) t.flags).push (Nat.lt_of_lt_of_le hlt hroom) y.slot
  exact leads_cons hread (leads_cons rfl (leads_nil
    ⟨hpush, List.mem_cons_of_mem _ hmem, s.selector y, register_selector s y⟩))

/-- The place that is of no account is left empty. -/
theorem Framing.pushReserved (h : Framing s e w pushed) (hroom : pushed.length < Register.count) :
    Leads rule w [.pushConstant 0] fun t => Framing s e t (.reserved :: pushed) :=
  leads_cons rfl (leads_nil (h.push hroom .reserved))

/-- The page tables go on the stack by way of the scratch register. -/
theorem Framing.pushRoot (h : Framing s e w pushed) (hroom : pushed.length < Register.count)
    (hrax : .rax ∈ pushed) :
    Leads rule w [.readRoot .rax, .push .rax] fun t => Framing s e t (.cr3 :: pushed) := by
  have hread : (Instruction.readRoot .rax).execute rule w =
      some (w.set .rax (s.register .cr3)) := by
    rw [Instruction.execute, h.root]
    rfl
  exact leads_cons hread
    (leads_cons rfl (leads_nil ((h.scratch hrax (s.register .cr3) w.flags).push hroom .cr3)))

/-- The context of an interrupted task lies on the stack, complete, and above it what is needed to
go on without it. -/
structure Framed (s f : State) : Prop where
  context : f.memory.readContext (f.general .rsp) = s.context
  aligned : imageAligned (f.general .rsp)
  rbp : f.general .rbp = f.general .rsp + UInt64.ofNat Context.bytes
  above : Holds f.memory (f.general .rbp) (s.general .rbp :: s.frame)
  fs : f.selector .fs = s.selector .fs
  gs : f.selector .gs = s.selector .gs
  root : f.root = s.root

/-- With all registers on it, the stack holds the context. -/
theorem Framing.framed (h : Framing s e w Register.all)
    (haligned : imageAligned (contextPlace e)) : Framed s w := by
  have hrsp : w.general .rsp = contextPlace e := h.rsp.trans (UInt64.add_zero _)
  have hholds := h.holds
  rw [hrsp] at hholds
  exact
    { context := by
        rw [hrsp]
        refine Context.ext_get (fun r => ?_) h.image
        rw [holds_registers.mp hholds r]
        exact (Context.get_ofRegisters _ _ r).symm
      aligned := by rwa [hrsp]
      rbp := by rw [hrsp, h.rbp]
      above := h.above
      fs := h.fs
      gs := h.gs
      root := h.root }

/-- The entry builds the context of the interrupted task and passes it to the handler. -/
theorem leads_enterTimer (rule : FlagRule) (h : Interrupted s e) :
    Leads rule e enterTimer fun f => Framed s f ∧ f.general .rdi = f.general .rsp := by
  -- The context is built from its end, so its registers come in the order opposite to the layout.
  have hhigh := (framing_start rule h).append fun t h =>
    h.pushes [.r15, .r14, .r13, .r12, .r11, .r10, .r9, .r8] (by decide) (by decide)
  have hrbp := hhigh.append fun t h => h.pushAbove (by decide) 0 (r := .rbp) rfl
  have hrsp := hrbp.append fun t h => h.pushAbove (by decide) 4 (r := .rsp) rfl
  have hlow := hrsp.append fun t h =>
    h.pushes [.rsi, .rdi, .rdx, .rcx, .rbx] (by decide) (by decide)
  have hrax := hlow.append fun t h => h.pushGeneral (by decide) (q := .rax) (by decide)
  have hselectors := hrax.append fun t h =>
    h.selectors (by decide) [.gs, .fs] (by decide) (by decide)
  have hss := hselectors.append fun t h => h.pushAbove (by decide) 5 (r := .ss) rfl
  have hcs := hss.append fun t h => h.pushAbove (by decide) 2 (r := .cs) rfl
  have hreserved := hcs.append fun t h => h.pushReserved (by decide)
  have hrflags := hreserved.append fun t h => h.pushAbove (by decide) 3 (r := .rflags) rfl
  have hrip := hrflags.append fun t h => h.pushAbove (by decide) 1 (r := .rip) rfl
  have hroot := hrip.append fun t h => h.pushRoot (by decide) (by decide)
  have hcode : enterTimer = enterTimer.dropLast ++ [.move .rdi .rsp] := rfl
  rw [hcode]
  refine Leads.append hroot fun t hframing => ?_
  have hframed := hframing.framed h.place_aligned
  exact leads_cons rfl (leads_nil ⟨{ hframed with }, rfl⟩)

/-! ## Going on without the context -/

/-- The handler was called in state `f` and has returned in state `g`. It gives back the registers
that bound the stack frame, and it leaves the segments, the page tables and what lies on the stack
alone. Everything else is its own. -/
structure HandlerReturned (f g : State) : Prop where
  rsp : g.general .rsp = f.general .rsp
  rbp : g.general .rbp = f.general .rbp
  fs : g.selector .fs = f.selector .fs
  gs : g.selector .gs = f.selector .gs
  root : g.root = f.root
  memory : SameOn f.memory g.memory (f.general .rsp) (Context.bytes + 48)

theorem Framed.returned (h : Framed s f) (hg : HandlerReturned f g) : Framed s g where
  context := by
    rw [hg.rsp, (hg.memory.take (Nat.le_add_right _ _)).readContext]
    exact h.context
  aligned := by
    rw [hg.rsp]
    exact h.aligned
  rbp := by
    rw [hg.rbp, hg.rsp]
    exact h.rbp
  above := by
    have hsame := hg.memory.part (Nat.le_refl (Context.bytes + 48))
    rw [← h.rbp] at hsame
    rw [hg.rbp]
    exact hsame.holds h.above
  fs := hg.fs.trans h.fs
  gs := hg.gs.trans h.gs
  root := hg.root.trans h.root

/-- On the way back from the handler: these registers are restored, and the stack pointer has gone
over `k` places of the context. -/
structure Leaving (s g w : State) (restored : List General) (k : Nat) : Prop where
  general : ∀ q ∈ restored, w.general q = s.general q
  rsp : w.general .rsp = g.general .rsp + UInt64.ofNat (8 * k)
  rbp : w.general .rbp = g.general .rbp
  memory : w.memory = g.memory
  selector : w.selector = g.selector
  root : w.root = g.root

variable {restored : List General} {k : Nat}

/-- Places are passed over. -/
theorem Leaving.skip (h : Leaving s g w restored k) (hrsp : .rsp ∉ restored) (n : Nat) :
    Leads rule w [.add .rsp (UInt64.ofNat (8 * n))]
      fun t => Leaving s g t restored (k + n) := by
  refine leads_cons rfl (leads_nil ?_)
  exact
    { general := fun q hq => (if_neg fun he : q = .rsp => hrsp (he ▸ hq)).trans (h.general q hq)
      rsp := by
        rw [Nat.mul_add, UInt64.ofNat_add, ← UInt64.add_assoc, ← h.rsp]
        rfl
      rbp := h.rbp
      memory := h.memory
      selector := h.selector
      root := h.root }

/-- Registers that follow each other in the context are taken from the stack. -/
theorem Leaving.pops (hf : Framed s g) (h : Leaving s g w restored k) (hrsp : .rsp ∉ restored)
    (l : List General) (hl : ∀ q ∈ l, q ≠ .rsp ∧ q ≠ .rbp)
    (hplaces : l.map (fun q => (q.slot.index : Nat)) = List.range' k l.length) :
    Leads rule w (l.map .pop)
      fun t => Leaving s g t (l.reverse ++ restored) (k + l.length) := by
  induction l generalizing w restored k with
  | nil => exact leads_nil h
  | cons q rest ih =>
    obtain ⟨hqrsp, hqrbp⟩ := hl q List.mem_cons_self
    rw [List.map_cons, List.length_cons, List.range'_succ, List.cons.injEq] at hplaces
    have htop : w.top = s.general q := by
      rw [State.top, h.memory, h.rsp, ← hplaces.1, ← Register.offset, ← get_readContext, hf.context,
        State.context, Context.get_ofRegisters, register_general]
    have hpop : Leaving s g ((w.drop 1).set q w.top) (q :: restored) (k + 1) :=
      { general := fun x hx => by
          rw [State.general_set]
          split
          · next hxq => rw [hxq, htop]
          · next hxq =>
            have hmem := (List.mem_cons.mp hx).resolve_left hxq
            exact (if_neg fun he : x = .rsp => hrsp (he ▸ hmem)).trans (h.general x hmem)
        rsp := by
          rw [State.general_set, if_neg (Ne.symm hqrsp), State.drop, State.general_set, if_pos rfl,
            h.rsp, Nat.mul_add, UInt64.ofNat_add, UInt64.add_assoc]
          rfl
        rbp := by
          rw [State.general_set, if_neg (Ne.symm hqrbp)]
          exact h.rbp
        memory := h.memory
        selector := h.selector
        root := h.root }
    have hrest := ih hpop (by grind) (fun x hx => hl x (List.mem_cons_of_mem q hx)) hplaces.2
    rw [List.map_cons, List.reverse_cons, List.append_assoc, List.length_cons,
      show k + (rest.length + 1) = k + 1 + rest.length by omega]
    exact leads_cons rfl hrest

/-- After the handler has returned, the interrupted task goes on. -/
theorem leads_leaveTimer (rule : FlagRule) (h : Framed s g) :
    Leads rule g leaveTimer fun v => v.context = s.context := by
  -- Eight places that hold no general register, six that do, and two of which the frame takes care.
  have hstart : Leaving s g g [] 0 :=
    { general := fun q hq => absurd hq List.not_mem_nil
      rsp := (UInt64.add_zero _).symm
      rbp := rfl
      memory := rfl
      selector := rfl
      root := rfl }
  have hskipped : Leads rule g _ _ := hstart.skip (by decide) 8
  have hlow := hskipped.append fun t ht =>
    ht.pops h (by decide) [.rax, .rbx, .rcx, .rdx, .rdi, .rsi] (by decide) (by decide)
  have hpassed := hlow.append fun t ht => ht.skip (by decide) 2
  have hhigh := hpassed.append fun t ht =>
    ht.pops h (by decide) [.r8, .r9, .r10, .r11, .r12, .r13, .r14, .r15] (by decide) (by decide)
  have hcode : leaveTimer = leaveTimer.take 16 ++
      [.restoreImage ⟨.rsp, 0⟩, .move .rsp .rbp, .pop .rbp, .returnFromInterrupt] := rfl
  rw [hcode]
  refine Leads.append hhigh fun t ht => ?_
  have hplace : t.general .rsp + 0 = g.general .rsp + UInt64.ofNat (8 * Register.count) :=
    (UInt64.add_zero _).trans ht.rsp
  have himage : (Instruction.restoreImage ⟨.rsp, 0⟩).execute rule t =
      some { t with fx := s.fx } := by
    have hfx : t.memory.readImage (t.general .rsp + 0) = s.fx := by
      rw [hplace, ht.memory, ← fx_readContext, h.context]
      rfl
    have haligned : imageAligned (t.general .rsp + 0) := by
      rw [hplace]
      exact imageAligned_image h.aligned
    rw [← hfx]
    exact if_pos haligned
  obtain ⟨hrbp, hframe⟩ := h.above
  rw [← ht.memory, ← ht.rbp] at hrbp hframe
  refine leads_cons himage (leads_cons rfl (leads_cons rfl (leads_cons rfl (leads_nil ?_))))
  refine context_leaveInterrupt hframe (fun q hq => ?_) ?_ ?_ ?_ rfl
  · by_cases hq' : q = .rbp
    · rw [hq']
      exact hrbp
    · refine (if_neg hq').trans ((if_neg hq).trans ((if_neg hq).trans (ht.general q ?_)))
      revert hq hq'
      cases q <;> decide
  · exact (congrFun ht.selector .fs).trans h.fs
  · exact (congrFun ht.selector .gs).trans h.gs
  · exact ht.root.trans h.root

/-! ## Nothing is lost -/

/-- A transfer may be called: what it is given are contexts, so they lie at aligned places, and the
one that is written is allocated, so it is not part of the free stack. -/
structure Callable (s : State) : Prop where
  next_aligned : imageAligned (s.general .rdi)
  current_aligned : imageAligned (s.general .rsi)
  current_apart : SavesApart s

/-- A context is about to be resumed, wherever it lies now: at an aligned place, and the stack in
use does not run into it. -/
structure Resumes (u : State) (c : Context) : Prop where
  context : u.memory.readContext (u.general .rdi) = c
  aligned : imageAligned (u.general .rdi)
  apart : Apart (u.general .rdi) Context.bytes (u.general .rsp - 40) 40

/-- Wherever and whenever a context is resumed in which a state is kept, this state goes on. -/
theorem State.KeptIn.resumed {c : Context} (h : s.KeptIn c) (hu : Resumes u c) :
    ∃ v, run rule u resumeContext = some v ∧ v.context = s.context := by
  obtain ⟨v, hv, -, hcontext⟩ := leads_resumeContext rule u hu.aligned
  exact ⟨v, hv, hcontext hu.apart s (hu.context ▸ h)⟩

/-- A transfer saves the state of its caller. To go on with the other context afterwards does not
touch what was saved. -/
theorem leads_transfer (rule : FlagRule) (h : Callable s) :
    Leads rule s.call transfer
      fun t => s.KeptIn (t.memory.readContext (s.general .rsi)) := by
  refine (leads_saveContext rule s h.current_apart h.current_aligned).append
    fun w ⟨hkept, hrdi, hrsp⟩ => ?_
  refine (leads_resumeContext rule w (hrdi ▸ h.next_aligned)).mono fun v ⟨hsame, _⟩ => ?_
  have hapart : Apart (s.general .rsi) Context.bytes (w.general .rsp - 40) 40 := by
    have hlow := Apart.part (j := 0) (l := 40) h.current_apart (by decide) (by decide)
    rwa [show s.general .rsp - 48 + UInt64.ofNat 0 = w.general .rsp - 40 by rw [hrsp]; grind]
      at hlow
  rwa [(hsame _ _ hapart).readContext]

/-- **No transfer loses anything**, whatever arithmetic does to the flags. Who calls the transfer
goes on after the call, in the state in which it was called, when the context in which it was saved
is resumed. Who is interrupted by the timer goes on in the state in which it was interrupted, either
when a copy of the context on the stack is resumed or when the handler returns. -/
theorem transfer_lossless (rule : FlagRule) :
    (∀ s, Callable s →
      ∃ t, run rule s.call transfer = some t ∧
        ∀ u, Resumes u (t.memory.readContext (s.general .rsi)) →
          ∃ v, run rule u resumeContext = some v ∧ v.context = s.context) ∧
    (∀ s e, Interrupted s e →
      ∃ f, run rule e enterTimer = some f ∧
        f.memory.readContext (f.general .rdi) = s.context ∧ imageAligned (f.general .rdi) ∧
        (∀ u, Resumes u (f.memory.readContext (f.general .rdi)) →
          ∃ v, run rule u resumeContext = some v ∧ v.context = s.context) ∧
        ∀ g, HandlerReturned f g →
          ∃ v, run rule g leaveTimer = some v ∧ v.context = s.context) := by
  constructor
  · intro s hs
    obtain ⟨t, ht, hkept⟩ := leads_transfer rule hs
    exact ⟨t, ht, fun u hu => hkept.resumed hu⟩
  · intro s e he
    obtain ⟨f, hf, hframed, hrdi⟩ := leads_enterTimer rule he
    have hcontext : f.memory.readContext (f.general .rdi) = s.context := by
      rw [hrdi]
      exact hframed.context
    refine ⟨f, hf, hcontext, hrdi ▸ hframed.aligned, fun u hu => ?_, fun g hg => ?_⟩
    · rw [hcontext] at hu
      exact (keptIn_context s).resumed hu
    · exact leads_leaveTimer rule (hframed.returned hg)

/-- A task in the middle of its work, with two contexts below its stack. -/
def busy : State where
  general
    | .rdi => 0x2000
    | .rsi => 0x1000
    | .rsp => 0x9008
    | _ => 0x1234
  selector _ := 0x10
  place := 0x400000
  flags := 0x202
  root := 0x100000
  fx := Vector.replicate _ 0x7f
  memory _ := 0

/-- Arithmetic that notes whether the result is zero and forgets everything else. -/
def zeroFlag : FlagRule := fun _ result => if result = 0 then 0x40 else 0

theorem transfer_lossless_busy :
    (∃ t, run zeroFlag busy.call transfer = some t ∧
      ∃ v, run zeroFlag ((t.set .rdi 0x1000).set .rsp 0x8000) resumeContext = some v ∧
        v.context = busy.context) ∧
    ∃ f, run zeroFlag busy.deliver enterTimer = some f ∧
      f.memory.readContext (f.general .rdi) = busy.context ∧
      (∃ v, run zeroFlag (f.set .rsp (f.general .rdi)) resumeContext = some v ∧
        v.context = busy.context) ∧
      ∃ v, run zeroFlag f leaveTimer = some v ∧ v.context = busy.context := by
  obtain ⟨hcalled, hinterrupted⟩ := transfer_lossless zeroFlag
  constructor
  · obtain ⟨t, ht, hresumed⟩ := hcalled busy ⟨by decide, by decide, by decide⟩
    have haligned : imageAligned 0x1000 := by decide
    have hapart : Apart 0x1000 Context.bytes (0x8000 - 40) 40 := by decide
    exact ⟨t, ht, hresumed _ ⟨rfl, haligned, hapart⟩⟩
  · obtain ⟨f, hf, hcontext, haligned, hresumed, hreturned⟩ :=
      hinterrupted busy busy.deliver (interrupted_deliver busy)
    have hapart : Apart (f.general .rdi) Context.bytes (f.general .rdi - 40) 40 :=
      apart_below _ (by decide) (by decide)
    exact ⟨f, hf, hcontext, hresumed _ ⟨rfl, haligned, hapart⟩,
      hreturned f ⟨rfl, rfl, rfl, rfl, rfl, SameOn.refl _ _ _⟩⟩

end TaskKernel.Processor
