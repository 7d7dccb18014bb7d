import TaskKernel.Proofs.Requests

/-!
# The first stack of a task

A task starts on a new stack whose only word that is not zero is the address to which its entry
function returns. The place of that word is computed in four checked steps, from any block that is
aligned to words.

* `Stack.Block` — what an allocator guarantees of a block;
* `Stack.Block.pointer_spec` — the arithmetic: the sixteen-byte boundary below the top lies above
  the bottom, because a stack has two words at least;
* `Stack.prepare_eq_ok` — so none of the checked steps fails;
* `Stack.Carries` — the word at the stack pointer, and all others.

What a request for a first stack comes to is `firstStack`.
-/

namespace TaskKernel

namespace Stack

/-- Room for so many words, as an allocator hands it out: it begins at a word of memory, not at
address zero, and the address behind it is a word, too. -/
structure Block (bottom words : Nat) : Prop where
  aligned : 8 ∣ bottom
  positive : 0 < bottom
  ends : bottom + 8 * words < Word.size

/-- Where the stack pointer of a new stack stands: a word below the last sixteen-byte boundary. -/
def firstPointer (bottom words : Nat) : Nat := Word.alignDown (bottom + 8 * words) 16 - 8

theorem two_le_wordsFor (bytes : Nat) : 2 ≤ wordsFor bytes := Nat.le_max_right _ _

variable {bottom words : Nat}

/-- The pointer stands at a word of the stack, eight bytes below an aligned address. -/
theorem Block.pointer_spec (h : Block bottom words) (htwo : 2 ≤ words) :
    8 ≤ Word.alignDown (bottom + 8 * words) 16 ∧
      (firstPointer bottom words + 8) % 16 = 0 ∧
      ∃ slot < words, firstPointer bottom words = bottom + 8 * slot := by
  obtain ⟨base, rfl⟩ := h.aligned
  unfold firstPointer Word.alignDown
  have hlow : 8 * base + 8 * words < 16 * ((8 * base + 8 * words) / 16) + 16 := by omega
  have hhigh : 16 * ((8 * base + 8 * words) / 16) ≤ 8 * base + 8 * words := by omega
  refine ⟨by omega, by omega, 2 * ((8 * base + 8 * words) / 16) - 1 - base, ?_, ?_⟩
  · omega
  · omega

/-- In a block that an allocator hands out, no step of the preparation overflows or leaves it. -/
theorem prepare_eq_ok (h : Block bottom words) (htwo : 2 ≤ words) (returnTo : UInt64) :
    prepare bottom words returnTo =
      .ok (⟨bottom, words, [((firstPointer bottom words - bottom) / 8, returnTo)]⟩,
        firstPointer bottom words) := by
  obtain ⟨hboundary, -, slot, hslot, hpointer⟩ := h.pointer_spec htwo
  have hbytes : Word.mul words 8 = .ok (8 * words) := by
    have hends := h.ends
    exact Word.mul_eq_ok.mpr ⟨by omega, Nat.mul_comm 8 words⟩
  have htop : Word.add bottom (8 * words) = .ok (bottom + 8 * words) :=
    Word.add_eq_ok.mpr ⟨h.ends, rfl⟩
  have hbelow : Word.sub (Word.alignDown (bottom + 8 * words) 16) 8 =
      .ok (firstPointer bottom words) := Word.sub_eq_ok.mpr ⟨hboundary, rfl⟩
  have hoffset : Word.sub (firstPointer bottom words) bottom =
      .ok (firstPointer bottom words - bottom) := by
    exact Word.sub_eq_ok.mpr ⟨by omega, rfl⟩
  have hinside : (firstPointer bottom words - bottom) / 8 < words := by omega
  simp only [prepare, hbytes, htop, hbelow, hoffset, hinside, bind, Except.bind, if_true]
  rfl

/-- A stack pointer stands on a word that holds `returnTo`, aligned as after a call, and every other
word of the stack is zero. -/
structure Carries (stack : Stack) (pointer : Nat) (returnTo : UInt64) : Prop where
  bottom_le : stack.bottom ≤ pointer
  lt_top : pointer < stack.top
  aligned : (pointer + 8) % 16 = 0
  /-- The pointer does not stand between two words. -/
  whole : stack.bottom + 8 * ((pointer - stack.bottom) / 8) = pointer
  inside : (pointer - stack.bottom) / 8 < stack.length
  returns : stack.word? ((pointer - stack.bottom) / 8) = some returnTo
  zero : ∀ place < stack.length, place ≠ (pointer - stack.bottom) / 8 → stack.word? place = some 0

theorem carries_firstPointer (h : Block bottom words) (htwo : 2 ≤ words) (returnTo : UInt64) :
    Carries ⟨bottom, words, [((firstPointer bottom words - bottom) / 8, returnTo)]⟩
      (firstPointer bottom words) returnTo := by
  obtain ⟨-, haligned, slot, hslot, hpointer⟩ := h.pointer_spec htwo
  have hplace : (firstPointer bottom words - bottom) / 8 = slot := by omega
  rw [hplace]
  refine {
    bottom_le := ?low, lt_top := ?high, aligned := haligned, whole := ?whole, inside := ?inside
    returns := ?returns, zero := ?zero }
  case low => show bottom ≤ firstPointer bottom words; omega
  case high => show firstPointer bottom words < bottom + 8 * words; omega
  case whole =>
    show bottom + 8 * ((firstPointer bottom words - bottom) / 8) = firstPointer bottom words
    omega
  case inside => exact hplace ▸ hslot
  case returns =>
    show word? _ ((firstPointer bottom words - bottom) / 8) = _
    rw [hplace, word?, if_pos hslot, List.lookup_cons_self]
    rfl
  case zero =>
    intro place hlt hne
    have hne' : place ≠ slot := hplace ▸ hne
    have hlookup : [(slot, returnTo)].lookup place = none := by
      rw [List.lookup_cons, beq_eq_false_iff_ne.mpr hne']
      rfl
    rw [word?, if_pos hlt, hlookup]
    rfl

theorem prepare_spec (h : Block bottom words) (htwo : 2 ≤ words) (returnTo : UInt64) :
    ∃ stack pointer, prepare bottom words returnTo = .ok (stack, pointer) ∧
      stack.bottom = bottom ∧ stack.length = words ∧ stack.Carries pointer returnTo :=
  ⟨_, _, prepare_eq_ok h htwo returnTo, rfl, rfl, carries_firstPointer h htwo returnTo⟩

end Stack

/-- A context starts a task at its entry function with its two arguments. -/
structure Context.Starts (context : Context) (start : Task.Start) : Prop where
  rip : context.get .rip = start.entry
  rdi : context.get .rdi = start.first
  rsi : context.get .rsi = start.second

theorem Context.starts_entering (platform : Platform) (start : Task.Start) (pointer : UInt64) :
    (entering platform start.entry start.first start.second pointer).Starts start where
  rip := by simp [entering, get_set]
  rdi := by simp [entering, get_set]
  rsi := by simp [entering, get_set]

theorem Context.rsp_entering (platform : Platform) (entry first second pointer : UInt64) :
    (entering platform entry first second pointer).get .rsp = pointer := by
  simp [entering, get_set]

/-- What stops the preparation stops the request, and the dispatcher stays as it was. -/
theorem Dispatcher.prepareWith_of_stopped {d : Dispatcher} {id : TaskId} {task : Task}
    {start : Task.Start} {stackBytes : Nat} {cause : Stop} (hlive : d.tasks[id]? = some task)
    (hstopped : task.prepare start stackBytes d.platform
      ((d.arena.reserve (Stack.wordsFor stackBytes)).map (·.1)) = .error cause) :
    d.prepareWith id start stackBytes = .stop d cause := by
  unfold prepareWith
  simp only [hlive, hstopped]

namespace Task

variable {task : Task} {start : Start} {stackBytes : Nat} {platform : Platform}
  {block : Option Nat}

/-- The task stands at its start on a stack of so many words. -/
structure Fresh (task : Task) (start : Start) (platform : Platform) (bottom words : Nat) :
    Prop where
  bottom_eq : task.stack.bottom = bottom
  length_eq : task.stack.length = words
  carries : task.stack.Carries task.stackPointer platform.taskReturn
  starts : task.context.Starts start

/-- In a block that an allocator hands out, the preparation succeeds. -/
theorem prepare_block (hasleep : task.running = false) {bottom : Nat}
    (hblock : Stack.Block bottom (Stack.wordsFor stackBytes)) :
    ∃ stack context, task.prepare start stackBytes platform (some bottom) =
        .ok { task with stack, context } ∧
      Fresh { task with stack, context } start platform bottom (Stack.wordsFor stackBytes) := by
  obtain ⟨stack, pointer, hstack, hbottom, hlength, hcarries⟩ :=
    Stack.prepare_spec hblock (Stack.two_le_wordsFor stackBytes) platform.taskReturn
  have hword : (UInt64.ofNat pointer).toNat = pointer := by
    have htop : stack.top = bottom + 8 * Stack.wordsFor stackBytes := by
      rw [Stack.top, Stack.size, hbottom, hlength]
    rw [UInt64.toNat_ofNat']
    exact Nat.mod_eq_of_lt (Nat.lt_trans hcarries.lt_top (htop ▸ hblock.ends))
  refine ⟨stack, Context.entering platform start.entry start.first start.second
    (UInt64.ofNat pointer), ?_, hbottom, hlength, ?_, Context.starts_entering platform start _⟩
  · unfold prepare
    simp only [hasleep, hstack, Bool.false_eq_true, if_false]
  · unfold stackPointer
    rw [Context.rsp_entering, hword]
    exact hcarries

theorem prepare_running (hrunning : task.running = true) :
    task.prepare start stackBytes platform block = .error (.refused .alreadyRunning) :=
  if_pos hrunning

theorem prepare_homeless (hasleep : task.running = false) :
    task.prepare start stackBytes platform none = .error (.refused .noStack) := by
  unfold prepare
  simp only [hasleep, Bool.false_eq_true, if_false]

/-- What becomes of a request for a first stack, given the block that the memory offers for it. -/
structure FirstStack (task : Task) (start : Task.Start) (stackBytes : Nat) (platform : Platform)
    (block : Option Nat) : Prop where
  /-- With a block for it, a task that sleeps gets its stack, and nothing else of it changes. -/
  housed : task.running = false → ∀ bottom, block = some bottom →
    ∃ stack context, task.prepare start stackBytes platform block =
        .ok { task with stack, context } ∧
      Fresh { task with stack, context } start platform bottom (Stack.wordsFor stackBytes)
  running : task.running = true →
    task.prepare start stackBytes platform block = .error (.refused .alreadyRunning)
  homeless : task.running = false → block = none →
    task.prepare start stackBytes platform block = .error (.refused .noStack)
  /-- A dispatcher with this task and this room refuses then, and stays as it was. -/
  untouched : ∀ (d : Dispatcher) (id : TaskId), d.tasks[id]? = some task →
    d.platform = platform → (d.arena.reserve (Stack.wordsFor stackBytes)).map (·.1) = block →
    task.running = true ∨ block = none →
    ∃ cause, d.prepareWith id start stackBytes = .stop d (.refused cause)

/-- **A first stack is well formed**: in every block that an allocator can hand out for it, the
preparation succeeds without overflow; the stack pointer stands on the stack, aligned as after a
call, on the one word that is not zero, the task's return address; and the context starts the entry
function with its arguments. A task that runs, or for which there is no block, keeps its stack and
its context. -/
theorem firstStack (task : Task) (start : Task.Start) (stackBytes : Nat) (platform : Platform)
    (block : Option Nat)
    (hblock : ∀ bottom, block = some bottom → Stack.Block bottom (Stack.wordsFor stackBytes)) :
    FirstStack task start stackBytes platform block where
  housed hasleep bottom hsome := by
    rw [hsome]
    exact prepare_block hasleep (hblock bottom hsome)
  running := prepare_running
  homeless hasleep hnone := by
    rw [hnone]
    exact prepare_homeless hasleep
  untouched d id hlive hplatform hroom hstops := by
    have hstopped : ∃ cause, task.prepare start stackBytes platform block =
        .error (.refused cause) := by
      cases hrunning : task.running with
      | true => exact ⟨_, prepare_running hrunning⟩
      | false =>
        have hasleep : ¬ task.running = true := Bool.eq_false_iff.mp hrunning
        have hnone : block = none := hstops.resolve_left hasleep
        rw [hnone]
        exact ⟨_, prepare_homeless hrunning⟩
    obtain ⟨cause, hstopped⟩ := hstopped
    refine ⟨cause, Dispatcher.prepareWith_of_stopped hlive ?_⟩
    rw [hplatform, hroom]
    exact hstopped

/-- The smallest stack in a block that is not aligned to sixteen bytes: the stack pointer stands on
its first word. -/
theorem firstStack_two_words :
    (∀ bottom, some 0x1008 = some bottom → Stack.Block bottom (Stack.wordsFor 0)) ∧
      FirstStack { id := 5 } { entry := 0x4000, first := 1, second := 2 } 0 Platform.simulated
        (some 0x1008) ∧
      Stack.firstPointer 0x1008 (Stack.wordsFor 0) = 0x1008 := by
  have hblock : ∀ bottom, some 0x1008 = some bottom →
      Stack.Block bottom (Stack.wordsFor 0) := by
    intro bottom hsome
    cases hsome
    exact ⟨by decide, by decide, by decide⟩
  exact ⟨hblock, firstStack { id := 5 } _ 0 Platform.simulated (some 0x1008) hblock, by decide⟩

end Task

end TaskKernel
