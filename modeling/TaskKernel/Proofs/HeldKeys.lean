import TaskKernel.Keyboard.Decoder
import Mathlib.Algebra.Ring.Parity
import Mathlib.Data.List.Induction

/-!
# Which keys are held

What the decoder records depends on the events that the bytes complete, and these can be told from
the bytes alone (`Stage.decode`).

* `contains_set_self`, `contains_set_of_disjoint` — no two modifier keys share a bit, so an event
  changes the bit of its own key and no other;
* `Decoder.Follows` — the invariant: the bit of a modifier key says whether the last event of the key
  was a press, and what decides about characters says the same of the shift keys, and of the caps
  lock whether it went down an odd number of times. An event keeps it (`Follows.take`), and so does
  every sequence of bytes (`Follows.reports`), be it well-formed or not.

Hence the modifiers that are reported are the modifier keys that are held (`reportsHeldKeys`).
-/

namespace TaskKernel

namespace Modifiers

variable {keys other : Modifiers}

theorem getElem_set (held keys : Modifiers) (present : Bool) (i : Nat) (hi : i < 8) :
    (held.set keys present).bits.toBitVec[i] =
      if keys.bits.toBitVec[i] = true then present else held.bits.toBitVec[i] := by
  cases present with
  | false => by_cases hkeys : keys.bits.toBitVec[i] = true <;> simp [set, without, hkeys]
  | true => by_cases hkeys : keys.bits.toBitVec[i] = true <;> simp [set, union, hkeys]

theorem contains_iff {held : Modifiers} :
    held.contains other = true ↔
      ∀ i (hi : i < 8), other.bits.toBitVec[i] = true → held.bits.toBitVec[i] = true := by
  unfold contains
  rw [beq_iff_eq, ← UInt8.toBitVec_inj]
  constructor
  · intro hsame i hi hother
    have hbit := congrArg (·[i]) hsame
    simpa [hother] using hbit
  · intro hbits
    refine BitVec.eq_of_getElem_eq fun i hi => ?_
    simpa using hbits i hi

/-- A set of keys that was put in is contained, and one that was taken out is not. -/
theorem contains_set_self (hkeys : keys.bits ≠ 0) (held : Modifiers) (present : Bool) :
    (held.set keys present).contains keys = present := by
  have hbit : ∃ i, ∃ hi : i < 8, keys.bits.toBitVec[i] = true := by
    by_contra hnone
    refine hkeys (UInt8.toBitVec_inj.mp (BitVec.eq_of_getElem_eq fun i hi => ?_))
    simpa using fun h => hnone ⟨i, hi, h⟩
  obtain ⟨i, hi, hbit⟩ := hbit
  rw [Bool.eq_iff_iff, contains_iff]
  constructor
  · intro hall
    have hset := hall i hi hbit
    rwa [getElem_set, if_pos hbit] at hset
  · intro hpresent j hj hother
    rwa [getElem_set, if_pos hother]

/-- Other keys stay as they are. -/
theorem contains_set_of_disjoint (hdisjoint : keys.bits &&& other.bits = 0) (held : Modifiers)
    (present : Bool) : (held.set keys present).contains other = held.contains other := by
  have hapart (i : Nat) (hi : i < 8) (hother : other.bits.toBitVec[i] = true) :
      ¬ keys.bits.toBitVec[i] = true := by
    have hzero := congrArg (fun bits : UInt8 => bits.toBitVec[i]) hdisjoint
    simpa [hother] using hzero
  rw [Bool.eq_iff_iff, contains_iff, contains_iff]
  refine forall_congr' fun i => forall_congr' fun hi => imp_congr_right fun hother => ?_
  rw [getElem_set, if_neg (hapart i hi hother)]

end Modifiers

namespace Keyboard

/-! ## Events -/

/-- The events that some bytes complete, in order, and what was seen of the next one. -/
def Stage.decode (stage : Stage) : List UInt8 → List KeyEvent × Stage
  | [] => ([], stage)
  | byte :: rest =>
    let (event?, stage) := stage.feed byte
    let (others, stage) := stage.decode rest
    (event?.toList ++ others, stage)

theorem Stage.decode_concat (stage : Stage) (bytes : List UInt8) (byte : UInt8) :
    stage.decode (bytes ++ [byte]) =
      ((stage.decode bytes).1 ++ ((stage.decode bytes).2.feed byte).1.toList,
        ((stage.decode bytes).2.feed byte).2) := by
  induction bytes generalizing stage with
  | nil => exact congrArg (·, (stage.feed byte).2) (List.append_nil _)
  | cons first rest ih => simp only [List.cons_append, decode, ih, List.append_assoc]

/-- Whether the key is held after some events: the last one of the key says that it went down. -/
def heldAfter (events : List KeyEvent) (key : Key) : Bool :=
  (events.filter (·.key = key)).getLast?.any (·.press)

/-- How often the key went down. -/
def presses (events : List KeyEvent) (key : Key) : Nat :=
  events.count ⟨key, true⟩

variable {past : List KeyEvent} {event : KeyEvent} {key : Key} {bit : Modifiers}

theorem heldAfter_concat (past : List KeyEvent) (event : KeyEvent) (key : Key) :
    heldAfter (past ++ [event]) key =
      if event.key = key then event.press else heldAfter past key := by
  unfold heldAfter
  rw [List.filter_append]
  by_cases hkey : event.key = key
  · rw [if_pos hkey, List.filter_cons_of_pos (by simpa using hkey), List.filter_nil,
      List.getLast?_concat]
    rfl
  · rw [if_neg hkey, List.filter_cons_of_neg (by simpa using hkey), List.filter_nil,
      List.append_nil]

theorem presses_concat (past : List KeyEvent) (event : KeyEvent) (key : Key) :
    presses (past ++ [event]) key =
      presses past key + if event.key = key ∧ event.press = true then 1 else 0 := by
  obtain ⟨key', press⟩ := event
  unfold presses
  rw [List.count_append, List.count_singleton]
  simp only [beq_iff_eq, KeyEvent.mk.injEq]

/-! ## Modifier keys -/

open Modifiers in
/-- The modifier keys, each with its bit. -/
def modifierKeys : List (Key × Modifiers) :=
  [(.leftControl, leftControl), (.leftShift, leftShift), (.leftAlt, leftAlt), (.leftGui, leftGui),
   (.rightControl, rightControl), (.rightShift, rightShift), (.rightAlt, rightAlt),
   (.rightGui, rightGui)]

theorem modifier?_eq_some_iff : key.modifier? = some bit ↔ (key, bit) ∈ modifierKeys := by
  constructor
  · intro hbit
    unfold Key.modifier? at hbit
    split at hbit
    all_goals cases hbit
    all_goals decide
  · have htable : ∀ entry ∈ modifierKeys, entry.1.modifier? = some entry.2 := by decide
    exact htable (key, bit)

theorem bits_ne_zero (hmem : (key, bit) ∈ modifierKeys) : bit.bits ≠ 0 := by
  have htable : ∀ entry ∈ modifierKeys, entry.2.bits ≠ 0 := by decide
  exact htable (key, bit) hmem

/-- No two modifier keys share a bit. -/
theorem bits_disjoint {key' : Key} {bit' : Modifiers} (hmem : (key, bit) ∈ modifierKeys)
    (hmem' : (key', bit') ∈ modifierKeys) (hne : key ≠ key') : bit.bits &&& bit'.bits = 0 := by
  have htable : ∀ entry ∈ modifierKeys, ∀ entry' ∈ modifierKeys, entry.1 ≠ entry'.1 →
      entry.2.bits &&& entry'.2.bits = 0 := by decide
  exact htable (key, bit) hmem (key', bit') hmem' hne

/-! ## One event -/

namespace Typing

theorem leftShift_update (t : Typing) (event : KeyEvent) :
    (t.update event).leftShift =
      if event.key = .leftShift then event.press else t.leftShift := by
  unfold update
  split <;> grind

theorem rightShift_update (t : Typing) (event : KeyEvent) :
    (t.update event).rightShift =
      if event.key = .rightShift then event.press else t.rightShift := by
  unfold update
  split <;> grind

theorem capsLock_update (t : Typing) (event : KeyEvent) :
    (t.update event).capsLock =
      if event.key = .capsLock ∧ event.press = true then !t.capsLock else t.capsLock := by
  unfold update
  split <;> grind

end Typing

namespace Decoder

variable {d : Decoder} {byte : UInt8}

theorem modifiers_take (d : Decoder) (event : KeyEvent) :
    (d.take event).2.modifiers =
      match event.key.modifier? with
      | some bit => d.modifiers.set bit event.press
      | none => d.modifiers := rfl

/-- An event decides about the bit of its own key and leaves that of every other key. -/
theorem contains_take (d : Decoder) (event : KeyEvent) (hmem : (key, bit) ∈ modifierKeys) :
    (d.take event).2.modifiers.contains bit =
      if event.key = key then event.press else d.modifiers.contains bit := by
  rw [modifiers_take]
  by_cases hkey : event.key = key
  · rw [if_pos hkey, hkey, modifier?_eq_some_iff.mpr hmem]
    exact Modifiers.contains_set_self (bits_ne_zero hmem) _ _
  · rw [if_neg hkey]
    cases hother : event.key.modifier? with
    | none => rfl
    | some other =>
        have hdisjoint := bits_disjoint (modifier?_eq_some_iff.mp hother) hmem hkey
        exact Modifiers.contains_set_of_disjoint hdisjoint _ _

/-- What the decoder records agrees with the events so far. -/
structure Follows (d : Decoder) (past : List KeyEvent) : Prop where
  modifiers : ∀ key bit, (key, bit) ∈ modifierKeys →
    d.modifiers.contains bit = heldAfter past key
  leftShift : d.typing.leftShift = heldAfter past .leftShift
  rightShift : d.typing.rightShift = heldAfter past .rightShift
  capsLock : d.typing.capsLock = decide (Odd (presses past .capsLock))

theorem follows_start : start.Follows [] where
  modifiers := by
    have htable : ∀ entry ∈ modifierKeys, start.modifiers.contains entry.2 = false := by decide
    exact fun key bit hmem => htable (key, bit) hmem
  leftShift := rfl
  rightShift := rfl
  capsLock := rfl

theorem Follows.take (h : d.Follows past) (event : KeyEvent) :
    (d.take event).2.Follows (past ++ [event]) where
  modifiers key bit hmem := by
    rw [contains_take d event hmem, heldAfter_concat, h.modifiers key bit hmem]
  leftShift := by
    rw [heldAfter_concat, ← h.leftShift]
    exact d.typing.leftShift_update event
  rightShift := by
    rw [heldAfter_concat, ← h.rightShift]
    exact d.typing.rightShift_update event
  capsLock := by
    rw [presses_concat]
    refine (d.typing.capsLock_update event).trans ?_
    rw [h.capsLock]
    by_cases hpressed : event.key = .capsLock ∧ event.press = true
    · rw [if_pos hpressed, if_pos hpressed]
      simp only [Nat.odd_add_one, decide_not]
    · rw [if_neg hpressed, if_neg hpressed, Nat.add_zero]

/-! ## One byte -/

theorem feed_of_none (hfeed : (d.stage.feed byte).1 = none) :
    d.feed byte = (none, { d with stage := (d.stage.feed byte).2 }) := by
  unfold feed
  split
  next stage heq => rw [heq]
  next e stage heq =>
    rw [heq] at hfeed
    exact nomatch hfeed

theorem feed_of_some (hfeed : (d.stage.feed byte).1 = some event) :
    d.feed byte =
      (some (d.take event).1, { (d.take event).2 with stage := (d.stage.feed byte).2 }) := by
  unfold feed
  split
  next stage heq =>
    rw [heq] at hfeed
    exact nomatch hfeed
  next e stage heq =>
    rw [heq] at hfeed ⊢
    cases hfeed
    rfl

theorem stage_feed (d : Decoder) (byte : UInt8) :
    (d.feed byte).2.stage = (d.stage.feed byte).2 := by
  cases hfeed : (d.stage.feed byte).1 with
  | none => rw [feed_of_none hfeed]
  | some event => rw [feed_of_some hfeed]

/-- What was seen of the next event does not matter. -/
theorem Follows.withStage (h : d.Follows past) (stage : Stage) :
    ({ d with stage } : Decoder).Follows past :=
  ⟨h.modifiers, h.leftShift, h.rightShift, h.capsLock⟩

theorem Follows.feed (h : d.Follows past) (byte : UInt8) :
    (d.feed byte).2.Follows (past ++ (d.stage.feed byte).1.toList) := by
  cases hfeed : (d.stage.feed byte).1 with
  | none =>
      rw [feed_of_none hfeed, Option.toList_none, List.append_nil]
      exact h.withStage _
  | some event =>
      rw [feed_of_some hfeed]
      exact (h.take event).withStage _

/-! ## All bytes -/

/-- What is reported for some bytes, in order, and the decoder's state after them. -/
def reports (d : Decoder) : List UInt8 → List KeyPush × Decoder
  | [] => ([], d)
  | byte :: rest =>
    let (report, d) := d.feed byte
    let (others, d) := d.reports rest
    (report.toList ++ others, d)

theorem reports_singleton (d : Decoder) (byte : UInt8) :
    d.reports [byte] = ((d.feed byte).1.toList, (d.feed byte).2) :=
  congrArg (·, (d.feed byte).2) (List.append_nil _)

theorem reports_append (d : Decoder) (first second : List UInt8) :
    d.reports (first ++ second) =
      ((d.reports first).1 ++ ((d.reports first).2.reports second).1,
        ((d.reports first).2.reports second).2) := by
  induction first generalizing d with
  | nil => rfl
  | cons byte rest ih => simp only [List.cons_append, reports, ih, List.append_assoc]

/-- The decoder after some bytes. -/
def after (bytes : List UInt8) : Decoder := (start.reports bytes).2

theorem after_concat (bytes : List UInt8) (byte : UInt8) :
    after (bytes ++ [byte]) = ((after bytes).feed byte).2 := by
  unfold after
  rw [reports_append, reports_singleton]

end Decoder

/-- The events that some bytes complete. -/
def events (bytes : List UInt8) : List KeyEvent := (Stage.start.decode bytes).1

namespace Decoder

theorem stage_after (bytes : List UInt8) : (after bytes).stage = (Stage.start.decode bytes).2 := by
  induction bytes using List.reverseRecOn with
  | nil => rfl
  | append_singleton bytes byte ih => rw [after_concat, stage_feed, ih, Stage.decode_concat]

theorem events_concat (bytes : List UInt8) (byte : UInt8) :
    events (bytes ++ [byte]) = events bytes ++ ((after bytes).stage.feed byte).1.toList := by
  unfold events
  rw [Stage.decode_concat, stage_after]

/-- Whatever the bytes are, the decoder's records agree with the events that they complete. -/
theorem follows_after (bytes : List UInt8) : (after bytes).Follows (events bytes) := by
  induction bytes using List.reverseRecOn with
  | nil => exact follows_start
  | append_singleton bytes byte ih =>
      rw [after_concat, events_concat]
      exact ih.feed byte

/-- A report says what the event was that the byte completed, and what is held after it. -/
theorem feed_after_of_some {bytes : List UInt8} {push : KeyPush}
    (hreport : ((after bytes).feed byte).1 = some push) :
    ∃ event, events (bytes ++ [byte]) = events bytes ++ [event] ∧
      push = ((after bytes).take event).1 ∧
      (after (bytes ++ [byte])).modifiers = push.modifiers := by
  rw [events_concat, after_concat]
  cases hfeed : ((after bytes).stage.feed byte).1 with
  | none =>
      rw [feed_of_none hfeed] at hreport
      exact nomatch hreport
  | some event =>
      rw [feed_of_some hfeed] at hreport ⊢
      cases hreport
      exact ⟨event, rfl, rfl, rfl⟩

theorem feed_after_of_none {bytes : List UInt8} (hreport : ((after bytes).feed byte).1 = none) :
    events (bytes ++ [byte]) = events bytes ∧
      (after (bytes ++ [byte])).modifiers = (after bytes).modifiers := by
  rw [events_concat, after_concat]
  cases hfeed : ((after bytes).stage.feed byte).1 with
  | none =>
      rw [feed_of_none hfeed]
      exact ⟨List.append_nil _, rfl⟩
  | some event =>
      rw [feed_of_some hfeed] at hreport
      exact nomatch hreport

/-- Only events of the modifier keys change the modifiers. -/
theorem modifiers_after_of_unmarked {bytes : List UInt8}
    (hunmarked : ∀ event, ((after bytes).stage.feed byte).1 = some event →
      event.key.modifier? = none) :
    (after (bytes ++ [byte])).modifiers = (after bytes).modifiers := by
  rw [after_concat]
  cases hfeed : ((after bytes).stage.feed byte).1 with
  | none => rw [feed_of_none hfeed]
  | some event =>
      rw [feed_of_some hfeed]
      refine (modifiers_take _ event).trans ?_
      rw [hunmarked event hfeed]

/-- The key of an event is one that its last byte names. -/
theorem mem_keys_of_feed {stage : Stage} (hfeed : (stage.feed byte).1 = some event) :
    (byte &&& 0x7f, event.key) ∈ stage.keys := by
  have hevent : stage.event? byte = some event := by
    unfold Stage.feed at hfeed
    split_ifs at hfeed
    exact hfeed
  obtain ⟨key, hkey, rfl⟩ := Option.map_eq_some_iff.mp hevent
  obtain ⟨before, behind, hsplit, _⟩ := List.lookup_eq_some_iff.mp hkey
  rw [hsplit]
  exact List.mem_append_right _ List.mem_cons_self

/-- The modifiers that are reported after some bytes, and with the byte that follows them. -/
structure ReportsHeldKeys (bytes : List UInt8) : Prop where
  /-- The bit of a modifier key is set exactly if the last event of the key is a press. -/
  held_iff : ∀ key bit, (key, bit) ∈ modifierKeys →
    ((after bytes).modifiers.contains bit = true ↔ heldAfter (events bytes) key = true)
  /-- The report of an event carries the modifiers after this event. -/
  carried : ∀ byte push, ((after bytes).feed byte).1 = some push →
    ∃ event, events (bytes ++ [byte]) = events bytes ++ [event] ∧
      push.keycode = event.key.code ∧ push.press = event.press ∧
      push.modifiers = (after (bytes ++ [byte])).modifiers
  /-- A byte without a report completes no event and changes nothing. -/
  quiet : ∀ byte, ((after bytes).feed byte).1 = none →
    events (bytes ++ [byte]) = events bytes ∧
      (after (bytes ++ [byte])).modifiers = (after bytes).modifiers
  /-- Neither does what follows E1, nor the shift key that follows E0. -/
  secondControl : (after bytes).stage = .secondExtended → ∀ byte,
    (after (bytes ++ [byte])).modifiers = (after bytes).modifiers
  fakeShift : (after bytes).stage = .extended → ∀ byte, byte &&& 0x7f = 0x2a →
    (after (bytes ++ [byte])).modifiers = (after bytes).modifiers

/-- **The modifiers that are reported are the modifier keys that are held**, after all bytes that a
keyboard may send, well-formed or not. -/
theorem reportsHeldKeys (bytes : List UInt8) : ReportsHeldKeys bytes where
  held_iff key bit hmem := by
    rw [(follows_after bytes).modifiers key bit hmem]
  carried byte push hreport := by
    obtain ⟨event, hevents, rfl, hmodifiers⟩ := feed_after_of_some hreport
    exact ⟨event, hevents, rfl, rfl, hmodifiers.symm⟩
  quiet _ hreport := feed_after_of_none hreport
  secondControl hstage byte := by
    have hkeys : ∀ entry ∈ secondExtendedKeys, entry.2.modifier? = none := by decide
    refine modifiers_after_of_unmarked fun event hfeed => ?_
    rw [hstage] at hfeed
    exact hkeys _ (mem_keys_of_feed hfeed)
  fakeShift hstage byte hbyte := by
    have hkeys : ∀ entry ∈ extendedKeys, entry.1 = 0x2a → entry.2.modifier? = none := by decide
    refine modifiers_after_of_unmarked fun event hfeed => ?_
    rw [hstage] at hfeed
    exact hkeys _ (mem_keys_of_feed hfeed) hbyte

/-- The left shift key goes down and stays there through the bytes of the pause key, a byte that
names no key, and a release of the right shift key. -/
example :
    (after [0x2a, 0xe1, 0x1d, 0x45, 0xe1, 0x9d, 0xc5, 0xe0, 0x00, 0xb6]).modifiers =
      Modifiers.leftShift := by
  decide +kernel

end Decoder

end Keyboard

end TaskKernel
