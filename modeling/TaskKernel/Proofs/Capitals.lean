import TaskKernel.Proofs.HeldKeys

/-!
# Capital letters

A report carries the modifiers, and the character that its key types is decided by another record,
which the decoder changes in a step of its own. Both follow the events (`Decoder.Follows`), so they
never disagree:

* `Follows.intersects_shift` — the modifiers show a shift key exactly if the other record does;
* `ascii_of_letter` — so the report of a letter that goes down tells by its modifiers, and by how
  often the caps lock went down, whether the letter is a capital;
* `ascii_of_release` — and that of a key that goes up types nothing.

The two together are `capitalizes`.
-/

namespace TaskKernel

theorem Modifiers.intersects_shift (held : Modifiers) :
    held.intersects shift = (held.contains leftShift || held.contains rightShift) := by
  obtain ⟨⟨bits⟩⟩ := held
  revert bits
  decide +kernel

namespace Keyboard

/-! ## Keys and letters -/

/-- The number of a key tells which one it is. -/
theorem ofNat_code (key : Key) : Key.ofNat key.code.toNat = key := by
  cases key <;> rfl

theorem code_injective {key key' : Key} (hcode : key.code = key'.code) : key = key' := by
  rw [← ofNat_code key, ← ofNat_code key', hcode]

/-- The keys of the letters. -/
def letterKeys : List (Key × Char) :=
  [(.a, 'a'), (.b, 'b'), (.c, 'c'), (.d, 'd'), (.e, 'e'), (.f, 'f'), (.g, 'g'), (.h, 'h'),
   (.i, 'i'), (.j, 'j'), (.k, 'k'), (.l, 'l'), (.m, 'm'), (.n, 'n'), (.o, 'o'), (.p, 'p'),
   (.q, 'q'), (.r, 'r'), (.s, 's'), (.t, 't'), (.u, 'u'), (.v, 'v'), (.w, 'w'), (.x, 'x'),
   (.y, 'y'), (.z, 'z')]

variable {key : Key} {letter : Char}

/-- What a letter's key types: the letter as it is, or as a capital. -/
theorem character_letter (hmem : (key, letter) ∈ letterKeys) (shift capsLock numLock : Bool) :
    key.glyph.character shift capsLock numLock =
      (if shift ^^ capsLock then letter.toUpper else letter).toUInt8 := by
  have htable : ∀ entry ∈ letterKeys, entry.1.glyph = .letter entry.2.toUInt8 ∧
      entry.2.toUInt8 - caseDistance = entry.2.toUpper.toUInt8 := by decide +kernel
  obtain ⟨hglyph, hupper⟩ := htable (key, letter) hmem
  rw [hglyph, Glyph.character, hupper]
  exact (apply_ite Char.toUInt8 _ _ _).symm

namespace Decoder

variable {bytes : List UInt8} {byte : UInt8} {push : KeyPush}

/-- Both records know of the same shift keys. -/
theorem Follows.intersects_shift {d : Decoder} {past : List KeyEvent} (h : d.Follows past) :
    d.modifiers.intersects Modifiers.shift = (d.typing.leftShift || d.typing.rightShift) := by
  rw [Modifiers.intersects_shift, h.modifiers .leftShift _ (by decide),
    h.modifiers .rightShift _ (by decide), h.leftShift, h.rightShift]

theorem ascii_of_letter (hmem : (key, letter) ∈ letterKeys)
    (hreport : ((after bytes).feed byte).1 = some push) (hkey : push.keycode = key.code)
    (hpress : push.press = true) :
    push.ascii = (if push.modifiers.intersects Modifiers.shift ^^
      decide (Odd (presses (events (bytes ++ [byte])) .capsLock))
        then letter.toUpper else letter).toUInt8 := by
  obtain ⟨event, hevents, rfl, _⟩ := feed_after_of_some hreport
  obtain rfl : event.key = key := code_injective hkey
  have hdown : event.press = true := hpress
  -- The character is chosen by the state after the event, and so are the modifiers of the report.
  have hfollows := (follows_after bytes).take event
  rw [← hevents] at hfollows
  have hshift : ((after bytes).take event).1.modifiers.intersects Modifiers.shift =
      (((after bytes).take event).2.typing.leftShift ||
        ((after bytes).take event).2.typing.rightShift) := hfollows.intersects_shift
  rw [hshift, ← hfollows.capsLock]
  show ((after bytes).typing.update event).character event = _
  unfold Typing.character
  rw [if_pos hdown, character_letter hmem]
  rfl

theorem ascii_of_release (hreport : ((after bytes).feed byte).1 = some push)
    (hpress : push.press = false) : push.ascii = 0 := by
  obtain ⟨event, _, rfl, _⟩ := feed_after_of_some hreport
  have hup : ¬ event.press = true := Bool.eq_false_iff.mp hpress
  exact if_neg hup

/-- What the reports say about letters after some bytes. -/
structure Capitalizes (bytes : List UInt8) : Prop where
  /-- The modifiers show a shift key exactly if the choice of characters knows of one. -/
  agrees : (after bytes).modifiers.intersects Modifiers.shift =
    ((after bytes).typing.leftShift || (after bytes).typing.rightShift)
  /-- A letter that goes down is a capital if either its report shows a shift key or the caps lock
  went down an odd number of times, but not both. -/
  pressed : ∀ key letter, (key, letter) ∈ letterKeys → ∀ byte push,
    ((after bytes).feed byte).1 = some push → push.keycode = key.code → push.press = true →
      push.ascii = (if push.modifiers.intersects Modifiers.shift ^^
        decide (Odd (presses (events (bytes ++ [byte])) .capsLock))
          then letter.toUpper else letter).toUInt8
  /-- A key that goes up types nothing. -/
  released : ∀ byte push, ((after bytes).feed byte).1 = some push → push.press = false →
    push.ascii = 0

/-- **Capitals are typed exactly as the report's modifiers say**, whatever bytes were sent before.
-/
theorem capitalizes (bytes : List UInt8) : Capitalizes bytes where
  agrees := (follows_after bytes).intersects_shift
  pressed _ _ hmem _ _ hreport hkey hpress := ascii_of_letter hmem hreport hkey hpress
  released _ _ hreport hpress := ascii_of_release hreport hpress

/-- Both shift keys go down and the right one goes up; caps lock goes down twice, as it does when it
is held; the shift behind E0 goes up. -/
example : ((after [0x2a, 0x36, 0xb6, 0x3a, 0x3a, 0xe0, 0xaa]).feed 0x1e).1.map (·.ascii) =
    some 'A'.toUInt8 := by
  decide +kernel

end Decoder

end Keyboard

end TaskKernel
