import TaskKernel.Keyboard.Layout
import TaskKernel.Keyboard.Scancode
import TaskKernel.Message

/-!
# The keyboard decoder

The decoder turns the keyboard's bytes into key events. It keeps two records of what is held: the
modifier keys that each event carries, and the state that decides which character a key types.
-/

namespace TaskKernel.Keyboard

/-- The bit of a modifier key. The second right control key and the second right alt key, which
occur only within other events, have none. -/
def Key.modifier? : Key → Option Modifiers
  | .leftControl => some Modifiers.leftControl
  | .leftShift => some Modifiers.leftShift
  | .leftAlt => some Modifiers.leftAlt
  | .leftGui => some Modifiers.leftGui
  | .rightControl => some Modifiers.rightControl
  | .rightShift => some Modifiers.rightShift
  | .rightAlt => some Modifiers.rightAlt
  | .rightGui => some Modifiers.rightGui
  | _ => none

/-- What decides which character a key types. -/
structure Typing where
  leftShift : Bool
  rightShift : Bool
  capsLock : Bool
  numLock : Bool
  /-- Whether the second right control key is held; it makes the number lock another key. -/
  secondControl : Bool
  deriving DecidableEq, Repr

namespace Typing

/-- Nothing is held, and the number lock is on. -/
def start : Typing where
  leftShift := false
  rightShift := false
  capsLock := false
  numLock := true
  secondControl := false

/-- The state after an event. The locks change whenever their key goes down. -/
def update (t : Typing) (e : KeyEvent) : Typing :=
  match e.key with
  | .leftShift => { t with leftShift := e.press }
  | .rightShift => { t with rightShift := e.press }
  | .rightControl2 => { t with secondControl := e.press }
  | .capsLock => { t with capsLock := t.capsLock ^^ e.press }
  | .numLock => { t with numLock := t.numLock ^^ (e.press && !t.secondControl) }
  | _ => t

/-- The character that an event types, or zero. A key that goes up types nothing. -/
def character (t : Typing) (e : KeyEvent) : UInt8 :=
  if e.press then e.key.glyph.character (t.leftShift || t.rightShift) t.capsLock t.numLock else 0

end Typing

/-- The state of the decoder. -/
structure Decoder where
  stage : Stage
  /-- The modifier keys that are held. -/
  modifiers : Modifiers
  typing : Typing
  deriving DecidableEq, Repr

namespace Decoder

/-- No byte was seen and no key is held. -/
def start : Decoder where
  stage := .start
  modifiers := Modifiers.none
  typing := Typing.start

/-- What the decoder reports for an event, and its state after it. -/
def take (d : Decoder) (e : KeyEvent) : KeyPush × Decoder :=
  let modifiers := match e.key.modifier? with
    | some bit => d.modifiers.set bit e.press
    | none => d.modifiers
  let typing := d.typing.update e
  ({ modifiers, keycode := e.key.code, ascii := typing.character e, press := e.press },
    { d with modifiers, typing })

/-- Take in a byte: what is to be reported, if the byte completes an event. -/
def feed (d : Decoder) (byte : UInt8) : Option KeyPush × Decoder :=
  match d.stage.feed byte with
  | (none, stage) => (none, { d with stage })
  | (some e, stage) =>
    let (push, d) := { d with stage }.take e
    (some push, d)

end Decoder

end TaskKernel.Keyboard
