import TaskKernel.Label
import TaskKernel.Level

/-!
# Messages

Devices, timers and tasks tell a task something by a message. A message is a plain value: sender and
receiver share nothing after it was sent.
-/

namespace TaskKernel

/-- A set of modifier keys, one bit for each key of the boot keyboard's modifier byte. -/
structure Modifiers where
  bits : UInt8
  deriving DecidableEq, Repr

namespace Modifiers

/-- No key. -/
def none : Modifiers := ⟨0⟩

/-- Every key. -/
def all : Modifiers := ⟨255⟩

def leftControl : Modifiers := ⟨0x01⟩
def leftShift : Modifiers := ⟨0x02⟩
def leftAlt : Modifiers := ⟨0x04⟩
def leftGui : Modifiers := ⟨0x08⟩
def rightControl : Modifiers := ⟨0x10⟩
def rightShift : Modifiers := ⟨0x20⟩
def rightAlt : Modifiers := ⟨0x40⟩
def rightGui : Modifiers := ⟨0x80⟩

/-- The keys of both sets. -/
def union (a b : Modifiers) : Modifiers := ⟨a.bits ||| b.bits⟩

/-- The keys of the first set that are not in the second. -/
def without (a b : Modifiers) : Modifiers := ⟨a.bits &&& ~~~b.bits⟩

/-- Either shift key. -/
def shift : Modifiers := leftShift.union rightShift

/-- Either control key. -/
def control : Modifiers := leftControl.union rightControl

/-- Whether every key of `other` is in the set. -/
def contains (held other : Modifiers) : Bool :=
  held.bits &&& other.bits == other.bits

/-- Whether some key is in both sets. -/
def intersects (held other : Modifiers) : Bool :=
  held.bits &&& other.bits != 0

/-- Whether the set has no key. -/
def isEmpty (held : Modifiers) : Bool := held.bits == 0

/-- Whether the set has every key. -/
def isAll (held : Modifiers) : Bool := held.contains all

/-- Put keys into the set, or take them out of it. -/
def set (held keys : Modifiers) (present : Bool) : Modifiers :=
  if present then held.union keys else held.without keys

end Modifiers

/-- What the owner of a layer of the screen is asked to do. -/
inductive LayerRequest where
  | move (x y : Int32)
  | moveRelative (dx dy : Int32)
  | draw
  | drawArea (x y w h : Int32)
  deriving DecidableEq, Repr

/-- What became of one key. -/
structure KeyPush where
  /-- The modifier keys held after the event. -/
  modifiers : Modifiers
  /-- The number of the key. -/
  keycode : UInt8
  /-- The character of the key, or zero where it has none. -/
  ascii : UInt8
  /-- Whether the key went down. -/
  press : Bool
  deriving DecidableEq, Repr

/-- What a message says. -/
inductive Payload where
  /-- A device raised an interrupt. -/
  | deviceInterrupt (vector : UInt8)
  /-- A timer expired. -/
  | timeout (timeout : Nat) (value : Int32) (description : Label)
  | keyPush (event : KeyPush)
  | layer (layer : UInt32) (request : LayerRequest)
  /-- A request to a layer was carried out. -/
  | layerFinish
  | mouseMove (x y dx dy : Int32) (buttons : UInt8)
  | mouseButton (x y : Int32) (press : Bool) (button : UInt8)
  deriving DecidableEq

/-- A payload and the task that sent it. -/
structure Message where
  payload : Payload
  sender : TaskId := TaskId.kernel
  deriving DecidableEq

end TaskKernel
