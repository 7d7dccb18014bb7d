import TaskKernel.Keyboard.Key

/-!
# The US layout

Which character a key types. Shift selects the upper of two characters; for letters the caps lock
does so too, and both together cancel out. The digits of the keypad need the number lock.
-/

namespace TaskKernel.Keyboard

/-- What a key types. -/
inductive Glyph where
  /-- Nothing that is an ASCII character. -/
  | none
  /-- Always the same character. -/
  | fixed (character : UInt8)
  /-- One character without shift and another with it. -/
  | shifted (plain upper : UInt8)
  /-- A letter, given by its lower case. -/
  | letter (lower : UInt8)
  /-- One character with the number lock and another without it. -/
  | keypad (locked unlocked : UInt8)
  deriving DecidableEq, Repr

/-- The distance from an upper-case letter to its lower case. -/
def caseDistance : UInt8 := 32

/-- The character that a key types, or zero. -/
def Glyph.character (shift capsLock numLock : Bool) : Glyph → UInt8
  | .none => 0
  | .fixed character => character
  | .shifted plain upper => if shift then upper else plain
  | .letter lower => if shift ^^ capsLock then lower - caseDistance else lower
  | .keypad locked unlocked => if numLock then locked else unlocked

/-- What each key of the layout types. -/
def Key.glyph : Key → Glyph
  | .escape => .fixed 27
  | .backquote => .shifted 96 126
  | .digit1 => .shifted 49 33
  | .digit2 => .shifted 50 64
  | .digit3 => .shifted 51 35
  | .digit4 => .shifted 52 36
  | .digit5 => .shifted 53 37
  | .digit6 => .shifted 54 94
  | .digit7 => .shifted 55 38
  | .digit8 => .shifted 56 42
  | .digit9 => .shifted 57 40
  | .digit0 => .shifted 48 41
  | .minus => .shifted 45 95
  | .equals => .shifted 61 43
  | .backspace => .fixed 8
  | .keypadDivide => .fixed 47
  | .keypadMultiply => .fixed 42
  | .keypadSubtract => .fixed 45
  | .tab => .fixed 9
  | .q => .letter 113
  | .w => .letter 119
  | .e => .letter 101
  | .r => .letter 114
  | .t => .letter 116
  | .y => .letter 121
  | .u => .letter 117
  | .i => .letter 105
  | .o => .letter 111
  | .p => .letter 112
  | .leftBracket => .shifted 91 123
  | .rightBracket => .shifted 93 125
  | .backslash => .shifted 92 124
  | .delete => .fixed 127
  | .keypad7 => .keypad 55 0
  | .keypad8 => .keypad 56 0
  | .keypad9 => .keypad 57 0
  | .keypadAdd => .fixed 43
  | .a => .letter 97
  | .s => .letter 115
  | .d => .letter 100
  | .f => .letter 102
  | .g => .letter 103
  | .h => .letter 104
  | .j => .letter 106
  | .k => .letter 107
  | .l => .letter 108
  | .semicolon => .shifted 59 58
  | .apostrophe => .shifted 39 34
  | .enter => .fixed 10
  | .keypad4 => .keypad 52 0
  | .keypad5 => .fixed 53
  | .keypad6 => .keypad 54 0
  | .z => .letter 122
  | .x => .letter 120
  | .c => .letter 99
  | .v => .letter 118
  | .b => .letter 98
  | .n => .letter 110
  | .m => .letter 109
  | .comma => .shifted 44 60
  | .period => .shifted 46 62
  | .slash => .shifted 47 63
  | .keypad1 => .keypad 49 0
  | .keypad2 => .keypad 50 0
  | .keypad3 => .keypad 51 0
  | .keypadEnter => .fixed 10
  | .space => .fixed 32
  | .keypad0 => .keypad 48 0
  | .keypadPeriod => .keypad 46 127
  | _ => .none

end TaskKernel.Keyboard
