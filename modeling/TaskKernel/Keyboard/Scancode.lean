import TaskKernel.Keyboard.Key

/-!
# Scan codes

The keyboard reports each press and release of a key by one or more bytes (scan code set 1). The
last byte has the key in its low seven bits and says in its high bit that the key went up. A byte in
front of it selects one of two further sets of keys.
-/

namespace TaskKernel.Keyboard

/-- A key went down or up. -/
structure KeyEvent where
  key : Key
  press : Bool
  deriving DecidableEq, Repr

/-- The keys that need one byte. -/
def plainKeys : List (UInt8 × Key) :=
  [(0x01, .escape), (0x02, .digit1), (0x03, .digit2), (0x04, .digit3), (0x05, .digit4),
   (0x06, .digit5), (0x07, .digit6), (0x08, .digit7), (0x09, .digit8), (0x0a, .digit9),
   (0x0b, .digit0), (0x0c, .minus), (0x0d, .equals), (0x0e, .backspace), (0x0f, .tab), (0x10, .q),
   (0x11, .w), (0x12, .e), (0x13, .r), (0x14, .t), (0x15, .y), (0x16, .u), (0x17, .i), (0x18, .o),
   (0x19, .p), (0x1a, .leftBracket), (0x1b, .rightBracket), (0x1c, .enter), (0x1d, .leftControl),
   (0x1e, .a), (0x1f, .s), (0x20, .d), (0x21, .f), (0x22, .g), (0x23, .h), (0x24, .j), (0x25, .k),
   (0x26, .l), (0x27, .semicolon), (0x28, .apostrophe), (0x29, .backquote), (0x2a, .leftShift),
   (0x2b, .hash), (0x2c, .z), (0x2d, .x), (0x2e, .c), (0x2f, .v), (0x30, .b), (0x31, .n),
   (0x32, .m), (0x33, .comma), (0x34, .period), (0x35, .slash), (0x36, .rightShift),
   (0x37, .keypadMultiply), (0x38, .leftAlt), (0x39, .space), (0x3a, .capsLock), (0x3b, .f1),
   (0x3c, .f2), (0x3d, .f3), (0x3e, .f4), (0x3f, .f5), (0x40, .f6), (0x41, .f7), (0x42, .f8),
   (0x43, .f9), (0x44, .f10), (0x45, .numLock), (0x46, .scrollLock), (0x47, .keypad7),
   (0x48, .keypad8), (0x49, .keypad9), (0x4a, .keypadSubtract), (0x4b, .keypad4),
   (0x4c, .keypad5), (0x4d, .keypad6), (0x4e, .keypadAdd), (0x4f, .keypad1), (0x50, .keypad2),
   (0x51, .keypad3), (0x52, .keypad0), (0x53, .keypadPeriod), (0x54, .sysRq), (0x56, .backslash),
   (0x57, .f11), (0x58, .f12)]

/-- The keys behind the byte E0. -/
def extendedKeys : List (UInt8 × Key) :=
  [(0x10, .previousTrack), (0x19, .nextTrack), (0x1c, .keypadEnter), (0x1d, .rightControl),
   (0x20, .mute), (0x21, .calculator), (0x22, .play), (0x24, .stop), (0x2a, .rightAlt2),
   (0x2e, .volumeDown), (0x30, .volumeUp), (0x32, .browser), (0x35, .keypadDivide),
   (0x37, .printScreen), (0x38, .rightAlt), (0x47, .home), (0x48, .up), (0x49, .pageUp),
   (0x4b, .left), (0x4d, .right), (0x4f, .endKey), (0x50, .down), (0x51, .pageDown),
   (0x52, .insert), (0x53, .delete), (0x5b, .leftGui), (0x5c, .rightGui), (0x5d, .menu),
   (0x70, .international3), (0x73, .international4), (0x79, .international2),
   (0x7b, .international1), (0x7d, .international5)]

/-- The keys behind the byte E1. -/
def secondExtendedKeys : List (UInt8 × Key) :=
  [(0x1d, .rightControl2)]

/-- Which bytes were seen of an event that is not complete. -/
inductive Stage where
  /-- None. -/
  | start
  /-- E0. -/
  | extended
  /-- E1. -/
  | secondExtended
  deriving DecidableEq, Repr

/-- The keys that a byte can name. -/
def Stage.keys : Stage → List (UInt8 × Key)
  | .start => plainKeys
  | .extended => extendedKeys
  | .secondExtended => secondExtendedKeys

/-- The event that a byte completes. Some bytes name no key. -/
def Stage.event? (stage : Stage) (byte : UInt8) : Option KeyEvent :=
  (stage.keys.lookup (byte &&& 0x7f)).map fun key => { key, press := byte < 0x80 }

/-- Take in a byte: the event that it completes, if it does, and what was seen of the next one. -/
def Stage.feed (stage : Stage) (byte : UInt8) : Option KeyEvent × Stage :=
  if stage = .start ∧ byte = 0xe0 then (none, .extended)
  else if stage = .start ∧ byte = 0xe1 then (none, .secondExtended)
  else (stage.event? byte, .start)

end TaskKernel.Keyboard
