/-!
# Keys

The keys of a keyboard, row by row. A key is reported by its number, its place in this list.
-/

namespace TaskKernel.Keyboard

/-- A key. -/
inductive Key where
  | escape | f1 | f2 | f3 | f4 | f5 | f6 | f7 | f8 | f9 | f10 | f11 | f12 | printScreen | sysRq
  | scrollLock | pauseBreak | backquote | digit1 | digit2 | digit3 | digit4 | digit5 | digit6
  | digit7 | digit8 | digit9 | digit0 | minus | equals | backspace | insert | home | pageUp
  | numLock | keypadDivide | keypadMultiply | keypadSubtract | tab | q | w | e | r | t | y | u
  | i | o | p | leftBracket | rightBracket | backslash | hash | delete | endKey | pageDown
  | keypad7 | keypad8 | keypad9 | keypadAdd | capsLock | a | s | d | f | g | h | j | k | l
  | semicolon | apostrophe | enter | keypad4 | keypad5 | keypad6 | leftShift | z | x | c | v
  | b | n | m | comma | period | slash | rightShift | up | keypad1 | keypad2 | keypad3
  | keypadEnter | leftControl | leftGui | leftAlt | space | rightAlt | rightGui | menu
  | rightControl | left | down | right | keypad0 | keypadPeriod | international1
  | international2 | international3 | international4 | international5 | previousTrack
  | nextTrack | mute | calculator | play | stop | volumeDown | volumeUp | browser
  | powerOnTestOk | tooManyKeys | rightControl2 | rightAlt2
  deriving DecidableEq, Repr

/-- The number of a key. -/
def Key.code (key : Key) : UInt8 := UInt8.ofNat key.ctorIdx

end TaskKernel.Keyboard
