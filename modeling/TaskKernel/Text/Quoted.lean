import TaskKernel.Text.Printable

/-!
# Quoted text

The form in which diagnostics show a text: in quotes, on one line, with escapes for the characters
that end the text or the line and for those that are not printable.
-/

namespace TaskKernel.Text

/-- How one character is written between quotes. What is not printable and has no escape of its own
is given by its code point in hexadecimal. -/
def escape (c : Char) : String :=
  if c = '\x00' then "\\0"
  else if c = '\t' then "\\t"
  else if c = '\n' then "\\n"
  else if c = '\r' then "\\r"
  else if c = '"' then "\\\""
  else if c = '\\' then "\\\\"
  else if isPrintable c then c.toString
  else "\\u\x7b" ++ String.ofList (Nat.toDigits 16 c.toNat) ++ "\x7d"

/-- A text in quotes. -/
def quoted (s : String) : String :=
  "\"" ++ String.join (s.toList.map escape) ++ "\""

/-- A number in hexadecimal with the usual mark in front. -/
def hexadecimal (n : Nat) : String :=
  "0x" ++ String.ofList (Nat.toDigits 16 n)

end TaskKernel.Text
