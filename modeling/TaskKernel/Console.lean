/-!
# Console output

What is written to the console is a sequence of texts and ends of lines.
-/

namespace TaskKernel.Console

/-- One thing written to the console. -/
inductive Item where
  /-- A text as it is. -/
  | text (content : String)
  /-- A text and the end of its line. -/
  | line (content : String)
  /-- The end of a line. -/
  | newline
  deriving DecidableEq, Repr

/-- The text of one item. -/
def Item.content : Item → String
  | .text content => content
  | .line content => content ++ "\n"
  | .newline => "\n"

/-- What the console shows after some items were written. -/
def transcript (items : List Item) : String :=
  String.join (items.map Item.content)

/-- What is said where there is no machine to boot. -/
def hostedNotice : List Item :=
  [.line "taskcore is a bare-metal kernel; build it for x86_64-unknown-none"]

end TaskKernel.Console
