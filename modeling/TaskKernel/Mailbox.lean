import TaskKernel.Message

/-!
# Mailboxes

The messages that wait for a task, first in, first out.
-/

namespace TaskKernel

/-- The messages that wait for a task, the oldest first. -/
structure Mailbox where
  messages : List Message
  deriving DecidableEq

namespace Mailbox

/-- The mailbox without messages. -/
def empty : Mailbox := ⟨[]⟩

/-- Add a message behind all others. -/
def push (mailbox : Mailbox) (message : Message) : Mailbox :=
  ⟨mailbox.messages ++ [message]⟩

/-- The oldest message, if there is one, and the mailbox without it. -/
def pop (mailbox : Mailbox) : Option Message × Mailbox :=
  (mailbox.messages.head?, ⟨mailbox.messages.tail⟩)

/-- The number of waiting messages. -/
def size (mailbox : Mailbox) : Nat := mailbox.messages.length

/-- Whether no message waits. -/
def isEmpty (mailbox : Mailbox) : Bool := mailbox.messages.isEmpty

@[simp] theorem messages_push (mailbox : Mailbox) (message : Message) :
    (mailbox.push message).messages = mailbox.messages ++ [message] := rfl

@[simp] theorem messages_pop (mailbox : Mailbox) :
    mailbox.pop.2.messages = mailbox.messages.tail := rfl

end Mailbox

end TaskKernel
