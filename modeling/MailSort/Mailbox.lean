import MailSort.Instant

/-! # Mailboxes

A mailbox has a name and holds messages.  All that is known of a message is its block of
headers and when it arrived.
-/

namespace MailSort

/-- A message in a mailbox. -/
structure Message where
  headers : Text
  date : Instant
  deriving DecidableEq, Repr

/-- A mailbox with its messages. -/
structure Mailbox where
  qualifiedName : Text
  messages : List Message
  deriving DecidableEq, Repr

namespace Mailbox

/-- The name of the mailbox where mail arrives, which may be spelled in any case. -/
def inboxName : Text := "inbox".toList

/-- Whether mail arrives in the mailbox. -/
def isInbox (mailbox : Mailbox) : Bool :=
  mailbox.qualifiedName.map Char.toLower = inboxName

def headerBlocks (mailbox : Mailbox) : List Text :=
  mailbox.messages.map Message.headers

/-- When the latest message arrived. -/
def syncedTo? (mailbox : Mailbox) : Option Instant :=
  Instant.latest? (mailbox.messages.map Message.date)

end Mailbox

end MailSort
