import MailSort.Instant.Reader
import MailSort.Json.Decode
import MailSort.Json.Parser
import MailSort.Mailbox

/-! # Mailboxes as documents

A mailbox is a record of its name and its messages, of which there may be none given.  A
message is a record of its headers and its date.  A corpus is an array of mailboxes.
-/

namespace MailSort

namespace Message

def fieldNames : List String :=
  ["headers", "date"]

def toJson (message : Message) : Json :=
  .record (fieldNames.zip [.text message.headers, .text message.date.text])

def ofJson? (value : Json) : Option Message := do
  let [some headers, some date] ← value.fields? fieldNames | none
  return ⟨← headers.text?, ← Instant.parse? (← date.text?)⟩

end Message

namespace Mailbox

def fieldNames : List String :=
  ["qualifiedName", "messages"]

def toJson (mailbox : Mailbox) : Json :=
  .record (fieldNames.zip [
    .text mailbox.qualifiedName,
    .array (mailbox.messages.map Message.toJson)])

def ofJson? (value : Json) : Option Mailbox := do
  let [some name, messages] ← value.fields? fieldNames | none
  let messages ← (messages.getD (.array [])).items?
  return ⟨← name.text?, ← messages.mapM Message.ofJson?⟩

def render (mailbox : Mailbox) : Text :=
  mailbox.toJson.render

def parse? (text : Text) : Option Mailbox :=
  (Json.parse? text).bind ofJson?

def parseCorpus? (text : Text) : Option (List Mailbox) := do
  (← (← Json.parse? text).items?).mapM ofJson?

end Mailbox

end MailSort
