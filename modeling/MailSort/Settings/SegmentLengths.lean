import MailSort.SegmentLength
import MailSort.Text.Blank
import MailSort.Text.Count
import MailSort.Text.Quoted

/-! # Lists of segment lengths

Segment lengths are listed with commas between them.  Entries that are no segment lengths
are left out with a warning, and repeated ones without.  If nothing is left the standard
lengths are taken.
-/

namespace MailSort

/-- Something in the settings that is ignored. -/
inductive Warning where
  | ignoredLength (entry : Text)
  | ignoredPredictor (cause : Fault)
  deriving DecidableEq, Repr

def Warning.message : Warning → String
  | .ignoredLength entry =>
    "ignoring segment length " ++ entry.quoted ++ ": must be an integer of at least " ++
      toString SegmentLength.shortest.chars
  | .ignoredPredictor cause => cause.message ++ ", using the default predictor"

namespace SegmentLength

def entries (text : Text) : List Text :=
  ((text.splitAtEach ',').map Text.trim).filter (· ≠ [])

def entryLength? (entry : Text) : Option Nat :=
  entry.toSignedCount?.filter (shortest.chars ≤ ·)

/-- The lengths in a list, each one where it comes first. -/
def parseList (text : Text) (standard : List Nat) : List Nat :=
  let lengths := ((entries text).filterMap entryLength?).eraseDups
  if lengths = [] then standard else lengths

def listWarnings (text : Text) : List Warning :=
  ((entries text).filter fun entry => (entryLength? entry).isNone).map .ignoredLength

end SegmentLength

end MailSort
