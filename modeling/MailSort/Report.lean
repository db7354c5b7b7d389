import MailSort.Decimal.Shortest
import MailSort.Mailbox.Document
import MailSort.Predictor
import MailSort.Settings.Environment

/-! # Score reports

A report scores one block of headers against all mailboxes of a corpus.  It is an object
with the score of each mailbox, one to a line, in the order of the names.

The predictor is the one asked for, or else the one in the environment.  An unknown
predictor is found out before anything is read.
-/

namespace MailSort

/-- What a report is made from.  Contents of files that cannot be read are left out. -/
structure ReportRequest where
  predictor? : Option Text
  environment : Environment
  corpus? : Option Text
  /-- The headers to be scored. -/
  headers? : Option Text

/-- Why there is no report. -/
inductive ReportFailure where
  | unknownPredictor (cause : Fault)
  | unreadableCorpus
  | malformedCorpus
  | unreadableHeaders
  | unlearnable (cause : Fault)
  deriving DecidableEq, Repr

namespace ReportFailure

def message : ReportFailure → String
  | unknownPredictor cause => cause.message
  | unreadableCorpus => "cannot read the file with the mailboxes"
  | malformedCorpus => "the file with the mailboxes is malformed"
  | unreadableHeaders => "cannot read the file with the headers"
  | unlearnable cause => cause.message

def exitCode : ReportFailure → Nat
  | unknownPredictor _ => 2
  | _ => 1

end ReportFailure

namespace Report

/-- One line of a report.  A score that is not finite is written as a null. -/
def line (name : Text) (score : Float) : Text :=
  [' ', ' '] ++ Json.quote name ++ [':', ' '] ++
    (Decimal.textOfFloat? score).getD "null".toList

def text (scores : SortedMap Text Float) : Text :=
  if scores.isEmpty then ['{', '}', '\n']
  else
    ['{', '\n'] ++
      Json.separated [',', '\n'] (scores.toList.map fun scored => line scored.1 scored.2) ++
      ['\n', '}', '\n']

def learn (settings : Settings Float) (mailboxes : List Mailbox) :
    Except Fault (Predictor Float) :=
  mailboxes.foldlM
    (fun predictor mailbox => predictor.consider mailbox.qualifiedName mailbox.headerBlocks)
    (Predictor.ofSettings settings)

/-- The predictor that is asked for, or else the one in the settings. -/
def choose (settings : Settings Float) : Option Text → Except Fault (Settings Float)
  | none => .ok settings
  | some name => do return { settings with predictor := ← PredictorKind.parse name }

def make (request : ReportRequest) : Except ReportFailure Text := do
  let settings ← (choose request.environment.settings request.predictor?).mapError
    .unknownPredictor
  let some corpus := request.corpus? | throw .unreadableCorpus
  let some mailboxes := Mailbox.parseCorpus? corpus | throw .malformedCorpus
  let some headers := request.headers? | throw .unreadableHeaders
  let predictor ← (learn settings mailboxes).mapError .unlearnable
  return text (predictor.scores headers)

end Report

end MailSort
