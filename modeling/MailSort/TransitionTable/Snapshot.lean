import MailSort.Json.Decode
import MailSort.Json.Parser
import MailSort.Text.Quoted
import MailSort.TransitionTable

/-! # Snapshots

A snapshot is what a transition table looks like outside: its transitions are keys made of
two tokens written back to back, with `START` and `FINISH` for the ends of a sample.

A key of two characters is always a transition between characters.  Longer keys are told
apart by the word at their beginning or at their end.  A snapshot is turned back into a
table only if it could have come from one: every key is a transition, every count is
positive, and where there are transitions there are samples.
-/

namespace MailSort

/-- Why a snapshot is refused. -/
inductive SnapshotError where
  | malformed
  /-- There are transitions, but no samples. -/
  | missingSamples
  | zeroCount (key : Text)
  | invalidKey (key : Text)
  deriving DecidableEq, Repr

def SnapshotError.message : SnapshotError → String
  | .malformed => "malformed snapshot"
  | .missingSamples => "snapshot holds transitions but records no samples"
  | .zeroCount key => "transition " ++ key.quoted ++ " has a zero count"
  | .invalidKey key => "cannot split transition key " ++ key.quoted

def Token.startWord : Text := "START".toList

def Token.finishWord : Text := "FINISH".toList

def Token.text : Token → Text
  | .start => startWord
  | .char c => [c]
  | .finish => finishWord

def Transition.key (transition : Transition) : Text :=
  transition.source.text ++ transition.target.text

/-- The transition out of the start whose key has the given text behind the start. -/
def Transition.afterStart? (rest : Text) : Option Transition :=
  if rest = Token.finishWord then some ⟨.start, .finish⟩
  else
    match rest with
    | [c] => some ⟨.start, .char c⟩
    | _ => none

/-- The transition into the end whose key has the given text before the end. -/
def Transition.beforeFinish? : Text → Option Transition
  | [c] => some ⟨.char c, .finish⟩
  | _ => none

def Transition.ofKey? (key : Text) : Option Transition :=
  match key with
  | [first, second] => some ⟨.char first, .char second⟩
  | key =>
    ((Token.startWord.isPrefixOf? key).bind afterStart?).or
      ((Token.finishWord.isSuffixOf? key).bind beforeFinish?)

/-- The outer form of a transition table. -/
structure Snapshot where
  table : SortedMap Text Nat
  totalLength : Nat
  totalSamples : Nat
  deriving DecidableEq

namespace Snapshot

def fieldNames : List String :=
  ["table", "totalSampleLength", "totalSamples"]

def toJson (snapshot : Snapshot) : Json :=
  .record (fieldNames.zip [
    .object (snapshot.table.toList.map fun (key, count) => (some key, .count count)),
    .count snapshot.totalLength,
    .count snapshot.totalSamples])

/-- The snapshot in a value of a document.  Of several counts for a key the last one
    counts. -/
def ofJson? (value : Json) : Option Snapshot := do
  let [some table, some totalLength, some totalSamples] ← value.fields? fieldNames | none
  let entries ← (← table.members?).mapM fun (key, count) => count.asCount?.map (key, ·)
  return ⟨.ofList entries, ← totalLength.asCount?, ← totalSamples.asCount?⟩

def render (snapshot : Snapshot) : Text :=
  snapshot.toJson.render

def parse (text : Text) : Except SnapshotError Snapshot :=
  match (Json.parse? text).bind ofJson? with
  | some snapshot => .ok snapshot
  | none => .error .malformed

end Snapshot

namespace TransitionTable

def snapshot (table : TransitionTable) : Snapshot where
  table := .ofList (table.counts.toList.map fun (transition, count) => (transition.key, count))
  totalLength := table.totalLength
  totalSamples := table.totalSamples

def addEntry (table : TransitionTable) (key : Text) (count : Nat) :
    Except SnapshotError TransitionTable :=
  if count = 0 then .error (.zeroCount key)
  else
    match Transition.ofKey? key with
    | some transition => .ok (table.addTransition transition count)
    | none => .error (.invalidKey key)

def ofSnapshot (snapshot : Snapshot) : Except SnapshotError TransitionTable := do
  if snapshot.table.toList ≠ [] ∧ snapshot.totalSamples = 0 then throw .missingSamples
  let table ←
    snapshot.table.toList.foldlM (fun table entry => table.addEntry entry.1 entry.2) empty
  return { table with
    totalLength := snapshot.totalLength
    totalSamples := snapshot.totalSamples }

def ofSnapshots (snapshots : List Snapshot) : Except SnapshotError TransitionTable :=
  snapshots.foldlM (fun table snapshot => table.addTable <$> ofSnapshot snapshot) empty

def render (table : TransitionTable) : Text :=
  table.snapshot.render

def parse (text : Text) : Except SnapshotError TransitionTable :=
  Snapshot.parse text >>= ofSnapshot

end TransitionTable

end MailSort
