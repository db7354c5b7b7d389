import MailSort.Report
import MailSort.Report.Arguments

/-! # Command line

The program reads the files it is given and prints the report.
-/

open MailSort

def readText? (path : String) : IO (Option Text) :=
  try
    return some (← IO.FS.readFile path).toList
  catch _ => return none

def readEnvironment : IO Environment :=
  Environment.allVariables.filterMapM fun which => do
    return (← IO.getEnv which.name).map fun value => (which.name, value.toList)

def main (arguments : List String) : IO UInt32 := do
  match Arguments.parse? arguments with
  | some ⟨some corpus, some headers, predictor?⟩ => do
    let environment ← readEnvironment
    for warning in environment.warnings do
      IO.eprintln warning.message
    let request : ReportRequest := {
      predictor? := predictor?.map String.toList
      environment := environment
      corpus? := ← readText? corpus
      headers? := ← readText? headers }
    match Report.make request with
    | .ok report => do
      IO.print (String.ofList report)
      return 0
    | .error failure => do
      IO.eprintln failure.message
      return UInt32.ofNat failure.exitCode
  | _ => do
    IO.eprintln Arguments.usage
    return 2
