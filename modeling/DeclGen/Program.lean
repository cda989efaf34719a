import DeclGen.Generation
import DeclGen.Log.Filter

/-!
# The program

The program takes the words of a command line, and runs as they ask. It ends in one of three ways,
which its exit code tells: 0 after a run that succeeds or a request that is answered, 1 after a
run that fails, 2 if the command line is refused.
-/

namespace DeclGen

/-- What is told about the error of a run. -/
def RunError.report (e : RunError) : String :=
  "error: " ++ e.message

/-- How the program ends. -/
inductive Outcome where
  /-- The command line does not lead to a run. -/
  | refused (refusal : CommandLine.Refusal)
  | failed (error : RunError)
  | finished

namespace Outcome

/-- The exit code of the program. -/
def exitCode : Outcome → Nat
  | .refused refusal => if refusal.isFailure then 2 else 0
  | .failed _ => 1
  | .finished => 0

/-- What is told about the outcome of a run. -/
def report? : Outcome → Option String
  | .failed error => some error.report
  | _ => none

/-- The lines that a run leaves on the error stream beside the first lines of its events: what is
said about the filter, the further lines of events, and the error. -/
def plainLines (o : Outcome) (f : Log.Filter) (events : List Log.Event) : List String :=
  f.remarks.flatMap Text.lines ++ f.furtherLines events ++ o.report?.toList.flatMap Text.lines

/-- The outcome of a run. -/
def ofRun : Except RunError Unit → Outcome
  | .ok _ => .finished
  | .error e => .failed e

end Outcome

/-- Runs the program on the words of a command line. -/
def Host.run {m : Type → Type} {File : Type} [Monad m] (h : Host m File) (words : List String) :
    m Outcome :=
  match CommandLine.parse words with
  | .error refusal => pure (.refused refusal)
  | .ok a => do pure (.ofRun (← h.generate a))

end DeclGen
