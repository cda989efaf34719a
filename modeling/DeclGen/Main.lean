import DeclGen.Log.Filter
import DeclGen.Program

/-!
# The command line program

The program on the files of the system. Errors and events go to the standard error stream, and
the answers to requests to the standard output stream.
-/

namespace DeclGen

namespace Program

/-- Why the system refuses a file. -/
def faultOf : IO.Error → FileFault
  | .noFileOrDirectory .. => .notFound
  | .inappropriateType _ 20 _ => .notDirectory
  | .inappropriateType .. => .isDirectory
  | .invalidArgument _ 36 _ => .nameTooLong
  | e => .other (toString e)

/-- Carries out an action that may be refused. -/
def attempt {α : Type} (action : IO α) : IO (Except FileFault α) := do
  match ← action.toBaseIO with
  | .ok a => pure (.ok a)
  | .error e => pure (.error (faultOf e))

/-- The system as host. The events that the filter shows go to the standard error stream. -/
def host (filter : Log.Filter) : Host IO IO.FS.Handle where
  create path := attempt (IO.FS.Handle.mk path .write)
  readText path := do
    match ← attempt (IO.FS.readBinFile path) with
    | .ok content =>
      match String.fromUTF8? content with
      | some text => pure (.ok text)
      | none => pure (.error .notText)
    | .error fault => pure (.error fault)
  write file text := attempt do
    file.putStr text
    file.flush
  record event := if filter.shows event then IO.eprintln event.text else pure ()

/-- How the program is called. -/
def usage : String :=
  "Usage: declgen <INPUTS>... -o <FILE> [-r <FILE>]... [--ambient-enums reject|declare]"

/-- The version of the program. -/
def version : String := "declgen 0.1.0"

/-- What is told to a caller whose command line is refused. -/
def explain : CommandLine.Refusal → String
  | .help | .nothingGiven => usage
  | .version => version
  | .unknownOption => "error: unknown option\n\n" ++ usage
  | .invalidValue => "error: invalid or missing value\n\n" ++ usage
  | .repeatedSetting => "error: option given more than once\n\n" ++ usage
  | .missingArgument => "error: inputs and an output are required\n\n" ++ usage
  | .unneededValue => "error: option takes no value\n\n" ++ usage

/-- Runs the program on the system. -/
def main (words : List String) : IO UInt32 := do
  let filter := Log.Filter.ofValues (← Log.Filter.variableNames.mapM fun name => IO.getEnv name)
  if (CommandLine.parse words).isOk then filter.remarks.forM fun remark => IO.eprintln remark
  let outcome ← (host filter).run words
  match outcome with
  | .refused refusal =>
    if refusal.isFailure then IO.eprintln (explain refusal) else IO.println (explain refusal)
  | .failed error => IO.eprintln error.report
  | .finished => pure ()
  pure outcome.exitCode.toUInt32

end Program

end DeclGen

/-- The program's entry. -/
def main (words : List String) : IO UInt32 :=
  DeclGen.Program.main words
