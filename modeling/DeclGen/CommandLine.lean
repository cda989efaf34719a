import DeclGen.Emission

/-!
# The command line

A command line names the input files and gives values to *settings*: the output, any number of
reference catalogs, and what to do with enums. A setting has a long and mostly a short form, and
its value is attached to it or is the word after it.

    a.json b.json --output=out.d.ts -r lib.json --ambient-enums declare

* A word that starts with a dash is an option and never a value, but for a single dash.
* The word `--` ends the options: all words after it are inputs.
* The output and the enum setting may be given once. No value may be empty.

A value in a word of its own is only taken down at first, and so are inputs. They are looked at
when the next setting, request or input asks for it, or at the end. So an unknown option is
refused before a bad value that stands to its left.
-/

namespace DeclGen

/-- What a run is asked to do. -/
structure Arguments where
  /-- The paths of the dumps, one for each unit. -/
  inputs : List String
  output : String
  /-- The paths of the catalogs, to be layered in this order. -/
  references : List String := []
  ambientEnums : AmbientEnums := .reject
  deriving DecidableEq

namespace CommandLine

/-- Why a command line does not lead to a run. -/
inductive Refusal where
  /-- The command line asks for help. -/
  | help
  /-- The command line asks for the version. -/
  | version
  | nothingGiven
  | unknownOption
  | invalidValue
  | repeatedSetting
  | missingArgument
  /-- A value is attached to an option that takes none. -/
  | unneededValue
  deriving DecidableEq, Repr

/-- Whether a refusal is a failure. A request that is answered is none. -/
def Refusal.isFailure : Refusal → Bool
  | .help | .version => false
  | _ => true

/-! ### Words -/

/-- The options that take a value. -/
inductive Setting where
  | output
  | reference
  | ambientEnums
  deriving DecidableEq, Repr

/-- What an option is for. -/
inductive Switch where
  | setting (s : Setting)
  /-- A request, which is answered in place of a run. -/
  | request (answer : Refusal)

namespace Switch

/-- The option of a long name. Names may not be shortened. -/
def ofName? (name : String) : Option Switch :=
  match name with
  | "output" => some (.setting .output)
  | "reference" => some (.setting .reference)
  | "ambient-enums" => some (.setting .ambientEnums)
  | "help" => some (.request .help)
  | "version" => some (.request .version)
  | _ => none

/-- The option of a letter. -/
def ofLetter? (letter : Char) : Option Switch :=
  match letter with
  | 'o' => some (.setting .output)
  | 'r' => some (.setting .reference)
  | 'h' => some (.request .help)
  | 'V' => some (.request .version)
  | _ => none

end Switch

/-- A word of the command line, by its form. -/
inductive Word where
  | endOfOptions
  /-- A long option, with the value after its equals sign if it has one. -/
  | long (name : String) (value? : Option String)
  /-- A dash with a letter, and what follows the letter. -/
  | short (letter : Char) (rest : List Char)
  | plain
  deriving DecidableEq

/-- The form of a word. -/
def Word.ofText (text : String) : Word :=
  match text.toList with
  | ['-', '-'] => .endOfOptions
  | '-' :: '-' :: option =>
    let value? :=
      match option.dropWhile (· ≠ '=') with
      | _ :: value => some (String.ofList value)
      | [] => none
    .long (String.ofList (option.takeWhile (· ≠ '='))) value?
  | '-' :: letter :: rest => .short letter rest
  | _ => .plain

/-- The value that is attached to a short option. An equals sign before it does not belong to
it. -/
def attached? : List Char → Option String
  | [] => none
  | '=' :: value => some (String.ofList value)
  | value => some (String.ofList value)

/-! ### Values -/

/-- What has been given and looked at. -/
structure Given where
  inputs : List String := []
  output : Option String := none
  references : List String := []
  ambientEnums : Option AmbientEnums := none

/-- What has been taken down and not looked at. -/
inductive Pending where
  | nothing
  | setting (s : Setting) (value? : Option String)
  | inputs (paths : List String)

/-- What to do with enums, as the command line says it. -/
def ambientEnums? (word : String) : Option AmbientEnums :=
  match word with
  | "reject" => some .reject
  | "declare" => some .declare
  | _ => none

/-- A path, which may not be empty. -/
def path (text : String) : Except Refusal String :=
  if text = "" then .error .invalidValue else .ok text

namespace Given

/-- Gives a value to a setting. That a setting is repeated is seen before a bad value. -/
def set (g : Given) (s : Setting) (value : String) : Except Refusal Given :=
  match s with
  | .output =>
    if g.output.isSome then .error .repeatedSetting
    else do .ok { g with output := ← path value }
  | .reference => do .ok { g with references := g.references ++ [← path value] }
  | .ambientEnums =>
    if g.ambientEnums.isSome then .error .repeatedSetting
    else
      match ambientEnums? value with
      | some a => .ok { g with ambientEnums := some a }
      | none => .error .invalidValue

/-- Looks at what has been taken down. -/
def settle (g : Given) : Pending → Except Refusal Given
  | .nothing => .ok g
  | .setting _ none => .error .invalidValue
  | .setting s (some value) => g.set s value
  | .inputs paths => do .ok { g with inputs := g.inputs ++ (← paths.mapM path) }

/-- Whether nothing at all has been given. -/
def isEmpty (g : Given) : Bool :=
  g.inputs.isEmpty && g.output.isNone && g.references.isEmpty && g.ambientEnums.isNone

/-- The arguments of a run, if nothing is missing. -/
def arguments (g : Given) : Except Refusal Arguments :=
  if g.isEmpty then .error .nothingGiven
  else
    match g.inputs, g.output with
    | _ :: _, some output =>
      .ok
        { inputs := g.inputs, output, references := g.references
          ambientEnums := g.ambientEnums.getD .reject }
    | _, _ => .error .missingArgument

end Given

/-! ### Reading a command line -/

/-- How far a command line has been read. -/
structure State where
  given : Given := {}
  pending : Pending := .nothing
  optionsEnded : Bool := false

namespace State

/-- Takes down an input. -/
def addInput (s : State) (text : String) : Except Refusal State :=
  match s.pending with
  | .inputs paths => .ok { s with pending := .inputs (paths ++ [text]) }
  | pending => do .ok { s with given := ← s.given.settle pending, pending := .inputs [text] }

/-- Comes upon an option, with the value that is attached to it. -/
def addOption (s : State) (switch : Switch) (value? : Option String) : Except Refusal State :=
  match switch with
  | .request answer => do
    let _ ← s.given.settle s.pending
    .error answer
  | .setting setting => do
    let given ← s.given.settle s.pending
    match value? with
    | some value => .ok { s with given := ← given.set setting value, pending := .nothing }
    | none => .ok { s with given, pending := .setting setting none }

/-- Reads one word. -/
def add (s : State) (text : String) : Except Refusal State :=
  if s.optionsEnded then s.addInput text
  else
    match Word.ofText text with
    | .endOfOptions => .ok { s with optionsEnded := true }
    | .long name value? =>
      match Switch.ofName? name, value? with
      | none, _ => .error .unknownOption
      | some (.request _), some _ => .error .unneededValue
      | some switch, value? => s.addOption switch value?
    | .short letter rest =>
      match Switch.ofLetter? letter with
      | none => .error .unknownOption
      | some switch => s.addOption switch (attached? rest)
    | .plain =>
      match s.pending with
      | .setting setting none => .ok { s with pending := .setting setting (some text) }
      | _ => s.addInput text

end State

/-- The arguments that a command line gives. -/
def parse (words : List String) : Except Refusal Arguments := do
  let s ← words.foldlM State.add {}
  let given ← s.given.settle s.pending
  given.arguments

end CommandLine

end DeclGen
