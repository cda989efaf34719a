import DeclGen.Shape
import DeclGen.Text.Blank
import DeclGen.Text.Quoted
import DeclGen.Text.Split

/-!
# Events

A run can tell what it does as a sequence of *events*. An event has a level, an origin, a message
and fields, which `Event.text` writes one after the other. Texts that come from a dump stand
between quotes where they are shown as values, and bare where they are shown as names. So a name
may break the line, and the event then has further lines.
-/

namespace DeclGen.Log

/-- How much an event matters. -/
inductive Level where
  | error
  | warn
  | info
  | debug
  | trace
  deriving DecidableEq, Repr

namespace Level

/-- The place of a level among the levels, what matters most first. -/
def rank : Level → Nat
  | .error => 1
  | .warn => 2
  | .info => 3
  | .debug => 4
  | .trace => 5

/-- How a level is written. -/
def text : Level → String
  | .error => "ERROR"
  | .warn => "WARN"
  | .info => "INFO"
  | .debug => "DEBUG"
  | .trace => "TRACE"

end Level

/-- Something that a run does. -/
inductive Event where
  /-- The output has been created. -/
  | generating (output : String) (declarationMode : Bool) (inputs references : Nat)
  /-- A reference catalog has been read from its file. -/
  | loadingCatalog (path : String)
  /-- A dump has been decoded. -/
  | decodedDump (unit : String) (declarations : Nat)
  /-- A name is declared once more. -/
  | duplicateName (name : String)
  | emittingUnit (unit : String) (declarations : Nat)
  | emittingDeclaration (name : String) (kind : Kind)
  /-- A declaration goes without an index signature, as its dictionary's key can be none. -/
  | noIndexKey (type : String)
  /-- A type takes the shape of one of its interfaces. -/
  | shapedByInterface (type : String) (shape : Shape)
  /-- A type takes the fallback shape. -/
  | noShape (type : String)
  deriving DecidableEq

namespace Event

/-- The level of an event. -/
def level : Event → Level
  | .generating .. | .loadingCatalog _ | .decodedDump .. | .emittingUnit .. => .debug
  | .duplicateName _ => .warn
  | .emittingDeclaration .. | .noIndexKey _ | .shapedByInterface .. | .noShape _ => .trace

/-- The part of the program that an event comes from, which filters can name. -/
def origin : Event → String
  | .generating .. => "typebridge::commands::generate"
  | .loadingCatalog _ => "typebridge_core::dump::catalog"
  | .decodedDump .. => "typebridge_core::dump"
  | .duplicateName _ => "typebridge_core::dump::arena"
  | .emittingUnit .. | .emittingDeclaration .. => "typebridge_compiler::processor"
  | .noIndexKey _ => "typebridge_compiler::resolve::structure"
  | .shapedByInterface .. | .noShape _ => "typebridge_compiler::classify"

/-- The message of an event. -/
def message : Event → String
  | .generating .. => "generating"
  | .loadingCatalog _ => "loading reference catalog"
  | .decodedDump .. => "parsed symbol dump"
  | .duplicateName _ => "duplicate declaration name, references resolve to the first"
  | .emittingUnit .. => "emitting unit"
  | .emittingDeclaration .. => "emitting declaration"
  | .noIndexKey _ => "dictionary key has no index signature"
  | .shapedByInterface .. => "classified through interface"
  | .noShape _ => "no shape matched, falling back to any"

/-- The fields of an event, each with its written value. -/
def fields : Event → List (String × String)
  | .generating output declarationMode inputs references =>
    [("output", output), ("declaration_mode", if declarationMode then "true" else "false"),
     ("inputs", toString inputs), ("references", toString references)]
  | .loadingCatalog path => [("path", path)]
  | .decodedDump unit declarations =>
    [("unit", Text.quote unit), ("declarations", toString declarations)]
  | .duplicateName name => [("name", Text.quote name)]
  | .emittingUnit unit declarations =>
    [("unit", unit), ("declarations", toString declarations)]
  | .emittingDeclaration name kind => [("name", Text.quote name), ("kind", kind.label)]
  | .noIndexKey type => [("ty", type)]
  | .shapedByInterface type shape => [("ty", type), ("via", shape.text)]
  | .noShape type => [("ty", type)]

/-- The text of an event. -/
def text (e : Event) : String :=
  e.level.text ++ " " ++ e.origin ++ ": " ++ e.message
    ++ String.join (e.fields.map fun (key, value) => " " ++ key ++ "=" ++ value)

/-- The line that an event begins with, without the blanks at its end. -/
def line (e : Event) : String :=
  String.ofList (Text.trimEnd ((Text.lines e.text).headD "").toList)

/-- The lines of an event after the first. -/
def furtherLines (e : Event) : List String :=
  (Text.lines e.text).tail

end Event

end DeclGen.Log
