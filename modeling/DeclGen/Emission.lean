import DeclGen.Block

/-!
# Emission

Blocks open with `export`, or with `declare` in *declaration mode*, which the name of the output
file selects. There an enum is refused unless ambient enums are allowed.

`Emitter` holds the text of one block at a time: each `Emitter.emit` replaces it, and a refused
enum leaves it empty. `emitUnits` runs one emitter over every declaration of every unit; when a
declaration is refused, the blocks before it stay written.
-/

namespace DeclGen

/-- What to do with an enum in declaration mode. -/
inductive AmbientEnums where
  | reject
  | declare
  deriving DecidableEq, Repr

/-- How declarations are emitted. -/
structure Config where
  /-- Whether blocks are ambient declarations and not exports. -/
  declarationMode : Bool := false
  ambientEnums : AmbientEnums := .reject
  deriving DecidableEq

namespace Config

/-- The keyword that opens every block. -/
def keyword (c : Config) : String :=
  if c.declarationMode then "declare" else "export"

/-- Whether enums are refused. -/
def refusesEnums (c : Config) : Bool :=
  c.declarationMode && c.ambientEnums == .reject

end Config

/-- Why a declaration cannot be emitted. -/
inductive EmissionError where
  /-- The enum stands in declaration mode, where the configuration refuses it. -/
  | enumInDeclarationMode (name : String)
  deriving DecidableEq

namespace EmissionError

/-- The text of an emission error. -/
def message : EmissionError → String
  | .enumInDeclarationMode name => "enum '" ++ name ++ "' cannot be emitted in declaration mode"

end EmissionError

/-- The text of a declaration's block. -/
def Declaration.blockText (c : Config) (d : Declaration) : Except EmissionError String :=
  match d with
  | .enum e =>
    if c.refusesEnums then .error (.enumInDeclarationMode e.name)
    else .ok (d.block.text c.keyword)
  | .type _ => .ok (d.block.text c.keyword)

/-- An emitter with the text of its last block. -/
structure Emitter where
  config : Config
  buffer : String := ""

namespace Emitter

/-- Emits one declaration. The block replaces what the buffer held before. -/
def emit (e : Emitter) (d : Declaration) : Except EmissionError String × Emitter :=
  match d.blockText e.config with
  | .ok block => (.ok block, { e with buffer := block })
  | .error err => (.error err, { e with buffer := "" })

end Emitter

/-- What a run over declarations has written, and whether it came to its end. -/
structure Written where
  text : String
  outcome : Except EmissionError Unit

/-- Writes the blocks of declarations one after the other, up to the first that is refused. -/
def Emitter.write (e : Emitter) : List Declaration → Written
  | [] => { text := "", outcome := .ok () }
  | d :: rest =>
    match e.emit d with
    | (.ok block, e') =>
      let later := e'.write rest
      { later with text := block ++ later.text }
    | (.error err, _) => { text := "", outcome := .error err }

/-- All declarations of the units, in unit and declaration order. -/
def declarationsOf (units : List SourceUnit) : List Declaration :=
  units.flatMap (·.declarations)

/-- Writes the blocks of all units. -/
def emitUnits (c : Config) (units : List SourceUnit) : Written :=
  (Emitter.mk c "").write (declarationsOf units)

/-- The text of all units, if every declaration can be emitted. -/
def emitToString (c : Config) (units : List SourceUnit) : Except EmissionError String :=
  (String.join ·) <$> (declarationsOf units).mapM (·.blockText c)

end DeclGen
