import DeclGen.Catalog.Decode
import DeclGen.Catalog.Standard
import DeclGen.CommandLine
import DeclGen.Host
import DeclGen.Log.Trace
import DeclGen.Path
import DeclGen.Project

/-!
# Runs

A run reads dumps and reference catalogs from files and writes the blocks of all units to one
output file.

* The output is created before anything is read. If it cannot be created, nothing else is done.
* The reference catalogs are read and decoded one after the other, over the standard catalog.
* All inputs are read, and then decoded.
* If an enum is refused, the blocks before it are written. If loading fails, the output is empty.

So an output that is an input as well is empty when it is read, and the run fails.
-/

namespace DeclGen

/-- Why a run fails. -/
inductive RunError where
  | cannotCreate (path : String) (fault : FileFault)
  | cannotWrite (fault : FileFault)
  | load (error : LoadError)
  | emission (error : EmissionError)

namespace RunError

/-- The text of a run's error. -/
def message : RunError → String
  | .cannotCreate path fault => "cannot create '" ++ path ++ "': " ++ fault.message
  | .cannotWrite fault => "failed to write output: " ++ fault.message
  | .load error => error.message
  | .emission error => error.message

end RunError

/-- How a run emits declarations: the output's name decides on ambient declarations. -/
def Arguments.config (a : Arguments) : Config :=
  { declarationMode := Path.isDeclarationFile a.output, ambientEnums := a.ambientEnums }

/-- What is told once the output has been created. -/
def Arguments.startEvent (a : Arguments) : Log.Event :=
  .generating a.output a.config.declarationMode a.inputs.length a.references.length

namespace Host

variable {m : Type → Type} {File : Type} [Monad m]

/-- The text of a file that loading needs. -/
def loadText (h : Host m File) (path : String) : ExceptT LoadError m String := do
  match ← h.readText path with
  | .ok text => pure text
  | .error fault => throw (.unreadable path fault)

/-- Lays the catalog of a file over another. -/
def extendCatalog (h : Host m File) (c : Catalog) (path : String) :
    ExceptT LoadError m Catalog := do
  let text ← h.loadText path
  h.record (.loadingCatalog path)
  let upper ← ExceptT.mk (pure (Catalog.ofText path text))
  pure (c.extend upper)

/-- Decodes the dump of a unit. -/
def decodeDump (h : Host m File) (source : String × String) :
    ExceptT LoadError m (String × Dump) := do
  let unit ← ExceptT.mk (pure (Project.readDump source))
  h.record (.decodedDump unit.1 unit.2.declarations.length)
  pure unit

/-- Loads the project of a run. -/
def loadProject (h : Host m File) (a : Arguments) : ExceptT LoadError m Project := do
  let catalog ← a.references.foldlM h.extendCatalog Catalog.standard
  let sources ← a.inputs.mapM fun path => do pure (path, ← h.loadText path)
  let dumps ← sources.mapM h.decodeDump
  h.recordAll ((Registry.repeated (Project.namesOf dumps)).map .duplicateName)
  ExceptT.mk (pure (Project.ofDumps catalog dumps))

/-- Writes the blocks of a project to a file. -/
def emit (h : Host m File) (c : Config) (file : File) (units : List SourceUnit) :
    m (Except RunError Unit) := do
  h.recordAll (emissionEvents c units)
  let written := emitUnits c units
  match ← h.write file written.text with
  | .error fault => pure (.error (.cannotWrite fault))
  | .ok _ => pure (written.outcome.mapError .emission)

/-- Runs as the arguments ask. -/
def generate (h : Host m File) (a : Arguments) : m (Except RunError Unit) := do
  match ← h.create a.output with
  | .error fault => pure (.error (.cannotCreate a.output fault))
  | .ok file =>
    h.record a.startEvent
    match ← (h.loadProject a).run with
    | .error e => pure (.error (.load e))
    | .ok project => h.emit a.config file project.units

end Host

end DeclGen
