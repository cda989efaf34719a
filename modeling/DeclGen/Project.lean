import DeclGen.Catalog.Basic
import DeclGen.Inheritance
import DeclGen.Resolution

/-!
# Loading a project

A project is a list of source units whose references are resolved and whose inheritance is linked.
Loading reads every dump first, then registers the declared names of all units, resolves all
references against them and the catalog, and links.
-/

namespace DeclGen

/-- The loaded units, with the names that they declare. -/
structure Project where
  units : List SourceUnit
  registry : Registry

namespace Project

/-- Reads the dump of a named text. -/
def readDump (source : String × String) : Except LoadError (String × Dump) :=
  match Dump.ofText source.2 with
  | .ok dump => .ok (source.1, dump)
  | .error fault => .error (.invalidData source.1 fault)

/-- Reads the dumps of named texts in order. -/
def readDumps (sources : List (String × String)) : Except LoadError (List (String × Dump)) :=
  sources.mapM readDump

/-- The names and kinds that dumps declare, listed by unit. -/
def namesOf (dumps : List (String × Dump)) : List (List (String × Kind)) :=
  dumps.map fun u => u.2.declarations.map fun d => (d.name, d.kind)

/-- The registry of the names that dumps declare. -/
def registryOf (dumps : List (String × Dump)) : Registry :=
  .ofNames (namesOf dumps)

/-- Resolves and links dumps. -/
def ofDumps (catalog : Catalog) (dumps : List (String × Dump)) : Except LoadError Project := do
  let registry := registryOf dumps
  let names : Names := { registry, catalog }
  let units ← dumps.mapM names.resolveUnit
  let units ← Inheritance.link registry units
  .ok { units, registry }

/-- Loads a project from the texts of its dumps, each with the name of its unit. -/
def load (catalog : Catalog) (sources : List (String × String)) : Except LoadError Project := do
  ofDumps catalog (← readDumps sources)

end Project

end DeclGen
