import DeclGen.FileFault
import DeclGen.Json.Fault

/-!
# Errors of loading

Everything that can go wrong between the files and the resolved declarations, with the one
function that words it.
-/

namespace DeclGen

/-- The places of a declaration where only a named type may stand. -/
inductive NamedPlace where
  | base
  | interface
  deriving DecidableEq, Repr

/-- Why dumps and catalogs cannot be loaded. -/
inductive LoadError where
  | unreadable (path : String) (fault : FileFault)
  /-- A text that is no dump or catalog. -/
  | invalidData (origin : String) (fault : Json.Fault)
  | unknownSpecial (tag type : String)
  | unknownParameter (name : String)
  /-- An array stands where only a named type may stand. -/
  | notNamed (place : NamedPlace) (declaration : String)
  | cyclicInheritance (name : String)
  | duplicateEntry (name : String) (arity : Nat) (origin : String)

namespace LoadError

/-- The text of a load error. Of invalid data only the origin is told. -/
def message : LoadError → String
  | .unreadable path fault => "failed to read '" ++ path ++ "': " ++ fault.message
  | .invalidData origin _ => "invalid symbol data in '" ++ origin ++ "'"
  | .unknownSpecial tag type => "unknown special type tag '" ++ tag ++ "' on '" ++ type ++ "'"
  | .unknownParameter name => "unknown type parameter '" ++ name ++ "'"
  | .notNamed .base declaration =>
    "base type of '" ++ declaration ++ "' must be a named type"
  | .notNamed .interface declaration =>
    "interface of '" ++ declaration ++ "' must be a named type"
  | .cyclicInheritance name => "cyclic inheritance involving '" ++ name ++ "'"
  | .duplicateEntry name arity origin =>
    "duplicate catalog entry '" ++ name ++ "' with " ++ toString arity
      ++ " type parameter(s) in '" ++ origin ++ "'"

end LoadError

end DeclGen
