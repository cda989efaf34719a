import DeclGen.Declaration

/-!
# Names of members in the output

Two annotations rename a member: a serialization contract names it in the argument `Name`, a
property annotation in its first positional argument. The contract goes before the property
annotation. Of each only the first attribute on the member counts, and only a text renames.
-/

namespace DeclGen

/-- An annotation that can rename a member. -/
inductive Renamer where
  | dataMember
  | jsonProperty
  deriving DecidableEq, Repr

namespace Renamer

/-- All annotations that rename, the one of highest precedence first. -/
def precedence : List Renamer := [.dataMember, .jsonProperty]

/-- The attribute that carries the annotation. -/
def attributeName : Renamer → String
  | .dataMember => "DataMember"
  | .jsonProperty => "JsonProperty"

/-- The argument of an attribute that holds the new name. -/
def argument? : Renamer → Attribute → Option AttributeValue
  | .dataMember, a => a.namedArg? "Name"
  | .jsonProperty, a => a.positional.head?

/-- The new name that the first attribute of this kind gives, if that is a text. -/
def newName? (renamer : Renamer) (attributes : List Attribute) : Option String := do
  let first ← attributes.find? (·.isNamed renamer.attributeName)
  let value ← renamer.argument? first
  value.text?

end Renamer

namespace Member

/-- The new names that a member's annotations give, in order of precedence. -/
def renames (m : Member) : List (Renamer × String) :=
  Renamer.precedence.filterMap fun renamer =>
    (renamer.newName? m.attributes).map (renamer, ·)

/-- The name of the member in the output: the first new name, else the declared one. -/
def outputName (m : Member) : String :=
  match m.renames with
  | [] => m.name
  | (_, name) :: _ => name

/-- A member is optional exactly when its values are references. -/
def isOptional (m : Member) : Bool :=
  m.type.isReference

end Member

end DeclGen
