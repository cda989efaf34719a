import DeclGen.SourceType.Basic

/-!
# Declarations

A *source unit* is one input file: a name and its declarations in source order. A declaration is
a type (class, struct or interface) or an enum. A type declaration keeps two interface lists: the
ones it names itself, and the transitive ones, which are filled in when inheritance is linked.
-/

namespace DeclGen

/-- A constant argument of an attribute. -/
inductive AttributeValue where
  | string (text : String)
  | int (value : Int64)
  | bool (value : Bool)
  | null
  /-- Any other constant: a floating-point number, a list, a type. -/
  | other
  deriving DecidableEq

namespace AttributeValue

/-- The text, if the value is one. -/
def text? : AttributeValue → Option String
  | .string s => some s
  | _ => none

end AttributeValue

/-- An attribute attached to a member. -/
structure Attribute where
  /-- The name of the attribute class, with or without its ending `Attribute`. -/
  name : String
  /-- The positional arguments. -/
  positional : List AttributeValue := []
  /-- The named arguments in order of first appearance, each name once. -/
  named : List (String × AttributeValue) := []
  deriving DecidableEq

namespace Attribute

/-- Sets a named argument: a new name goes to the end, a present one keeps its place and takes
the new value. -/
def setNamed (named : List (String × AttributeValue)) (key : String) (value : AttributeValue) :
    List (String × AttributeValue) :=
  if named.any (·.1 == key) then named.map fun e => if e.1 == key then (key, value) else e
  else named ++ [(key, value)]

/-- The named arguments that a list of settings leaves, taken in order. -/
def collectNamed (settings : List (String × AttributeValue)) : List (String × AttributeValue) :=
  settings.foldl (fun named e => setNamed named e.1 e.2) []

/-- The named argument of that name. -/
def namedArg? (a : Attribute) (key : String) : Option AttributeValue :=
  a.named.lookup key

/-- The ending that an attribute name may carry. -/
def ending : List Char := "Attribute".toList

/-- An attribute name without its ending, which is taken off once. -/
def shortName (name : String) : List Char :=
  if ending.isSuffixOf name.toList then name.toList.take (name.toList.length - ending.length)
  else name.toList

/-- Whether the attribute is the one called `name`, each written with or without the ending. -/
def isNamed (a : Attribute) (name : String) : Bool :=
  shortName a.name == shortName name

end Attribute

/-- A field or property. -/
structure Member where
  name : String
  type : SourceType
  attributes : List Attribute := []

/-- A class, struct or interface declaration. -/
structure TypeDecl where
  name : String
  kind : Kind
  base : Option NamedType := none
  /-- The interfaces that the declaration names itself. -/
  interfaces : List NamedType := []
  /-- The transitive interfaces, those inherited from the base included. -/
  allInterfaces : List NamedType := []
  members : List Member := []

/-- A member of an enum, with the value of its initializer if it has one. -/
structure EnumMember where
  name : String
  value : Option Int64 := none

/-- An enum declaration. -/
structure EnumDecl where
  name : String
  members : List EnumMember := []

/-- A declaration of a source unit. -/
inductive Declaration where
  | type (decl : TypeDecl)
  | enum (decl : EnumDecl)

namespace Declaration

/-- The declared name. -/
def name : Declaration → String
  | .type d => d.name
  | .enum d => d.name

/-- The declared kind. -/
def kind : Declaration → Kind
  | .type d => d.kind
  | .enum _ => .enumType

end Declaration

/-- The declarations of one input, in source order. -/
structure SourceUnit where
  name : String
  declarations : List Declaration := []

end DeclGen
