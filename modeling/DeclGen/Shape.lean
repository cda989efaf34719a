import DeclGen.SourceType.Basic

/-!
# Shapes

The output knows far fewer types than the source: it has primitives, arrays, index signatures and
names. The *shape* of a source type is what it becomes there. Every type has exactly one shape;
a type that no rule recognises gets the `fallback` shape, which is written `any`.

The rules for a named type are tried in this order.

* A dictionary role with two arguments, of which the first can be an index key.
* A primitive role.
* A collection role with exactly one argument.
* A type declared in the units at hand: it is written by its name.
* The first listed interface whose own shape is not `any`.
-/

namespace DeclGen

/-- The primitive types of the output. -/
inductive Primitive where
  | boolean
  /-- Integral, floating and decimal types. -/
  | number
  /-- A single character, which is written as a number. -/
  | char
  | string
  /-- The universal base type. -/
  | any
  deriving DecidableEq, Repr

namespace Primitive

/-- How a primitive is written. -/
def text : Primitive → String
  | .boolean => "boolean"
  | .number | .char => "number"
  | .string => "string"
  | .any => "any"

/-- The primitive that a role stands for by itself. -/
def ofSpecial? (special : Special) : Option Primitive :=
  match special with
  | .boolean => some .boolean
  | .char => some .char
  | .string => some .string
  | .object => some .any
  | s => if s.isNumeric then some .number else none

end Primitive

/-- The key type of an index signature. -/
inductive IndexKey where
  | string
  | number
  deriving DecidableEq, Repr

namespace IndexKey

/-- How a key type is written. -/
def text : IndexKey → String
  | .string => "string"
  | .number => "number"

/-- The index key that a type can serve as: texts and numbers can, arrays and other types not. -/
def ofType? : SourceType → Option IndexKey
  | .array _ => none
  | .named t =>
    if t.special = .string then some .string
    else if t.special.isNumeric then some .number
    else none

end IndexKey

/-- What a source type becomes in the output. -/
inductive Shape where
  | primitive (p : Primitive)
  | array (element : Shape)
  /-- A list, set, collection or enumerable of one element type. -/
  | collection (element : Shape)
  | dictionary (key : IndexKey) (value : Shape)
  /-- A type that is declared in the units at hand. -/
  | declared (name : String)
  /-- No rule applies. -/
  | fallback
  deriving DecidableEq

namespace Shape

/-- Whether the shape is written as plain `any`. -/
def isAny : Shape → Bool
  | .fallback | .primitive .any => true
  | _ => false

/-- The type expression of a shape. -/
def text : Shape → String
  | .primitive p => p.text
  | .array element | .collection element => element.text ++ "[]"
  | .dictionary key value => "\x7b [key: " ++ key.text ++ "]: " ++ value.text ++ "; \x7d"
  | .declared name => name
  | .fallback => "any"

/-- The shape that a role has whatever the type's arguments are. -/
def ofSpecial? (special : Special) : Option Shape :=
  if special = .enumerable then some (.array (.primitive .any))
  else (Primitive.ofSpecial? special).map .primitive

end Shape

namespace SourceType

mutual

/-- The shape of a type. -/
def shape : SourceType → Shape
  | .array element => .array element.shape
  | .named ⟨name, _, special, args, declared, interfaces⟩ =>
    match if special = .genericDictionary then dictionaryShape args else none with
    | some s => s
    | none =>
      match Shape.ofSpecial? special with
      | some s => s
      | none =>
        match if special.isCollection then collectionShape args else none with
        | some s => s
        | none => if declared then .declared name else interfaceShape interfaces
termination_by structural t => t

/-- The dictionary that two type arguments make, if the first can be an index key. -/
def dictionaryShape : List SourceType → Option Shape
  | [key, value] => (IndexKey.ofType? key).map fun k => .dictionary k value.shape
  | _ => none
termination_by structural args => args

/-- The collection that a single type argument makes. -/
def collectionShape : List SourceType → Option Shape
  | [element] => some (.collection element.shape)
  | _ => none
termination_by structural args => args

/-- The first shape of a list of interfaces that is not `any`. -/
def interfaceShape : List SourceType → Shape
  | [] => .fallback
  | t :: rest => let s := t.shape; if s.isAny then interfaceShape rest else s
termination_by structural interfaces => interfaces

end

end SourceType

/-- The shape of a named type. -/
def NamedTypeOf.shape (t : NamedType) : Shape :=
  (SourceType.named t).shape

end DeclGen
