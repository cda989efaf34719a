import DeclGen.Declaration
import DeclGen.Shape

/-!
# Index signatures and parents of a declaration

A declaration that implements a dictionary or an enumerable shows this in its block as one *index
signature*. A dictionary goes before an enumerable; if its key can be no index key, the
declaration has no index signature at all.

Where the base is declared in the units at hand, the base's block already shows what the base
implements, and the block names that base as its parent; so only the interfaces which the
declaration names itself count then.
-/

namespace DeclGen

/-- The index signature of a block. -/
inductive IndexSignature where
  /-- A dictionary's keys and values. -/
  | keyed (key : IndexKey) (value : Shape)
  /-- The elements of an enumerable. -/
  | indexed (element : Shape)
  deriving DecidableEq

namespace IndexSignature

/-- The line of an index signature. -/
def text : IndexSignature → String
  | .keyed key value => "[key: " ++ key.text ++ "]: " ++ value.text ++ ";"
  | .indexed element => "[index: number]: " ++ element.text ++ ";"

/-- Key and value type, if the type is a dictionary of two arguments. -/
def dictionaryArgs? (t : NamedType) : Option (SourceType × SourceType) :=
  match t.special, t.args with
  | .genericDictionary, [key, value] => some (key, value)
  | _, _ => none

/-- The element type, if the type is an enumerable of one argument. -/
def enumerableArg? (t : NamedType) : Option SourceType :=
  match t.special, t.args with
  | .genericEnumerable, [element] => some element
  | _, _ => none

/-- The index signature that a list of interfaces calls for. -/
def ofInterfaces? (interfaces : List NamedType) : Option IndexSignature :=
  match interfaces.findSome? dictionaryArgs? with
  | some (key, value) => (IndexKey.ofType? key).map fun k => .keyed k value.shape
  | none => (interfaces.findSome? enumerableArg?).map fun element => .indexed element.shape

end IndexSignature

namespace TypeDecl

/-- Whether the base is declared in the units at hand. -/
def hasDeclaredBase (d : TypeDecl) : Bool :=
  d.base.any (·.declared)

/-- The interfaces that can call for an index signature. -/
def signatureInterfaces (d : TypeDecl) : List NamedType :=
  if d.hasDeclaredBase then d.interfaces else d.allInterfaces

/-- The index signature of the declaration's block, if it has one. -/
def indexSignature? (d : TypeDecl) : Option IndexSignature :=
  IndexSignature.ofInterfaces? d.signatureInterfaces

/-- The parent that the block names: the base, if it is declared in the units at hand. -/
def parent? (d : TypeDecl) : Option String :=
  (d.base.filter (·.declared)).map (·.name)

end TypeDecl

end DeclGen
