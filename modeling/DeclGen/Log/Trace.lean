import DeclGen.Emission
import DeclGen.Log.Event

/-!
# Events of emission

The events that come with the emission of declarations. They follow the rules for shapes and
blocks: a type tells how it came by its shape, after the types that it was looked for in.
-/

namespace DeclGen

namespace SourceType

mutual

/-- The events of finding the shape of a type. -/
def shapeEvents : SourceType → List Log.Event
  | .array element => element.shapeEvents
  | .named ⟨name, _, special, args, declared, interfaces⟩ =>
    match if special = .genericDictionary then dictionaryEvents args else none with
    | some events => events
    | none =>
      if (Shape.ofSpecial? special).isSome then []
      else
        match if special.isCollection then collectionEvents args else none with
        | some events => events
        | none => if declared then [] else interfaceEvents name interfaces
termination_by structural t => t

/-- The events of a dictionary's value, if the arguments make a dictionary. -/
def dictionaryEvents : List SourceType → Option (List Log.Event)
  | [key, value] => (IndexKey.ofType? key).map fun _ => value.shapeEvents
  | _ => none
termination_by structural args => args

/-- The events of a collection's element, if the arguments make a collection. -/
def collectionEvents : List SourceType → Option (List Log.Event)
  | [element] => some element.shapeEvents
  | _ => none
termination_by structural args => args

/-- The events of looking through interfaces for a shape, with the one for the type itself at the
end. -/
def interfaceEvents (name : String) : List SourceType → List Log.Event
  | [] => [.noShape name]
  | t :: rest =>
    let shape := t.shape
    t.shapeEvents
      ++ if shape.isAny then interfaceEvents name rest else [.shapedByInterface name shape]
termination_by structural interfaces => interfaces

end

end SourceType

namespace TypeDecl

/-- The events of finding the index signature of a declaration. -/
def signatureEvents (d : TypeDecl) : List Log.Event :=
  match d.signatureInterfaces.findSome? IndexSignature.dictionaryArgs? with
  | some (key, value) =>
    match IndexKey.ofType? key with
    | some _ => value.shapeEvents
    | none => [.noIndexKey d.name]
  | none =>
    match d.signatureInterfaces.findSome? IndexSignature.enumerableArg? with
    | some element => element.shapeEvents
    | none => []

end TypeDecl

namespace Declaration

/-- The events of making the block of a declaration. -/
def blockEvents : Declaration → List Log.Event
  | .type d => d.signatureEvents ++ d.members.flatMap (·.type.shapeEvents)
  | .enum _ => []

/-- The events of emitting declarations, up to the first that is refused. -/
def emissionEvents (c : Config) : List Declaration → List Log.Event × Bool
  | [] => ([], true)
  | d :: rest =>
    let start := Log.Event.emittingDeclaration d.name d.kind
    match d.blockText c with
    | .error _ => ([start], false)
    | .ok _ =>
      let (events, isComplete) := emissionEvents c rest
      (start :: d.blockEvents ++ events, isComplete)

end Declaration

/-- The events of emitting units, up to the first declaration that is refused. -/
def emissionEvents (c : Config) : List SourceUnit → List Log.Event
  | [] => []
  | u :: rest =>
    let (events, isComplete) := Declaration.emissionEvents c u.declarations
    .emittingUnit u.name u.declarations.length :: events
      ++ if isComplete then emissionEvents c rest else []

end DeclGen
