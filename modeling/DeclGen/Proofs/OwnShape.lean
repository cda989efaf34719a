import DeclGen.Shape

/-!
# Shapes that a type has by itself

A named type is sorted by its role and its type arguments first. If these make a shape, it is the
type's *own shape*, and neither the type's name nor its interfaces have a say in it
(`DeclGen.NamedTypeOf.ownShape?`). A type without a shape of its own is written by its name, if it
is declared, and has the shape of its interfaces otherwise (`DeclGen.NamedTypeOf.shape_eq`).
-/

namespace DeclGen

theorem SourceType.args_of_dictionaryShape {args : List SourceType} {s : Shape}
    (h : dictionaryShape args = some s) :
    ∃ key value, args = [key, value] ∧
      ∃ k, IndexKey.ofType? key = some k ∧ s = .dictionary k value.shape := by
  match args, h with
  | [key, value], h =>
    obtain ⟨k, hk, rfl⟩ := Option.map_eq_some_iff.mp h
    exact ⟨key, value, rfl, k, hk, rfl⟩

theorem SourceType.args_of_collectionShape {args : List SourceType} {s : Shape}
    (h : collectionShape args = some s) :
    ∃ element, args = [element] ∧ s = .collection element.shape := by
  match args, h with
  | [element], h =>
    cases h
    exact ⟨element, rfl, rfl⟩

namespace NamedTypeOf

/-- The shape that a named type has **by itself**, by its role and its type arguments. -/
def ownShape? (t : NamedType) : Option Shape :=
  (if t.special = .genericDictionary then SourceType.dictionaryShape t.args else none).or
    ((Shape.ofSpecial? t.special).or
      (if t.special.isCollection then SourceType.collectionShape t.args else none))

/-- A type without a shape of its own has that of its name, or of its interfaces. -/
theorem shape_eq (t : NamedType) :
    t.shape = t.ownShape?.getD
      (if t.declared then .declared t.name else SourceType.interfaceShape t.interfaces) := by
  obtain ⟨name, kind, special, args, declared, interfaces⟩ := t
  rw [shape, SourceType.shape, ownShape?]
  cases (if special = .genericDictionary then SourceType.dictionaryShape args else none) with
  | some s => rfl
  | none =>
    cases Shape.ofSpecial? special with
    | some s => rfl
    | none =>
      cases (if special.isCollection then SourceType.collectionShape args else none) <;> rfl

end NamedTypeOf

end DeclGen
