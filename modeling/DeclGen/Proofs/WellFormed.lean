import DeclGen.Proofs.Loaded
import DeclGen.Proofs.Resolution.Parameters
import Mathlib

/-!
# The types of a loaded project are well-formed

A named type carries whether it is declared in the units at hand, and everything later relies on it:
a declared type is written by its name, and its inheritance is that of its declaration; any other
type has nothing but itself. So the mark has to be right wherever a named type occurs, in type
arguments, in arrays, in the interfaces of library types and in what is inherited, and whatever a
dump writes in place. `DeclGen.Project.WellFormed` says what right means, and
`DeclGen.Project.types_wellFormed` that it is.

Well-formedness is a property of what resolution makes, so it holds at every depth of a resolved
type (`DeclGen.Names.everywhere_of_resolve`), and linking only hands resolved types on. Type
parameters are a property of their own, since which of them may occur is different for each
declaration: those that it is written with. Linking does hand these on to other declarations; see
`DeclGen.Proofs.Inheritance.ByName`.
-/

namespace DeclGen

namespace Project

open Inheritance
open SourceType (HasPart)

/-- A named type **is well-formed** among units. -/
structure WellFormed (units : List SourceUnit) (q : NamedType) : Prop where
  /-- A declared type has the kind of the first declaration of its name. Its role and its interfaces
  are those of its declaration, and it has none of its own. -/
  declared : q.declared = true →
    (∃ D, firstNamed units q.name = some D ∧ q.kind = D.kind) ∧
      q.special = .ordinary ∧ q.interfaces = []
  /-- Any other type is a type parameter, which is nothing but a name, or a built-in type, or its
  name is declared in no unit. -/
  undeclared : q.declared = false →
    (q.kind = .parameter ∧ q.args = [] ∧ q.interfaces = [] ∧ q.special = .ordinary) ∨
      (∃ name, NamedTypeOf.builtin? name = some q) ∨
      ∀ D ∈ allDeclarations units, D.name ≠ q.name

variable {n : Names} {dumps : List (String × Dump)} {units linked : List SourceUnit}

/-- A type parameter is well-formed among any units. -/
theorem wellFormed_parameter (units : List SourceUnit) (p : String) :
    WellFormed units (.external p .parameter) :=
  ⟨nofun, fun _ => Or.inl ⟨rfl, rfl, rfl, rfl⟩⟩

/-- **What resolution makes is well-formed**, where the names know the units' declarations. -/
theorem makes_wellFormed
    (hkind : ∀ name, n.registry.kind? name = (firstNamed units name).map (·.kind)) :
    n.Makes (WellFormed units) where
  declared := by
    intro name kind args hk
    rw [hkind, Option.map_eq_some_iff] at hk
    obtain ⟨D, hD, rfl⟩ := hk
    exact ⟨fun _ => ⟨⟨D, hD, rfl⟩, rfl, rfl⟩, nofun⟩
  builtin := by
    intro name t ht
    obtain ⟨b, _, rfl⟩ := Option.map_eq_some_iff.mp ht
    exact ⟨nofun, fun _ => Or.inr (Or.inl ⟨name, ht⟩)⟩
  library := by
    intro t hd _ hnone
    rw [hkind, Option.map_eq_none_iff] at hnone
    have hother : ∀ D ∈ allDeclarations units, D.name ≠ t.name := by
      simpa using List.find?_eq_none.mp hnone
    exact ⟨fun h => absurd h (by simp [hd]), fun _ => Or.inr (Or.inr hother)⟩

/-- **What a resolved declaration writes itself** has a property of what resolution makes, if type
parameters have it. -/
theorem everywhere_ownTypes {P : NamedType → Prop} (hP : n.Makes P)
    (hparameter : ∀ p, P (.external p .parameter)) {kind : Kind} {d : Dump.TypeDecl} {D : TypeDecl}
    (h : n.resolveType kind d = .ok D) : ∀ t ∈ D.ownTypes, t.Everywhere P := by
  intro t ht
  obtain ⟨r, hr⟩ := Names.resolve_ownType h ht
  refine Names.everywhere_of_resolve hP ?_ hr
  intro e he
  obtain ⟨p, _, rfl⟩ := List.mem_map.mp he
  exact .named (hparameter p) nofun nofun

/-- Linking leaves what a declaration writes itself as it was. -/
theorem Loaded.everywhere_ownTypes {P : NamedType → Prop} {d : Dump.Declaration} {D : TypeDecl}
    (h : Loaded n units d (.type D)) (hP : n.Makes P)
    (hparameter : ∀ p, P (.external p .parameter)) : ∀ t ∈ D.ownTypes, t.Everywhere P := by
  obtain ⟨_, _, D₀, _, rfl, hD₀, rfl⟩ := h.exists_type
  exact Project.everywhere_ownTypes (D := D₀) hP hparameter hD₀

/-- What a declaration of a loaded project writes itself, and what it inherits, is well-formed at
every depth. -/
theorem everywhere_wellFormed {catalog : Catalog} {p : Project} (h : ofDumps catalog dumps = .ok p)
    {D : TypeDecl} (hD : .type D ∈ allDeclarations p.units) :
    ∀ t ∈ D.ownTypes ++ D.allInterfaces.map .named, t.Everywhere (WellFormed p.units) := by
  obtain ⟨units, hunits, hlink⟩ := ofDumps_ok h
  have hown : ∀ D, .type D ∈ allDeclarations p.units →
      ∀ t ∈ D.ownTypes, t.Everywhere (WellFormed p.units) := by
    intro D hD
    obtain ⟨d, _, hd⟩ := exists_of_mem_right (loaded_written hunits hlink) hD
    exact hd.everywhere_ownTypes (makes_wellFormed (kind?_registryOf hunits hlink))
      (wellFormed_parameter _)
  intro t ht
  rcases List.mem_append.mp ht with ht | ht
  · exact hown D hD t ht
  · obtain ⟨j, hj, rfl⟩ := List.mem_map.mp ht
    exact everywhere_allInterfaces hlink hown hD hj

/-- **The types of a loaded project are well-formed**, at every depth, in what a declaration writes
itself and in what it inherits. Type parameters in what it writes are those that the declaration at
that very place is written with. -/
theorem types_wellFormed {catalog : Catalog} {p : Project} (h : ofDumps catalog dumps = .ok p) :
    (∀ D, .type D ∈ allDeclarations p.units →
      ∀ t ∈ D.ownTypes ++ D.allInterfaces.map .named, ∀ q, HasPart q t → WellFormed p.units q) ∧
    List.Forall₂ (fun d D => ∀ X, D = .type X → ∃ kind x, d = .type kind x ∧
        ∀ t ∈ X.ownTypes, ∀ q, HasPart q t → q.kind = .parameter → q.name ∈ x.parameters)
      (written dumps) (allDeclarations p.units) := by
  obtain ⟨units, hunits, hlink⟩ := ofDumps_ok h
  refine ⟨fun D hD => everywhere_wellFormed h hD, (loaded_written hunits hlink).imp ?_⟩
  rintro d _ hd X rfl
  obtain ⟨kind, x, _, _, rfl, -⟩ := hd.exists_type
  refine ⟨kind, x, rfl, fun t ht q hq hk => ?_⟩
  obtain ⟨r, hr⟩ := hd.resolve_ownType ht
  exact (Names.parametersIn_of_resolve (kind?_registryOf_ne_parameter hunits)
    (.ofParameters x.parameters) hr q hq hk).2

/-- A bag of some type is an enumerable of arrays of it. -/
def bagCatalog : Catalog :=
  { entries :=
      [{ name := "IEnumerable", kind := .interfaceType, special := .genericEnumerable
         parameters := ["E"] },
       { name := "Bag", parameters := ["E"]
         interfaces := [.named "IEnumerable" [.array (.param "E")] none none none] }] }

/-- A shelf is a bag of its items. Its interface is declared, but written as if it were a text. -/
def writtenShelf : Dump.TypeDecl :=
  { name := "Shelf", parameters := ["T"]
    base := some (.named "Bag" [.simple "T"] none none none)
    interfaces := [.named "IItem" [.simple "int"] (some .structType) (some "string")
      (some [.simple "Bag"])] }

/-- One unit with the shelf and its interface. -/
def shelves : List (String × Dump) :=
  [("shelves", ⟨[.type .classType writtenShelf,
    .type .interfaceType { name := "IItem", parameters := ["T"] }]⟩)]

/-- The enumerable that a bag of `T` is. -/
def bagElements : NamedType :=
  { name := "IEnumerable", kind := .interfaceType, special := .genericEnumerable
    args := [.array (.named (.external "T" .parameter))] }

/-- The shelf, loaded. -/
def loadedShelf : TypeDecl :=
  let item := NamedTypeOf.ofDeclared "IItem" .interfaceType [.builtin "int"]
  { name := "Shelf", kind := .classType
    base := some
      { name := "Bag", kind := .classType, args := [.named (.external "T" .parameter)]
        interfaces := [.named bagElements] }
    interfaces := [item], allInterfaces := [item, bagElements] }

/-- The shelves, loaded. -/
def loadedShelves : Project :=
  { units := [{ name := "shelves", declarations :=
      [.type loadedShelf, .type { name := "IItem", kind := .interfaceType }] }]
    registry := registryOf shelves }

theorem ofDumps_shelves : ofDumps bagCatalog shelves = .ok loadedShelves := by cbv

theorem types_wellFormed_shelves :
    ofDumps bagCatalog shelves = .ok loadedShelves ∧
      WellFormed loadedShelves.units (.ofDeclared "IItem" .interfaceType [.builtin "int"]) ∧
      WellFormed loadedShelves.units bagElements ∧
      ∃ t ∈ loadedShelf.ownTypes, HasPart (.external "T" .parameter) t ∧
        "T" ∈ writtenShelf.parameters := by
  obtain ⟨hwell, hparameters⟩ := types_wellFormed ofDumps_shelves
  have hD : .type loadedShelf ∈ allDeclarations loadedShelves.units := .head _
  have hpart : HasPart (.external "T" .parameter) (.named bagElements) :=
    .arg (.head _) (.element .self)
  refine ⟨ofDumps_shelves, hwell _ hD _ (.tail _ (.head _)) _ .self,
    hwell _ hD _ (.tail _ (.tail _ (.tail _ (.head _)))) _ .self, _, .head _,
    .interface (.head _) hpart, ?_⟩
  cases hparameters with
  | cons hshelf _ =>
    obtain ⟨_, _, heq, hown⟩ := hshelf loadedShelf rfl
    cases heq
    exact hown _ (.head _) _ (.interface (.head _) hpart) rfl

end Project

end DeclGen
