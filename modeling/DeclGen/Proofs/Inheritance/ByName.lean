import DeclGen.Proofs.IndexSignature
import DeclGen.Proofs.Inheritance.Sources
import DeclGen.Proofs.Loaded
import DeclGen.Proofs.Resolution.Parameters

/-!
# Interfaces are inherited by name

A declaration can be generic, and a reference to it has type arguments. But what is inherited is
found by the *name* of the declaration, and a linked declaration does not know its type parameters
any more. So a transitive interface is inherited as it stands in the list of the declaration that it
comes from: the type arguments of the reference are not put in for that declaration's type
parameters. What this means for a loaded project is `DeclGen.Project.inherited_by_name`.

* Where an inherited interface mentions none of the type parameters, putting in the arguments would
  change nothing, and the interface is the instantiated one.
* Where it mentions some, the type parameter itself is inherited, through however many declarations.
  It is not any type parameter: it belongs to a declaration that is inherited from.
* An index signature shows the type argument of the interface that it is made from, and a type
  parameter is shown as `any`.
-/

namespace DeclGen

namespace Project

open Inheritance
open SourceType (HasPart)

variable {n : Names} {dumps : List (String × Dump)} {units linked : List SourceUnit}

/-- What the ancestors of a loaded declaration bring mentions the type parameters of its own
declaration only. -/
theorem Loaded.parametersIn_of_brings {kind : DeclKind} {d : Dump.TypeDecl} {D : TypeDecl}
    (h : Loaded n units (.type kind d) (.type D))
    (hkind : ∀ m, n.registry.kind? m ≠ some .parameter) {j : NamedType}
    (hj : Brings D.ancestors j) : (SourceType.named j).ParametersIn (· ∈ d.parameters) := by
  refine hj.everywhere fun t ht => ?_
  obtain ⟨r, hr⟩ := h.resolve_ownType ht
  exact Names.parametersIn_of_resolve hkind (.ofParameters d.parameters) hr

/-! ### Inheritance by name -/

/-- The type parameters of the declaration that is written as `d`, and of those it **inherits
from**. -/
def ParameterOf (dumps : List (String × Dump)) (linked : List SourceUnit) (d : Dump.TypeDecl)
    (D : TypeDecl) (name : String) : Prop :=
  name ∈ d.parameters ∨
    ∃ a ∈ D.ancestors, a.type.declared = true ∧ ∃ m x,
      Relation.ReflTransGen (Refers linked) a.type.name m ∧
        firstWritten? dumps m = some x ∧ name ∈ x.parameters

/-- **An inherited type parameter** belongs to a declaration that is inherited from. -/
theorem parametersIn_allInterfaces (hunits : dumps.mapM n.resolveUnit = .ok units)
    (hkind : ∀ m, n.registry.kind? m ≠ some .parameter)
    (hlink : link (.ofUnits units) units = .ok linked) {kind : DeclKind} {d : Dump.TypeDecl}
    {D : TypeDecl} (hD : (.type kind d, .type D) ∈ (written dumps).zip (allDeclarations linked))
    {j : NamedType} (hj : j ∈ D.allInterfaces) :
    (SourceType.named j).ParametersIn (ParameterOf dumps linked d D) := by
  have hloaded := loaded_written hunits hlink
  obtain ⟨l, hl, hall⟩ := exists_listing_linked hlink (List.of_mem_zip hD).2
  rw [hall, List.mem_eraseDups] at hj
  rcases hl.source hj with hbrings | ⟨a, ha, hdecl, m, X, hm, hX, hbrings⟩
  · -- The interface is named by the declaration itself, so it is in the scope of its parameters.
    have hown := List.forall₂_zip hloaded hD
    exact (hown.parametersIn_of_brings hkind hbrings).mono fun _ => Or.inl
  · -- It is named by a declaration on the way, which the name of that one finds.
    obtain ⟨_, x, hx, hxX⟩ := exists_firstWritten? hloaded hX
    exact (hxX.parametersIn_of_brings hkind hbrings).mono fun _ hname =>
      Or.inr ⟨a, ha, hdecl, m, x, hm, hx, hname⟩

theorem lookup_zip_eq_none {parameters : List String} {args : List SourceType} {name : String}
    (h : name ∉ parameters) : (parameters.zip args).lookup name = none := by
  rw [List.lookup_eq_none_iff]
  intro e he
  have hname : e.1 ∈ parameters := (List.of_mem_zip he).1
  simpa using fun heq : name = e.1 => h (heq ▸ hname)

/-- **Interfaces are inherited by name**, for every loaded project and every type declaration `D` in
it, which is written as `d`.

An interface in the list of a declared ancestor is in the list of `D` as it stands there; where it
mentions none of the ancestor's type parameters, that is also how it stands with the type arguments
put in. A type parameter in the list of `D` is one of `d`, or of a declaration that `D` inherits
from. The index signature of `D` is made from an interface in its list and shows the last type
argument of that, with `any` for a type parameter. -/
theorem inherited_by_name {catalog : Catalog} {p : Project} (h : ofDumps catalog dumps = .ok p)
    {kind : DeclKind} {d : Dump.TypeDecl} {D : TypeDecl}
    (hD : (.type kind d, .type D) ∈ (written dumps).zip (allDeclarations p.units)) :
    (∀ a ∈ D.ancestors, a.type.declared = true → ∀ x X,
      firstWritten? dumps a.type.name = some x → firstType? p.units a.type.name = some X →
        ∀ j ∈ X.allInterfaces, j ∈ D.allInterfaces ∧
          ((∀ q, HasPart q (.named j) → q.kind = .parameter → q.name ∉ x.parameters) →
            (SourceType.named j).subst (x.parameters.zip a.type.args) ∈
              D.allInterfaces.map SourceType.named)) ∧
    (∀ j ∈ D.allInterfaces, ∀ q, HasPart q (.named j) → q.kind = .parameter →
      ParameterOf dumps p.units d D q.name) ∧
    ∀ sig, D.indexSignature? = some sig →
      ∃ j ∈ D.allInterfaces, IndexSignature.ofInterfaces? [j] = some sig ∧
        ∃ s, j.args.getLast? = some s ∧ sig.value = s.shape ∧
          ∀ q, s = .named q → q.kind = .parameter → sig.value.text = "any" := by
  obtain ⟨units, hunits, hlink⟩ := ofDumps_ok h
  have hmem : .type D ∈ allDeclarations p.units := (List.of_mem_zip hD).2
  have hparameters : ∀ j ∈ D.allInterfaces,
      (SourceType.named j).ParametersIn (ParameterOf dumps p.units d D) :=
    fun j hj => parametersIn_allInterfaces hunits (kind?_registryOf_ne_parameter hunits) hlink hD hj
  refine ⟨fun a ha hdecl x X hx hX j hj => ?_, fun j hj q hq hk => ?_, fun sig hsig => ?_⟩
  · have hj' := mem_allInterfaces_of_ancestor hlink hmem ha hdecl hX hj
    refine ⟨hj', fun hfree => ?_⟩
    rw [SourceType.subst_eq_self _ fun q hq hk => lookup_zip_eq_none (hfree q hq hk)]
    exact List.mem_map_of_mem hj'
  · exact (hparameters j hj q hq hk).2
  · obtain ⟨j, hj, hone⟩ := IndexSignature.exists_of_ofInterfaces? hsig
    have hj' := mem_allInterfaces_of_mem_signatureInterfaces hlink hmem hj
    obtain ⟨s, hs, hvalue⟩ := IndexSignature.value_of_ofInterfaces? hone
    refine ⟨j, hj', hone, s, hs, hvalue, ?_⟩
    rintro q rfl hk
    have hq := (hparameters j hj').of_mem_args (List.mem_of_getLast? hs) q .self hk
    rw [hvalue, hq.1]
    exact SourceType.text_shape_parameter q.name

/-- A catalog with one entry: a generic enumerable. -/
def enumerableCatalog : Catalog :=
  { entries :=
      [{ name := "IEnumerable", kind := .interfaceType, special := .genericEnumerable
         parameters := ["T"] }] }

/-- The generic enumerable of a type. -/
def enumerableOf (t : SourceType) : NamedType :=
  { name := "IEnumerable", kind := .interfaceType, special := .genericEnumerable, args := [t] }

/-- The interface `IBox<T>` is an `IEnumerable<T>`. -/
def writtenBox : Dump.TypeDecl :=
  { name := "IBox", parameters := ["T"]
    interfaces := [.named "IEnumerable" [.simple "T"] none none none] }

/-- The class `Ints` is an `IBox<int>`. -/
def writtenInts : Dump.TypeDecl :=
  { name := "Ints", interfaces := [.named "IBox" [.simple "int"] none none none] }

/-- One unit with the box and the class. -/
def boxes : List (String × Dump) :=
  [("boxes", ⟨[.type .interfaceType writtenBox, .type .classType writtenInts]⟩)]

/-- The box interface, loaded. -/
def loadedBox : TypeDecl :=
  let elements := enumerableOf (.named (.external "T" .parameter))
  { name := "IBox", kind := .interfaceType, interfaces := [elements], allInterfaces := [elements] }

/-- The class, loaded: its list has the enumerable of `T`. -/
def loadedInts : TypeDecl :=
  let box := NamedTypeOf.ofDeclared "IBox" .interfaceType [.builtin "int"]
  { name := "Ints", kind := .classType, interfaces := [box]
    allInterfaces := [box, enumerableOf (.named (.external "T" .parameter))] }

/-- The boxes, loaded. -/
def loadedBoxes : Project :=
  { units := [{ name := "boxes", declarations := [.type loadedBox, .type loadedInts] }]
    registry := registryOf boxes }

theorem ofDumps_boxes : ofDumps enumerableCatalog boxes = .ok loadedBoxes := by cbv

theorem inherited_by_name_boxes :
    ofDumps enumerableCatalog boxes = .ok loadedBoxes ∧
      (.type .classType writtenInts, .type loadedInts) ∈
        (written boxes).zip (allDeclarations loadedBoxes.units) ∧
      (∀ j ∈ loadedBox.allInterfaces, j ∈ loadedInts.allInterfaces) ∧
      ParameterOf boxes loadedBoxes.units writtenInts loadedInts "T" := by
  have hmem : (.type .classType writtenInts, .type loadedInts) ∈
      (written boxes).zip (allDeclarations loadedBoxes.units) := .tail _ (.head _)
  obtain ⟨hinherited, hparameters, -⟩ := inherited_by_name ofDumps_boxes hmem
  refine ⟨ofDumps_boxes, hmem, fun j hj => ?_, ?_⟩
  · exact (hinherited _ (.head _) rfl writtenBox loadedBox rfl rfl j hj).1
  · exact hparameters _ (.tail _ (.head _)) (.external "T" .parameter) (.arg (.head _) .self) rfl

/-- **Type arguments are not put in**: the box is an `IEnumerable<T>`, and the class, which is an
`IBox<int>`, is no `IEnumerable<int>`. Its list has the type parameter `T` of the box, and its index
signature shows `any`. -/
theorem not_instantiated :
    ∃ p, ofDumps enumerableCatalog boxes = .ok p ∧
      (.type .classType writtenInts, .type loadedInts) ∈
        (written boxes).zip (allDeclarations p.units) ∧
      ∃ a ∈ loadedInts.ancestors, a.type.declared = true ∧
        firstWritten? boxes a.type.name = some writtenBox ∧
        writtenBox.parameters.Nodup ∧ writtenBox.parameters.length = a.type.args.length ∧
        firstType? p.units a.type.name = some loadedBox ∧
        (∃ j ∈ loadedBox.allInterfaces,
          (SourceType.named j).subst (writtenBox.parameters.zip a.type.args) ∉
            loadedInts.allInterfaces.map SourceType.named) ∧
        loadedInts.indexSignature?.map IndexSignature.text = some "[index: number]: any;" ∧
        (∃ j ∈ loadedInts.allInterfaces, HasPart (.external "T" .parameter) (.named j)) ∧
        "T" ∉ writtenInts.parameters := by
  refine ⟨loadedBoxes, ofDumps_boxes, .tail _ (.head _), _, .head _, rfl, rfl, by decide, rfl, rfl,
    ⟨_, .head _, by decide⟩, by decide, ⟨_, .tail _ (.head _), .arg (.head _) .self⟩, by decide⟩

end Project

end DeclGen
