import DeclGen.IndexSignature
import DeclGen.Proofs.Inheritance.Sources
import DeclGen.Proofs.Loading
import DeclGen.Proofs.TypeParts

/-!
# Loaded declarations

Between a written declaration and a loaded one there are two steps: the written one is resolved by
itself (`DeclGen.Proofs.Loading`), and all of them are linked (`DeclGen.Proofs.Inheritance.Link`).
Both keep every declaration at its place. So the written declarations and the loaded ones stand side
by side (`DeclGen.Project.loaded_written`), and a loaded type differs from the resolved one in
nothing but its transitive interfaces.
-/

namespace DeclGen

namespace Project

open Inheritance

variable {n : Names} {dumps : List (String × Dump)} {units linked : List SourceUnit}

/-- A written declaration and its **loaded** form: resolved by itself, and linked. -/
def Loaded (n : Names) (units : List SourceUnit) (d : Dump.Declaration) (D : Declaration) : Prop :=
  ∃ D₀, n.resolveDeclaration d = .ok D₀ ∧ Linked units D₀ D

theorem Loaded.name_eq {d : Dump.Declaration} {D : Declaration} (h : Loaded n units d D) :
    D.name = d.name := by
  obtain ⟨D₀, hD₀, hD⟩ := h
  rw [name_eq_of_linked hD, (Names.resolveDeclaration_name_kind hD₀).1]

/-- Enums are loaded as they are written, and nothing else is loaded as an enum. -/
theorem Loaded.enum_iff {d : Dump.Declaration} {D : Declaration} {e : EnumDecl}
    (h : Loaded n units d D) : d = .enum e ↔ D = .enum e := by
  obtain ⟨D₀, hD₀, hD⟩ := h
  cases d with
  | enum d =>
    cases hD₀
    cases hD
    constructor <;> (intro h; cases h; rfl)
  | type kind d =>
    obtain ⟨D₁, _, h⟩ := bind_eq_ok.mp hD₀
    cases h
    cases hD
    exact ⟨nofun, nofun⟩

/-- **A loaded type was written as a type**, and linking has added its transitive interfaces. -/
theorem Loaded.exists_type {d : Dump.Declaration} {D : TypeDecl}
    (h : Loaded n units d (.type D)) :
    ∃ kind x D₀ types, d = .type kind x ∧ n.resolveType kind.toKind x = .ok D₀ ∧
      D = { D₀ with allInterfaces := types } := by
  obtain ⟨D₀, hD₀, hD⟩ := h
  cases d with
  | enum d =>
    cases hD₀
    cases hD
  | type kind x =>
    obtain ⟨D₁, hD₁, h⟩ := bind_eq_ok.mp hD₀
    cases h
    obtain ⟨l, _, heq⟩ := exists_of_linked hD
    injection heq with heq
    exact ⟨kind, x, D₁, l.eraseDups, rfl, hD₁, heq⟩

/-- What a loaded declaration writes itself is resolved in the scope of its type parameters. -/
theorem Loaded.resolve_ownType {kind : DeclKind} {d : Dump.TypeDecl} {D : TypeDecl}
    (h : Loaded n units (.type kind d) (.type D)) {t : SourceType} (ht : t ∈ D.ownTypes) :
    ∃ r, n.resolve [] (.ofParameters d.parameters) r = .ok t := by
  obtain ⟨_, _, D₀, types, heq, hD₀, rfl⟩ := h.exists_type
  cases heq
  exact Names.resolve_ownType hD₀ ht

/-- The written declarations and the loaded ones stand side by side. -/
theorem loaded_written (hunits : dumps.mapM n.resolveUnit = .ok units)
    (hlink : link (.ofUnits units) units = .ok linked) :
    List.Forall₂ (Loaded n units) (written dumps) (allDeclarations linked) :=
  forall₂_comp (resolved_written hunits) (linked_allDeclarations hlink)

/-- **A name has the kind of its first loaded declaration.** -/
theorem kind?_registryOf (hunits : dumps.mapM n.resolveUnit = .ok units)
    (hlink : link (.ofUnits units) units = .ok linked) (name : String) :
    (registryOf dumps).kind? name = (firstNamed linked name).map (·.kind) := by
  rw [registryOf_eq_ofUnits hunits, ← ofUnits_unlinked units, ← map_unlinked_of_link_ok hlink,
    ofUnits_unlinked, Registry.kind?_ofUnits]

/-- **The first loaded declaration of a name is the first written one.** -/
theorem exists_firstWritten? (hloaded : List.Forall₂ (Loaded n units) (written dumps)
    (allDeclarations linked)) {name : String} {X : TypeDecl}
    (hX : firstType? linked name = some X) :
    ∃ kind x, firstWritten? dumps name = some x ∧ Loaded n units (.type kind x) (.type X) := by
  have hsame : ∀ d D, Loaded n units d D → (d.name == name) = (D.name == name) :=
    fun d D h => by rw [h.name_eq]
  obtain ⟨d, hd, hdX⟩ := exists_find?_of_find? hloaded hsame (firstType?_eq_some.mp hX)
  obtain ⟨kind, x, _, _, rfl, -⟩ := hdX.exists_type
  exact ⟨kind, x, by rw [firstWritten?, hd], hdX⟩

end Project

namespace Inheritance

/-- What holds at every depth of what a declaration writes holds of what its ancestors bring. -/
theorem Brings.everywhere {P : NamedType → Prop} {D : TypeDecl} {j : NamedType}
    (hj : Brings D.ancestors j) (hown : ∀ t ∈ D.ownTypes, t.Everywhere P) :
    (SourceType.named j).Everywhere P := by
  obtain ⟨a, ha, hj⟩ := hj
  have htype := hown _ (TypeDecl.type_mem_ownTypes ha)
  rcases hj with rfl | hj
  · exact htype
  · obtain ⟨s, hs, hsj⟩ := List.mem_filterMap.mp hj
    cases s with
    | array _ => cases hsj
    | named t =>
      cases hsj
      exact htype.of_mem_interfaces hs

/-- **What holds at every depth of what declarations write holds of what they inherit.** -/
theorem everywhere_allInterfaces {P : NamedType → Prop} {units linked : List SourceUnit}
    (hlink : link (.ofUnits units) units = .ok linked)
    (hown : ∀ D, .type D ∈ allDeclarations linked → ∀ t ∈ D.ownTypes, t.Everywhere P)
    {D : TypeDecl} (hD : .type D ∈ allDeclarations linked) {j : NamedType}
    (hj : j ∈ D.allInterfaces) : (SourceType.named j).Everywhere P := by
  obtain ⟨l, hl, hall⟩ := exists_listing_linked hlink hD
  rw [hall, List.mem_eraseDups] at hj
  rcases hl.source hj with hbrings | ⟨a, _, _, m, X, _, hX, hbrings⟩
  · exact hbrings.everywhere (hown D hD)
  · exact hbrings.everywhere (hown X (mem_of_firstType? hX))

/-- An index signature is made from interfaces that are inherited. -/
theorem mem_allInterfaces_of_mem_signatureInterfaces
    {units linked : List SourceUnit} (hlink : link (.ofUnits units) units = .ok linked)
    {D : TypeDecl} (hD : .type D ∈ allDeclarations linked) {j : NamedType} (hj : j ∈ D.signatureInterfaces) :
    j ∈ D.allInterfaces := by
  unfold TypeDecl.signatureInterfaces at hj
  split at hj
  · exact mem_allInterfaces_of_mem_interfaces hlink hD hj
  · exact hj

end Inheritance

end DeclGen
