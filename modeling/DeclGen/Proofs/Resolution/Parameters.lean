import DeclGen.Proofs.Resolution.Everywhere

/-!
# Where type parameters come from

A type parameter gets into a type from the scope only: the type that a reference resolves to
mentions no parameter that the types in scope do not mention
(`DeclGen.Names.parametersIn_of_resolve`). Catalogs add none, since nothing that resolution makes is
a type parameter (`DeclGen.Names.Makes`).
-/

namespace DeclGen

namespace Scope

/-- The types in scope mention parameters of some set only. -/
def ParametersIn (names : String → Prop) (scope : Scope) : Prop :=
  ∀ e ∈ scope, e.2.ParametersIn names

theorem ParametersIn.ofParameters (parameters : List String) :
    (Scope.ofParameters parameters).ParametersIn (· ∈ parameters) := by
  intro e he
  obtain ⟨p, hp, rfl⟩ := List.mem_map.mp he
  exact .parameter hp

end Scope

namespace Names

variable {n : Names} {names : String → Prop}

/-- **A reference resolves to a type with the parameters of its scope.** -/
theorem parametersIn_of_resolve {pending : List Catalog.Key} {scope : Scope} {r : Reference}
    {t : SourceType} (hkind : ∀ m, n.registry.kind? m ≠ some .parameter)
    (hscope : scope.ParametersIn names) (h : n.resolve pending scope r = .ok t) :
    t.ParametersIn names := by
  refine everywhere_of_resolve ⟨?_, ?_, ?_⟩ hscope h
  · rintro name kind _ hk rfl
    exact absurd hk (hkind name)
  · exact fun hb hp => absurd hp (NamedTypeOf.kind_builtin_ne_parameter hb).1
  · exact fun _ hne _ hp => absurd hp hne

end Names

end DeclGen
