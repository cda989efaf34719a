import DeclGen.Proofs.Resolution.Lookups
import DeclGen.Proofs.TypeParts

/-!
# What resolution makes types of

Every named type that occurs in a resolved type, at whatever depth, was put there in one of four
ways: it came with a type in scope, or it is a declared type, a built-in type or a library type that
resolution made. So a property that the last three have (`DeclGen.Names.Makes`) holds of all parts
of what a reference resolves to, if it holds of all parts of the types in scope
(`DeclGen.Names.everywhere_of_resolve`).

Catalogs need no case of their own. The interfaces of an entry are resolved in a scope that holds
nothing but arguments, and these have been resolved before.
-/

namespace DeclGen

open SourceType (Everywhere)

/-- No keyword stands for a type parameter. -/
theorem DeclKind.toKind_ne_parameter (k : DeclKind) : k.toKind ≠ .parameter := by
  cases k <;> nofun

theorem NamedTypeOf.kind_builtin_ne_parameter {name : String} {t : NamedType}
    (h : builtin? name = some t) : t.kind ≠ .parameter ∧ t.args = [] ∧ t.interfaces = [] := by
  obtain ⟨b, hb, rfl⟩ := Option.map_eq_some_iff.mp h
  have hkinds : ∀ b ∈ Builtin.all, b.kind ≠ .parameter := by decide
  exact ⟨hkinds b (List.mem_of_find?_eq_some hb), rfl, rfl⟩

namespace Scope

variable {P : NamedType → Prop}

/-- Every part of every type in scope has some property. -/
def Everywhere (P : NamedType → Prop) (scope : Scope) : Prop :=
  ∀ e ∈ scope, e.2.Everywhere P

theorem Everywhere.lookup {scope : Scope} {name : String} {t : SourceType}
    (h : scope.Everywhere P) (ht : scope.lookup name = some t) : t.Everywhere P :=
  h (name, t) (by obtain ⟨_, _, rfl, _⟩ := List.lookup_eq_some_iff.mp ht; simp)

theorem Everywhere.bind (parameters : List String) {args : List SourceType}
    (h : ∀ a ∈ args, a.Everywhere P) : (Scope.bind parameters args).Everywhere P := by
  intro e he
  exact h e.2 (List.of_mem_zip (List.mem_reverse.mp he)).2

end Scope

namespace Names

/-- **A property of what resolution makes**: declared types have it, of the kind that the name is
declared as, and built-in types, and the types of names that are not declared. -/
structure Makes (n : Names) (P : NamedType → Prop) : Prop where
  declared : ∀ {name : String} {kind : Kind} (args : List SourceType),
    n.registry.kind? name = some kind → P (.ofDeclared name kind args)
  builtin : ∀ {name : String} {t : NamedType}, NamedTypeOf.builtin? name = some t → P t
  library : ∀ {t : NamedType}, t.declared = false → t.kind ≠ .parameter →
    n.registry.kind? t.name = none → P t

variable {n : Names} {P : NamedType → Prop}

/-- A name that needs the catalog is not declared. -/
theorem kind?_eq_none_of_known? {scope : Scope} {isBare : Bool} {name : String}
    {args : List SourceType} (h : n.known? scope isBare name args = none) :
    n.registry.kind? name = none := by
  have hdeclared := (knows_eq_false_iff.mp (known?_eq_none_iff.mp h)).2
  rw [Registry.contains, Bool.not_eq_true, Option.isSome_eq_false_iff,
    Option.isNone_iff_eq_none] at hdeclared
  rw [Registry.kind?, hdeclared, Option.map_none]

/-- A name that needs no catalog stands for a type in scope, a built-in type, or a declared type
with its arguments. -/
theorem everywhere_of_known {scope : Scope} {isBare : Bool} {name : String}
    {args : List SourceType} {t : SourceType} (hP : n.Makes P) (hscope : scope.Everywhere P)
    (hargs : ∀ a ∈ args, a.Everywhere P) (h : n.known? scope isBare name args = some t) :
    t.Everywhere P := by
  have hdeclared : n.declared? name args = some t → t.Everywhere P := by
    intro h
    obtain ⟨k, hk, rfl⟩ := Option.map_eq_some_iff.mp h
    exact .named (hP.declared args hk) hargs (List.forall_mem_nil _)
  unfold known? at h
  split at h
  · rcases hs : scope.lookup name with _ | s
    · rcases hb : NamedTypeOf.builtin? name with _ | b
      · rw [hs, hb] at h
        exact hdeclared h
      · rw [hs, hb] at h
        cases h
        obtain ⟨-, ha, hi⟩ := NamedTypeOf.kind_builtin_ne_parameter hb
        exact .named (hP.builtin hb) (by simp [ha]) (by simp [hi])
    · rw [hs] at h
      cases h
      exact hscope.lookup hs
  · exact hdeclared h

/-- **A property of what resolution makes holds at every depth**, for references, for library types
and for the interfaces of catalog entries. -/
theorem everywhere_of_resolution (hP : n.Makes P) :
    (∀ (pending : List Catalog.Key) (scope : Scope) (r : Reference), scope.Everywhere P →
      ∀ t, n.resolve pending scope r = .ok t → t.Everywhere P) ∧
    (∀ (pending : List Catalog.Key) (scope : Scope) (rs : List Reference),
      scope.Everywhere P →
      ∀ ts, n.resolveAll pending scope rs = .ok ts → ∀ t ∈ ts, t.Everywhere P) ∧
    (∀ (pending : List Catalog.Key) (name : String) (args : List SourceType),
      (∀ a ∈ args, a.Everywhere P) →
      ∀ l, n.libraryType pending name args = .ok l →
        l.name = name ∧ l.declared = false ∧ l.kind ≠ .parameter ∧
          (∀ a ∈ l.args, a.Everywhere P) ∧ ∀ i ∈ l.interfaces, i.Everywhere P) ∧
    ∀ (pending : List Catalog.Key) (scope : Scope) (rs : List Reference),
      scope.Everywhere P →
      ∀ ts, n.resolveInterfaces pending scope rs = .ok ts → ∀ t ∈ ts, t.Everywhere P := by
  refine resolve.mutual_induct n _ _ _ _ ?known ?unknown ?array ?param ?noParam ?named
    ?allNil ?allCons ?unlisted ?pending ?opened ?nil ?cycle ?cons
  case known =>
    intro pending scope name t hknown hscope s h
    rcases resolve_simple_eq_ok.mp h with h | ⟨hnone, _⟩
    · exact everywhere_of_known hP hscope (List.forall_mem_nil _) h
    · simp [hknown] at hnone
  case unknown =>
    intro pending scope name hnone ih hscope s h
    rcases resolve_simple_eq_ok.mp h with h | ⟨_, l, hl, rfl⟩
    · simp [hnone] at h
    · obtain ⟨rfl, hd, hk, hargs, hinterfaces⟩ := ih (List.forall_mem_nil _) l hl
      exact .named (hP.library hd hk (kind?_eq_none_of_known? hnone)) hargs hinterfaces
  case array =>
    intro pending scope element ih hscope s h
    obtain ⟨t, ht, rfl⟩ := resolve_array_eq_ok.mp h
    exact (ih hscope t ht).array
  case param =>
    intro pending scope name t _ hscope s h
    exact hscope.lookup (resolve_param_eq_ok.mp h)
  case noParam =>
    intro pending scope name hnone _ s h
    simp [resolve_param_eq_ok.mp h] at hnone
  case named =>
    intro pending scope name args kind special interfaces iha ihl ihi hscope s h
    obtain ⟨as, has, h | ⟨hnone, l, hl, s', _, is, his, rfl⟩⟩ := resolve_named_eq_ok.mp h
    · exact everywhere_of_known hP hscope (iha hscope as has) h
    · obtain ⟨rfl, hd, hk, hargs, hinterfaces⟩ := ihl as (iha hscope as has) l hl
      refine .named (hP.library hd ?_ (kind?_eq_none_of_known? hnone)) hargs ?_
      · -- A kind that is written in place is a keyword's.
        cases kind with
        | none => exact hk
        | some k => exact k.toKind_ne_parameter
      · cases interfaces with
        | none =>
          cases his
          exact hinterfaces
        | some written => exact ihi hscope is his
  case allNil =>
    intro pending scope _ ts h
    rw [resolveAll_nil] at h
    cases h
    exact List.forall_mem_nil _
  case allCons =>
    intro pending scope r rest ihr ihrest hscope ts h
    rw [resolveAll_cons] at h
    obtain ⟨t, ts', ht, hts, rfl⟩ := cons_eq_ok.mp h
    exact List.forall_mem_cons.mpr ⟨ihr hscope t ht, ihrest hscope ts' hts⟩
  case unlisted =>
    intro pending name args hnone hargs l h
    rw [libraryType_unlisted hnone] at h
    cases h
    exact ⟨rfl, rfl, nofun, hargs, List.forall_mem_nil _⟩
  case pending =>
    intro pending name args e he hk hargs l h
    rw [libraryType_pending he hk] at h
    cases h
    exact ⟨rfl, rfl, e.kind.toKind_ne_parameter, hargs, List.forall_mem_nil _⟩
  case opened =>
    intro pending name args e he hk _ ih hargs l h
    rw [libraryType_open he hk] at h
    obtain ⟨is, his, h⟩ := bind_eq_ok.mp h
    cases h
    exact ⟨rfl, rfl, e.kind.toKind_ne_parameter, hargs, ih (.bind e.parameters hargs) is his⟩
  case nil =>
    intro pending scope _ ts h
    rw [resolveInterfaces_nil] at h
    cases h
    exact List.forall_mem_nil _
  case cycle =>
    intro pending scope r rest name k hsome _ ts h
    obtain ⟨hhead, hmem⟩ := Option.filter_eq_some_iff.mp hsome
    rw [resolveInterfaces_cycle hhead (by simpa using hmem)] at h
    cases h
  case cons =>
    intro pending scope r rest hnone ihr ihrest hscope ts h
    rw [resolveInterfaces_step (head?_filter_eq_none_iff.mp hnone)] at h
    obtain ⟨t, ts', ht, hts, rfl⟩ := cons_eq_ok.mp h
    exact List.forall_mem_cons.mpr ⟨ihr hscope t ht, ihrest hscope ts' hts⟩

/-- **What a reference resolves to** has a property of what resolution makes at every depth. -/
theorem everywhere_of_resolve {pending : List Catalog.Key} {scope : Scope} {r : Reference}
    {t : SourceType} (hP : n.Makes P) (hscope : scope.Everywhere P)
    (h : n.resolve pending scope r = .ok t) : t.Everywhere P :=
  (everywhere_of_resolution hP).1 pending scope r hscope t h

end Names

end DeclGen
