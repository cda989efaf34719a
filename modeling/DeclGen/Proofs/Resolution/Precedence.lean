import DeclGen.Catalog.Standard
import DeclGen.Proofs.Loading
import DeclGen.Proofs.Resolution.Substitution
import Mathlib

/-!
# What a name stands for

A name in a reference can stand for five things, and which of them it is follows from an order of
precedence: a type parameter in scope, a built-in type, a declared type, a type of the catalog, and
in the end a library type of which nothing is known. `DeclGen.Names.Denotes` has one rule for each,
which says when it applies and what the reference resolves to then. Resolution is what the rules say
(`DeclGen.Names.resolve_eq_iff_denotes`): to each reference exactly one of them applies.

A reference may say in place of which kind a type is, which role it plays and what its interfaces
are. This counts for library types only, for those of the catalog and for unknown ones. But it has
an influence on the order too. Type parameters and built-in types are looked for only where nothing
but the name is written, so `int` with a kind beside it is a library type called `int`
(`DeclGen.Names.keyword_with_kind`).
-/

namespace DeclGen

open Catalog (Key Entry)
open SourceType (substitute)

/-- A named reference whose arguments have been resolved. -/
structure Occurrence where
  name : String
  args : List SourceType := []
  /-- The kind that is written in place. -/
  kind : Option DeclKind := none
  /-- The tag of a role that is written in place. -/
  special : Option String := none
  /-- The interfaces that are written in place. -/
  interfaces : Option (List Reference) := none

namespace Occurrence

/-- Nothing but the name is written. -/
def IsBare (o : Occurrence) : Prop :=
  o.args = [] ∧ o.kind = none ∧ o.special = none ∧ o.interfaces = none

/-- The name is **known by itself**: nothing else is written, and it is a type parameter in scope or
a built-in type. -/
def KnownByItself (scope : Scope) (o : Occurrence) : Prop :=
  o.IsBare ∧ ((scope.lookup o.name).isSome ∨ (NamedTypeOf.builtin? o.name).isSome)

end Occurrence

namespace Names

/-- A library type that has some kind, role and interfaces of its own. What is written in place goes
before each of them. -/
def writtenOver (n : Names) (pending : List Key) (scope : Scope) (o : Occurrence) (kind : Kind)
    (special : Special) (interfaces : List SourceType) : Except LoadError SourceType := do
  let special ← specialOr o.name o.special special
  let interfaces ← n.interfacesOr pending scope o.interfaces interfaces
  .ok (.named
    { name := o.name, kind := (o.kind.map DeclKind.toKind).getD kind, special, args := o.args
      interfaces })

/-- **What a name stands for**, in order of precedence: a rule applies where no earlier one does. -/
inductive Denotes (n : Names) (pending : List Key) (scope : Scope) (o : Occurrence) :
    Except LoadError SourceType → Prop
  /-- A name by itself is that of a type parameter in scope. -/
  | parameter {t : SourceType} : o.IsBare → scope.lookup o.name = some t →
      Denotes n pending scope o (.ok t)
  /-- A name by itself is a keyword or the system name of a built-in type. -/
  | builtin {t : NamedType} : o.IsBare → scope.lookup o.name = none →
      NamedTypeOf.builtin? o.name = some t → Denotes n pending scope o (.ok (.named t))
  /-- The name is declared, as the kind of its first declaration. -/
  | declared {kind : Kind} : ¬o.KnownByItself scope → n.registry.kind? o.name = some kind →
      Denotes n pending scope o (.ok (.named (.ofDeclared o.name kind o.args)))
  /-- The catalog has an entry for the name and the number of arguments. The arguments are put in
  for the entry's parameters in its interfaces. -/
  | entry {e : Entry} : ¬o.KnownByItself scope → n.registry.kind? o.name = none →
      n.catalog.find? (o.name, o.args.length) = some e →
      Denotes n pending scope o (n.genericInterfaces pending e >>= fun generic =>
        n.writtenOver pending scope o e.kind.toKind e.special
          (generic.map (substitute (Scope.bind e.parameters o.args).substitution)))
  /-- Nothing is known of the name. -/
  | unknown : ¬o.KnownByItself scope → n.registry.kind? o.name = none →
      n.catalog.find? (o.name, o.args.length) = none →
      Denotes n pending scope o (n.writtenOver pending scope o .classType .ordinary [])

variable {n : Names} {pending : List Key} {scope : Scope} {o : Occurrence}

/-! ### Names that need no catalog -/

theorem known?_of_isBare (h : o.IsBare) :
    n.known? scope (isPlain o.kind o.special o.interfaces) o.name o.args =
      (scope.lookup o.name <|> (NamedTypeOf.builtin? o.name).map .named <|>
        n.declared? o.name o.args) := by
  obtain ⟨hargs, hkind, hspecial, hinterfaces⟩ := h
  rw [hargs, hkind, hspecial, hinterfaces]
  rfl

theorem isBare_iff :
    o.IsBare ↔ (isPlain o.kind o.special o.interfaces && o.args.isEmpty) = true := by
  unfold Occurrence.IsBare isPlain
  simp only [Bool.and_eq_true, Option.isNone_iff_eq_none, List.isEmpty_iff]
  tauto

/-- A name that is not known by itself needs no catalog only if it is declared. -/
theorem known?_of_not_knownByItself (h : ¬o.KnownByItself scope) :
    n.known? scope (isPlain o.kind o.special o.interfaces) o.name o.args =
      n.declared? o.name o.args := by
  by_cases hbare : o.IsBare
  · have hnone : ¬((scope.lookup o.name).isSome ∨ (NamedTypeOf.builtin? o.name).isSome) :=
      fun hknown => h ⟨hbare, hknown⟩
    rw [not_or, Option.not_isSome_iff_eq_none, Option.not_isSome_iff_eq_none] at hnone
    rw [known?_of_isBare hbare, hnone.1, hnone.2]
    rfl
  · rw [known?, if_neg (isBare_iff.not.mp hbare)]

/-! ### The rules and resolution -/

/-- A named reference is resolved as its occurrence, once its arguments have been. -/
theorem resolve_occurrence {args : List Reference}
    (hargs : n.resolveAll pending scope args = .ok o.args) :
    n.resolve pending scope (.named o.name args o.kind o.special o.interfaces) =
      match n.known? scope (isPlain o.kind o.special o.interfaces) o.name o.args with
      | some t => .ok t
      | none =>
        n.libraryType pending o.name o.args >>= fun l =>
          specialOr o.name o.special l.special >>= fun s =>
            n.interfacesOr pending scope o.interfaces l.interfaces >>= fun is =>
              .ok (.named { l with
                kind := (o.kind.map DeclKind.toKind).getD l.kind
                special := s, interfaces := is }) := by
  rw [resolve_named, hargs]
  rfl

/-- A name alone is a reference in which nothing else is written. -/
theorem resolve_simple_eq_named (name : String) :
    n.resolve pending scope (.simple name) =
      n.resolve pending scope (.named name [] none none none) := by
  have hknown : n.known? scope (isPlain none none none) name [] = n.known? scope true name [] := rfl
  rw [resolve_named, resolveAll_nil, ok_bind, hknown]
  cases h : n.known? scope true name [] with
  | some t => exact resolve_simple_eq_ok.mpr (.inl h)
  | none =>
    rw [resolve_simple, h]
    cases n.libraryType pending name [] <;> rfl

/-- **What a rule says is what resolution gives.** -/
theorem Denotes.resolve_eq {x : Except LoadError SourceType} (h : n.Denotes pending scope o x)
    {args : List Reference} (hargs : n.resolveAll pending scope args = .ok o.args) :
    n.resolve pending scope (.named o.name args o.kind o.special o.interfaces) = x := by
  rw [resolve_occurrence hargs]
  cases h with
  | parameter hbare ht =>
    rw [known?_of_isBare hbare, ht]
    rfl
  | builtin hbare hnone ht =>
    rw [known?_of_isBare hbare, hnone, ht]
    rfl
  | declared hunknown hkind =>
    rw [known?_of_not_knownByItself hunknown, declared?, hkind]
    rfl
  | entry hunknown hkind he =>
    rw [known?_of_not_knownByItself hunknown, declared?, hkind, Option.map_none,
      libraryType_eq_instance he]
    dsimp only
    cases n.genericInterfaces pending _ <;> rfl
  | unknown hunknown hkind he =>
    rw [known?_of_not_knownByItself hunknown, declared?, hkind, Option.map_none,
      libraryType_unlisted he]
    rfl

/-- **Some rule applies to every occurrence.** -/
theorem exists_denotes (n : Names) (pending : List Key) (scope : Scope) (o : Occurrence) :
    ∃ x, n.Denotes pending scope o x := by
  by_cases hknown : o.KnownByItself scope
  · obtain ⟨hbare, hname⟩ := hknown
    cases ht : scope.lookup o.name with
    | some t => exact ⟨_, .parameter hbare ht⟩
    | none =>
      rw [ht] at hname
      obtain ⟨t, ht'⟩ := Option.isSome_iff_exists.mp (hname.resolve_left nofun)
      exact ⟨_, .builtin hbare ht ht'⟩
  · cases hkind : n.registry.kind? o.name with
    | some kind => exact ⟨_, .declared hknown hkind⟩
    | none =>
      cases he : n.catalog.find? (o.name, o.args.length) with
      | some e => exact ⟨_, .entry hknown hkind he⟩
      | none => exact ⟨_, .unknown hknown hkind he⟩

/-- **Names resolve by the order of precedence**, for every catalog, every set of declared names,
every scope and whatever is pending.

A reference whose arguments resolve to some types has the outcome that the rules of precedence give
for its name, these types and what is written in place, and no other one. A name alone is a
reference without anything else. The names that dumps declare have the kinds of their first
declarations. -/
theorem resolve_eq_iff_denotes (n : Names) (pending : List Key) (scope : Scope) :
    (∀ (o : Occurrence) (args : List Reference),
      n.resolveAll pending scope args = .ok o.args →
        ∀ x, n.resolve pending scope (.named o.name args o.kind o.special o.interfaces) = x ↔
          n.Denotes pending scope o x) ∧
    (∀ name, n.resolve pending scope (.simple name) =
      n.resolve pending scope (.named name [] none none none)) ∧
    ∀ dumps name, (Project.registryOf dumps).kind? name =
      ((Project.written dumps).find? (·.name == name)).map (·.kind) := by
  refine ⟨fun o args hargs x => ⟨?_, fun h => h.resolve_eq hargs⟩, resolve_simple_eq_named,
    Project.kind?_registryOf_written⟩
  rintro rfl
  obtain ⟨x, hx⟩ := exists_denotes n pending scope o
  rw [hx.resolve_eq hargs]
  exact hx

/-- The interface of a pair, where it is said to be a struct. Its second argument is the type
parameter `A` of the declaration around it. -/
def swappedStruct : Occurrence :=
  { name := "ISwapped", args := [.builtin "int", .parameter "A"], kind := some .structType }

theorem resolve_eq_iff_denotes_swapped :
    pairNames.resolveAll [] (.ofParameters ["A"]) [.simple "int", .simple "A"] =
        .ok swappedStruct.args ∧
      pairNames.Denotes [] (.ofParameters ["A"]) swappedStruct
        (.ok (.named
          { name := "ISwapped", kind := .structType, args := swappedStruct.args
            interfaces := [.named
              { name := "IFirst", kind := .classType, args := [.builtin "int"] }] })) := by
  have hargs : pairNames.resolveAll [] (.ofParameters ["A"]) [.simple "int", .simple "A"] =
      .ok swappedStruct.args := by cbv
  exact ⟨hargs, ((resolve_eq_iff_denotes pairNames [] (.ofParameters ["A"])).1 swappedStruct _ hargs
    _).mp (by cbv)⟩

/-- **A keyword with a kind beside it is no built-in type**: `int` stands for a number, but as a
struct it is a library type that plays no role. -/
theorem keyword_with_kind :
    let n : Names := { registry := {}, catalog := .standard }
    n.registry.kind? "int" = none ∧
      (NamedTypeOf.builtin? "int").map (·.special) = some .int32 ∧
      n.resolve [] [] (.simple "int") = .ok (.builtin "int") ∧
      n.resolve [] [] (.named "int" [] (some .structType) none none) =
        .ok (.named { name := "int", kind := .structType, special := .ordinary }) := by
  refine ⟨rfl, rfl, resolve_simple_eq_ok.mpr (.inl rfl), ?_⟩
  have hkind : ¬Occurrence.KnownByItself [] ⟨"int", [], some .structType, none, none⟩ :=
    fun h => nomatch h.1.2.1
  exact (Denotes.unknown hkind rfl rfl).resolve_eq resolveAll_nil

end Names

end DeclGen
