import DeclGen.Proofs.Inheritance.LibraryBase
import DeclGen.Proofs.Resolution.Hygiene
import DeclGen.Proofs.Resolution.Ranked

/-!
# Library types by their heads

What a library type shows depends on little of it: on its role and its arguments, and on the roles
and the arguments of the interfaces that it lists. None of this asks for the interfaces of those
interfaces. The role of an interface is that of the catalog's entry for its head, and its arguments
are what the written arguments resolve to (`DeclGen.Names.HeadOf`).

So what a library type shows can be read off its entry by the heads of the interfaces alone
(`DeclGen.Names.heads_of_libraryType`), as long as no name of the catalog is declared
(`DeclGen.Names.Undeclared`).
-/

namespace DeclGen

open Catalog (Key Entry)

namespace Reference

/-- The type arguments that are written. -/
def args : Reference → List Reference
  | .named _ args _ _ _ => args
  | .simple _ | .array _ | .param _ => []

/-- A name of the catalog is written with nothing in place, and nothing goes before the catalog in
the interfaces of an entry with some parameters. -/
def IsListed (c : Catalog) (parameters : List String) : Reference → Prop
  | .simple name => c.contains (name, 0) ∧ name ∉ parameters ∧ NamedTypeOf.builtin? name = none
  | .named name args none none none => c.contains (name, args.length) ∧ args.length ≠ 0
  | _ => False

instance (c : Catalog) (parameters : List String) : DecidablePred (IsListed c parameters)
  | .simple name => inferInstanceAs (Decidable
      (c.contains (name, 0) ∧ name ∉ parameters ∧ NamedTypeOf.builtin? name = none))
  | .named name args none none none =>
    inferInstanceAs (Decidable (c.contains (name, args.length) ∧ args.length ≠ 0))
  | .named _ _ (some _) _ _ | .named _ _ none (some _) _ | .named _ _ none none (some _)
  | .array _ | .param _ => isFalse nofun

end Reference

/-- The role that a catalog gives to the head of a reference. -/
def Catalog.roleOf (c : Catalog) (r : Reference) : Special :=
  ((r.head?.bind c.find?).map (·.special)).getD .ordinary

namespace Names

/-- No name of the catalog is declared. -/
def Undeclared (n : Names) : Prop :=
  ∀ e ∈ n.catalog.entries, n.registry.kind? e.name = none

/-- **A named type is what the head of a reference says**: its role is that of the catalog's entry,
and its arguments are those that are written. -/
structure HeadOf (n : Names) (pending : List Key) (scope : Scope) (r : Reference) (j : NamedType) :
    Prop where
  special : j.special = n.catalog.roleOf r
  args : n.resolveAll pending scope r.args = .ok j.args

variable {n : Names} {pending : List Key} {scope : Scope}

theorem Undeclared.kind? (h : n.Undeclared) {k : Key} (hk : n.catalog.contains k) :
    n.registry.kind? k.1 = none := by
  obtain ⟨e, he⟩ := Option.isSome_iff_exists.mp hk
  have hkey : e.name = k.1 := congrArg Prod.fst (Catalog.key_of_find? he)
  rw [← hkey]
  exact h e (List.mem_of_find?_eq_some he)

theorem known?_eq_none_of_args {isBare : Bool} {name : String} {args : List SourceType}
    (hname : n.registry.kind? name = none) (hargs : args.length ≠ 0) :
    n.known? scope isBare name args = none := by
  have hempty : args.isEmpty = false := by
    cases args with
    | nil => exact absurd rfl hargs
    | cons _ _ => rfl
  rw [known?, hempty, Bool.and_false, if_neg Bool.false_ne_true, declared?, hname, Option.map_none]

/-- **A name that is applied to arguments** and not declared is a library type. -/
theorem resolve_applied_eq_ok {name : String} {args : List Reference} (hargs : args.length ≠ 0)
    (hname : n.registry.kind? name = none) {t : SourceType} :
    n.resolve pending scope (.named name args none none none) = .ok t ↔
      ∃ as l, n.resolveAll pending scope args = .ok as ∧ n.libraryType pending name as = .ok l ∧
        .named l = t := by
  have hunknown : ∀ as, n.resolveAll pending scope args = .ok as →
      n.known? scope (isPlain none none none) name as = none := fun as has =>
    known?_eq_none_of_args hname ((resolveAll_ok has).1 ▸ hargs)
  rw [resolve_named_eq_ok]
  constructor
  · rintro ⟨as, has, hsome | ⟨-, l, hl, s, hs, is, his, rfl⟩⟩
    · rw [hunknown as has] at hsome
      cases hsome
    · cases hs
      cases his
      exact ⟨as, l, has, hl, rfl⟩
  · rintro ⟨as, l, has, hl, rfl⟩
    exact ⟨as, has, .inr ⟨hunknown as has, l, hl, _, rfl, _, rfl, rfl⟩⟩

/-- A library type has the arguments that it is made for, and is not declared. -/
theorem args_of_libraryType {name : String} {args : List SourceType} {l : NamedType}
    (h : n.libraryType pending name args = .ok l) : l.args = args ∧ l.declared = false := by
  cases he : n.catalog.find? (name, args.length) with
  | none =>
    rw [libraryType_unlisted he] at h
    cases h
    exact ⟨rfl, rfl⟩
  | some e =>
    by_cases hk : (name, args.length) ∈ pending
    · rw [libraryType_pending he hk] at h
      cases h
      exact ⟨rfl, rfl⟩
    · rw [libraryType_open he hk] at h
      obtain ⟨_, _, h⟩ := bind_eq_ok.mp h
      cases h
      exact ⟨rfl, rfl⟩

/-- A library type plays the role that its entry says. -/
theorem special_of_find? {name : String} {args : List SourceType} {e : Entry} {l : NamedType}
    (h : n.libraryType pending name args = .ok l)
    (he : n.catalog.find? (name, args.length) = some e) : l.special = e.special := by
  rw [(kind_special_of_libraryType h).2, he]
  rfl

/-- **A listed interface resolves to what its head says.** -/
theorem exists_headOf {e : Entry} {r : Reference} (hundeclared : n.Undeclared)
    (hscope : scope.binds = e.binds) (hr : r.IsListed n.catalog e.parameters) {t : SourceType}
    (h : n.resolve pending scope r = .ok t) : ∃ j, t = .named j ∧ n.HeadOf pending scope r j := by
  match r, hr with
  | .simple name, ⟨hlisted, hparameter, hbuiltin⟩ =>
    -- Three things could go before the catalog: a parameter, a built-in type and a declaration.
    have hnone : n.known? scope true name [] = none := by
      have hbinds : scope.binds name = false := by
        rw [hscope]
        exact decide_eq_false hparameter
      have hlookup : scope.lookup name = none := by
        rwa [Scope.binds, Option.isSome_eq_false_iff, Option.isNone_iff_eq_none] at hbinds
      have hdeclared : n.registry.kind? name = none := hundeclared.kind? hlisted
      simp only [known?, hlookup, hbuiltin, declared?, hdeclared]
      rfl
    rcases resolve_simple_eq_ok.mp h with hsome | ⟨-, l, hl, rfl⟩
    · rw [hnone] at hsome
      cases hsome
    · have hspecial := (kind_special_of_libraryType hl).2
      have hargs := (args_of_libraryType hl).1
      exact ⟨l, rfl, hspecial, by rw [hargs]; exact resolveAll_nil⟩
  | .named name args none none none, ⟨hlisted, hargs⟩ =>
    obtain ⟨as, l, has, hl, rfl⟩ :=
      (resolve_applied_eq_ok hargs (hundeclared.kind? hlisted)).mp h
    have hspecial := (kind_special_of_libraryType hl).2
    refine ⟨l, rfl, ?_, by rw [(args_of_libraryType hl).1]; exact has⟩
    rw [hspecial, (resolveAll_ok has).1]
    rfl

/-- The interfaces of an entry are resolved reference by reference. -/
theorem forall₂_of_resolveInterfaces {rs : List Reference} {ts : List SourceType}
    (h : n.resolveInterfaces pending scope rs = .ok ts) :
    List.Forall₂ (fun r t => n.resolve pending scope r = .ok t) rs ts := by
  induction rs generalizing ts with
  | nil =>
    rw [resolveInterfaces_nil] at h
    cases h
    exact .nil
  | cons r rest ih =>
    have hhead := (resolveInterfaces_ok h r (.head _)).1
    rw [resolveInterfaces_step hhead] at h
    obtain ⟨t, ts', ht, hts, rfl⟩ := cons_eq_ok.mp h
    exact .cons ht (ih hts)

theorem exists_heads {e : Entry} (hundeclared : n.Undeclared) (hscope : scope.binds = e.binds)
    {rs : List Reference} {ts : List SourceType}
    (hlisted : ∀ r ∈ rs, r.IsListed n.catalog e.parameters)
    (h : List.Forall₂ (fun r t => n.resolve pending scope r = .ok t) rs ts) :
    ∃ js, ts = js.map .named ∧ List.Forall₂ (n.HeadOf pending scope) rs js := by
  induction h with
  | nil => exact ⟨[], rfl, .nil⟩
  | cons ht _ ih =>
    obtain ⟨hr, hrest⟩ := List.forall_mem_cons.mp hlisted
    obtain ⟨j, rfl, hj⟩ := exists_headOf hundeclared hscope hr ht
    obtain ⟨js, rfl, hjs⟩ := ih hrest
    exact ⟨j :: js, rfl, .cons hj hjs⟩

/-- **A library type by its heads**: what its entry says of it and of each interface. -/
theorem heads_of_libraryType {name : String} {args : List SourceType} {e : Entry} {l : NamedType}
    (hundeclared : n.Undeclared) (he : n.catalog.find? (name, args.length) = some e)
    (hlisted : ∀ r ∈ e.interfaces, r.IsListed n.catalog e.parameters)
    (h : n.libraryType [] name args = .ok l) :
    l.special = e.special ∧ l.interfaces = l.namedInterfaces.map .named ∧
      List.Forall₂ (n.HeadOf [(name, args.length)] (.bind e.parameters args)) e.interfaces
        l.namedInterfaces := by
  rw [libraryType_open he List.not_mem_nil] at h
  obtain ⟨is, his, h⟩ := bind_eq_ok.mp h
  cases h
  have hscope : (Scope.bind e.parameters args).binds = e.binds :=
    Catalog.binds_bind_of_find? he rfl
  obtain ⟨js, rfl, hjs⟩ :=
    exists_heads hundeclared hscope hlisted (forall₂_of_resolveInterfaces his)
  have hnamed : (js.map SourceType.named).filterMap SourceType.asNamed? = js := by
    rw [List.filterMap_map]
    exact List.filterMap_some
  rw [NamedTypeOf.namedInterfaces, hnamed]
  exact ⟨rfl, rfl, hjs⟩

end Names

end DeclGen
