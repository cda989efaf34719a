import DeclGen.Proofs.Resolution.Steps

/-!
# What resolving a reference asks for

Resolving a reference asks the catalog for some keys, and it meets some faults: a type parameter
that is not in scope, a role that no tag names. Which ones does not depend on the types that stand
in scope, only on which names are bound there. So both are properties of the *written* reference
(`DeclGen.Names.LooksUp` and `DeclGen.Names.Fault`), and the same can be said of the interfaces of a
catalog entry before anybody gives the entry arguments.

A reference that resolves met no fault and had an answer for every key that it asked for
(`DeclGen.Names.not_fault_of_resolve` and `DeclGen.Names.libraryType_of_looksUp`).
-/

namespace DeclGen

/-- Whether a type parameter is in scope. -/
def Scope.binds (scope : Scope) (name : String) : Bool :=
  (scope.lookup name).isSome

/-- The parameters of a catalog entry are in scope once they have arguments. -/
theorem Scope.binds_bind {parameters : List String} {args : List SourceType}
    (h : args.length = parameters.length) :
    (Scope.bind parameters args).binds = fun name => decide (name ∈ parameters) := by
  funext name
  have hmem : name ∈ parameters ↔ ∃ t, (name, t) ∈ Scope.bind parameters args := by
    unfold Scope.bind
    simp only [List.mem_reverse]
    constructor
    · -- A parameter stands beside the argument at its own position.
      intro hn
      obtain ⟨i, hi, rfl⟩ := List.mem_iff_getElem.mp hn
      exact ⟨args[i], List.mem_iff_getElem.mpr ⟨i, by simp [h, hi], by simp⟩⟩
    · rintro ⟨t, ht⟩
      exact (List.of_mem_zip ht).1
  unfold binds
  cases hl : (Scope.bind parameters args).lookup name with
  | some t =>
    obtain ⟨front, back, hsplit, _⟩ := List.lookup_eq_some_iff.mp hl
    have hin : name ∈ parameters := hmem.mpr ⟨t, by rw [hsplit]; simp⟩
    simp [hin]
  | none =>
    have hout : name ∉ parameters := by
      intro hin
      obtain ⟨t, ht⟩ := hmem.mp hin
      simpa using List.lookup_eq_none_iff.mp hl _ ht
    simp [hout]

/-- Whether nothing but a name is written. -/
def Reference.isBare : Reference → Bool
  | .simple _ => true
  | .named _ args kind special interfaces => args.isEmpty && Names.isPlain kind special interfaces
  | .array _ | .param _ => false

namespace Names

/-- Whether a name needs no catalog, where the type parameters that are `bound` are in scope. -/
def knows (n : Names) (bound : String → Bool) (isBare : Bool) (name : String) (arity : Nat) :
    Bool :=
  (isBare && arity == 0 && (bound name || (NamedTypeOf.builtin? name).isSome)) ||
    n.registry.contains name

/-- The keys that a reference **looks up** in the catalog. -/
inductive LooksUp (n : Names) (bound : String → Bool) : Reference → Catalog.Key → Prop
  /-- A name alone, if it is none that needs no catalog. -/
  | simple {name : String} : n.knows bound true name 0 = false →
      LooksUp n bound (.simple name) (name, 0)
  /-- What the elements of an array look up. -/
  | element {r : Reference} {k : Catalog.Key} : LooksUp n bound r k → LooksUp n bound (.array r) k
  /-- What a type argument looks up. -/
  | arg {name args kind special interfaces} {a : Reference} {k : Catalog.Key} : a ∈ args →
      LooksUp n bound a k → LooksUp n bound (.named name args kind special interfaces) k
  /-- A name with its number of arguments. -/
  | named {name args kind special interfaces} :
      n.knows bound (isPlain kind special interfaces) name args.length = false →
      LooksUp n bound (.named name args kind special interfaces) (name, args.length)
  /-- What an interface that is written in place looks up. -/
  | interface {name args kind special written} {i : Reference} {k : Catalog.Key} :
      n.knows bound (isPlain kind special (some written)) name args.length = false →
      i ∈ written → LooksUp n bound i k →
      LooksUp n bound (.named name args kind special (some written)) k

/-- The **faults** of a reference by itself, whatever the catalog says. -/
inductive Fault (n : Names) (bound : String → Bool) : Reference → LoadError → Prop
  /-- A type parameter that is not in scope. -/
  | param {name : String} : bound name = false →
      Fault n bound (.param name) (.unknownParameter name)
  /-- A fault of the elements of an array. -/
  | element {r : Reference} {e : LoadError} : Fault n bound r e → Fault n bound (.array r) e
  /-- A fault of a type argument. -/
  | arg {name args kind special interfaces} {a : Reference} {e : LoadError} : a ∈ args →
      Fault n bound a e → Fault n bound (.named name args kind special interfaces) e
  /-- A role that no tag names. -/
  | role {name args kind interfaces} {tag : String} :
      n.knows bound (isPlain kind (some tag) interfaces) name args.length = false →
      Special.ofTag? tag = none →
      Fault n bound (.named name args kind (some tag) interfaces) (.unknownSpecial tag name)
  /-- A fault of an interface that is written in place. -/
  | interface {name args kind special written} {i : Reference} {e : LoadError} :
      n.knows bound (isPlain kind special (some written)) name args.length = false →
      i ∈ written → Fault n bound i e →
      Fault n bound (.named name args kind special (some written)) e

/-! ### Faults of references that say nothing in place -/

section Fault

variable {n : Names} {bound : String → Bool}

@[simp]
theorem not_fault_simple {name : String} {err : LoadError} : ¬n.Fault bound (.simple name) err :=
  nofun

@[simp]
theorem fault_param {name : String} {err : LoadError} :
    n.Fault bound (.param name) err ↔ bound name = false ∧ .unknownParameter name = err := by
  constructor
  · rintro ⟨h⟩
    exact ⟨h, rfl⟩
  · rintro ⟨h, rfl⟩
    exact .param h

@[simp]
theorem fault_named {name : String} {args : List Reference} {kind : Option DeclKind}
    {err : LoadError} :
    n.Fault bound (.named name args kind none none) err ↔ ∃ a ∈ args, n.Fault bound a err := by
  constructor
  · rintro (_ | _ | ⟨ha, h⟩)
    exact ⟨_, ha, h⟩
  · rintro ⟨a, ha, h⟩
    exact .arg ha h

end Fault

/-! ### What is looked up -/

/-- Two things go before the catalog: a type parameter or a built-in type, if nothing but the name
is written, and a declaration. -/
theorem knows_eq_false_iff {n : Names} {bound : String → Bool} {isBare : Bool} {name : String}
    {arity : Nat} :
    n.knows bound isBare name arity = false ↔
      ¬(isBare ∧ arity = 0 ∧ (bound name ∨ (NamedTypeOf.builtin? name).isSome)) ∧
        ¬n.registry.contains name := by
  unfold knows
  rw [Bool.or_eq_false_iff, ← Bool.not_eq_true, ← Bool.not_eq_true]
  refine and_congr_left fun _ => not_congr ?_
  rw [Bool.and_eq_true, Bool.and_eq_true, Bool.or_eq_true, beq_iff_eq, and_assoc]

/-- The head of a reference is looked up if nothing goes before the catalog. -/
theorem LooksUp.head {n : Names} {bound : String → Bool} {r : Reference} {k : Catalog.Key}
    (hr : r.head? = some k)
    (hbare : ¬(r.isBare ∧ (bound k.1 ∨ (NamedTypeOf.builtin? k.1).isSome)))
    (hdeclared : ¬n.registry.contains k.1) : n.LooksUp bound r k := by
  cases r with
  | simple name =>
    cases hr
    exact .simple (knows_eq_false_iff.mpr ⟨fun h => hbare ⟨rfl, h.2.2⟩, hdeclared⟩)
  | array _ => cases hr
  | param _ => cases hr
  | named name args kind special interfaces =>
    cases hr
    refine .named (knows_eq_false_iff.mpr ⟨?_, hdeclared⟩)
    rintro ⟨hplain, hargs, h⟩
    refine hbare ⟨?_, h⟩
    rw [Reference.isBare, List.length_eq_zero_iff.mp hargs, hplain]
    rfl

variable {n : Names} {pending : List Catalog.Key} {scope : Scope}

/-! ### A reference that resolves -/

theorem isSome_known? (n : Names) (scope : Scope) (isBare : Bool) (name : String)
    (args : List SourceType) :
    (n.known? scope isBare name args).isSome = n.knows scope.binds isBare name args.length := by
  have hempty : args.isEmpty = (args.length == 0) := by cases args <;> rfl
  unfold known? knows Scope.binds declared? Registry.contains Registry.kind?
  rw [hempty]
  split
  · next h =>
    rw [h]
    cases scope.lookup name <;> cases NamedTypeOf.builtin? name <;> simp
  · next h => simp [h]

theorem known?_eq_none_iff {isBare : Bool} {name : String} {args : List SourceType} :
    n.known? scope isBare name args = none ↔
      n.knows scope.binds isBare name args.length = false := by
  rw [← isSome_known?, Option.isSome_eq_false_iff, Option.isNone_iff_eq_none]

/-- **Of a list that resolves every reference does**, and the types are as many. -/
theorem resolveAll_ok {rs : List Reference} {ts : List SourceType}
    (h : n.resolveAll pending scope rs = .ok ts) :
    ts.length = rs.length ∧ ∀ r ∈ rs, ∃ t, n.resolve pending scope r = .ok t := by
  rw [resolveAll_eq_mapM] at h
  have hall := mapM_eq_ok.mp h
  refine ⟨hall.length_eq.symm, fun r hr => ?_⟩
  obtain ⟨t, _, ht⟩ := exists_of_mem_left hall hr
  exact ⟨t, ht⟩

/-- A named type that resolves and does need the catalog went through all four steps. -/
theorem resolve_named_ok {name : String} {args : List Reference} {kind : Option DeclKind}
    {special : Option String} {interfaces : Option (List Reference)} {t : SourceType}
    (hunknown : n.knows scope.binds (isPlain kind special interfaces) name args.length = false)
    (h : n.resolve pending scope (.named name args kind special interfaces) = .ok t) :
    ∃ as l s is, as.length = args.length ∧ n.libraryType pending name as = .ok l ∧
      specialOr name special l.special = .ok s ∧
      n.interfacesOr pending scope interfaces l.interfaces = .ok is := by
  obtain ⟨as, has, h⟩ := resolve_named_eq_ok.mp h
  have hlen := (resolveAll_ok has).1
  have hnone : n.known? scope (isPlain kind special interfaces) name as = none :=
    known?_eq_none_iff.mpr (hlen ▸ hunknown)
  rcases h with h | ⟨_, l, hl, s, hs, is, his, _⟩
  · rw [hnone] at h
    cases h
  · exact ⟨as, l, s, is, hlen, hl, hs, his⟩

/-- **A reference that resolves has no fault.** -/
theorem not_fault_of_resolve {r : Reference} {e : LoadError} (hf : Fault n scope.binds r e) :
    ∀ t, n.resolve pending scope r ≠ .ok t := by
  induction hf with
  | param hbound =>
    intro t h
    rw [Scope.binds, resolve_param_eq_ok.mp h] at hbound
    cases hbound
  | element _ ih =>
    intro t h
    obtain ⟨s, hs, _⟩ := resolve_array_eq_ok.mp h
    exact ih s hs
  | arg ha _ ih =>
    intro t h
    obtain ⟨as, has, _⟩ := resolve_named_eq_ok.mp h
    obtain ⟨s, hs⟩ := (resolveAll_ok has).2 _ ha
    exact ih s hs
  | role hunknown htag =>
    intro t h
    obtain ⟨as, l, s, is, _, _, hs, _⟩ := resolve_named_ok hunknown h
    rw [specialOr_eq_error.mpr ⟨_, rfl, htag, rfl⟩] at hs
    cases hs
  | interface hunknown hi _ ih =>
    intro t h
    obtain ⟨as, l, s, is, _, _, _, his⟩ := resolve_named_ok hunknown h
    obtain ⟨t', ht'⟩ := (resolveAll_ok his).2 _ hi
    exact ih t' ht'

/-- **A reference that resolves has an answer for every key that it looks up.** -/
theorem libraryType_of_looksUp {r : Reference} {k : Catalog.Key}
    (hk : LooksUp n scope.binds r k) :
    ∀ t, n.resolve pending scope r = .ok t →
      ∃ as l, as.length = k.2 ∧ n.libraryType pending k.1 as = .ok l := by
  induction hk with
  | @simple name hunknown =>
    intro t h
    have hnone : n.known? scope true name [] = none := known?_eq_none_iff.mpr hunknown
    rcases resolve_simple_eq_ok.mp h with h | ⟨_, l, hl, _⟩
    · rw [hnone] at h
      cases h
    · exact ⟨[], l, rfl, hl⟩
  | element _ ih =>
    intro t h
    obtain ⟨s, hs, _⟩ := resolve_array_eq_ok.mp h
    exact ih s hs
  | arg ha _ ih =>
    intro t h
    obtain ⟨as, has, _⟩ := resolve_named_eq_ok.mp h
    obtain ⟨s, hs⟩ := (resolveAll_ok has).2 _ ha
    exact ih s hs
  | named hunknown =>
    intro t h
    obtain ⟨as, l, _, _, hlen, hl, _, _⟩ := resolve_named_ok hunknown h
    exact ⟨as, l, hlen, hl⟩
  | interface hunknown hi _ ih =>
    intro t h
    obtain ⟨as, l, s, is, _, _, _, his⟩ := resolve_named_ok hunknown h
    obtain ⟨t', ht'⟩ := (resolveAll_ok his).2 _ hi
    exact ih t' ht'

end Names

end DeclGen
