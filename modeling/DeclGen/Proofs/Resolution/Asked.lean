import DeclGen.Proofs.Resolution.Everywhere
import DeclGen.Proofs.Resolution.Pending

/-!
# What resolution depends on

A reference **asks for** names: its own, those in its type arguments, those in the interfaces that
are written in place. A name alone that is a type parameter in scope, or a built-in type, is not
asked for, since it is known before anything else is looked at. What is asked for is a property of
the written reference and of the names that are bound, as `DeclGen.Names.LooksUp` is; but it does
not depend on which names are declared.

Where a name that is asked for is not declared, the catalog answers, and the interfaces of the entry
ask for more. So what a reference resolves to depends on all that is asked for *from* it, through
however many entries, and on nothing else (`DeclGen.Names.resolve_congr`): two registries and two
catalogs that agree on a set of keys which is closed in this way cannot be told apart by the
references that ask for keys of the set only.
-/

namespace DeclGen

open Catalog (Key)

namespace Reference

/-- The references that **occur** in a reference, itself among them. -/
inductive Occurs (s : Reference) : Reference → Prop
  /-- A reference occurs in itself. -/
  | self : Occurs s s
  /-- What occurs in the elements occurs in the array. -/
  | element {r : Reference} : Occurs s r → Occurs s (.array r)
  /-- What occurs in a type argument occurs in the named type. -/
  | arg {name args kind special interfaces} {a : Reference} : a ∈ args → Occurs s a →
      Occurs s (.named name args kind special interfaces)
  /-- What occurs in an interface that is written in place occurs in the named type. -/
  | interface {name args kind special written} {i : Reference} : i ∈ written → Occurs s i →
      Occurs s (.named name args kind special (some written))

/-- The keys that a reference **mentions**: each name in it with its number of arguments. -/
def Mentions (r : Reference) (k : Key) : Prop :=
  ∃ s : Reference, s.Occurs r ∧ s.head? = some k

@[simp]
theorem mentions_simple {name : String} {k : Key} : (simple name).Mentions k ↔ k = (name, 0) := by
  constructor
  · rintro ⟨s, hs, hk⟩
    cases hs
    exact (Option.some.inj hk).symm
  · rintro rfl
    exact ⟨_, .self, rfl⟩

@[simp]
theorem mentions_array {element : Reference} {k : Key} :
    (array element).Mentions k ↔ element.Mentions k := by
  constructor
  · rintro ⟨s, hs, hk⟩
    cases hs with
    | self => cases hk
    | element hs => exact ⟨s, hs, hk⟩
  · rintro ⟨s, hs, hk⟩
    exact ⟨s, .element hs, hk⟩

@[simp]
theorem not_mentions_param {name : String} {k : Key} : ¬(param name).Mentions k := by
  rintro ⟨s, hs, hk⟩
  cases hs
  cases hk

@[simp]
theorem mentions_named {name : String} {args : List Reference} {kind : Option DeclKind}
    {special : Option String} {interfaces : Option (List Reference)} {k : Key} :
    (named name args kind special interfaces).Mentions k ↔
      k = (name, args.length) ∨ (∃ a ∈ args, a.Mentions k) ∨
        ∃ i ∈ interfaces.getD [], i.Mentions k := by
  constructor
  · rintro ⟨s, hs, hk⟩
    cases hs with
    | self => exact Or.inl (Option.some.inj hk).symm
    | arg ha hs => exact Or.inr (Or.inl ⟨_, ha, s, hs, hk⟩)
    | interface hi hs => exact Or.inr (Or.inr ⟨_, hi, s, hs, hk⟩)
  · rintro (rfl | ⟨a, ha, s, hs, hk⟩ | ⟨i, hi, s, hs, hk⟩)
    · exact ⟨_, .self, rfl⟩
    · exact ⟨s, .arg ha hs, hk⟩
    · cases interfaces with
      | none => cases hi
      | some written => exact ⟨s, .interface hi hs, hk⟩

/-- Whether a name is **known by itself**: it stands alone, and is a type parameter that is bound or
a built-in type. -/
def KnownByItself (bound : String → Bool) (isBare : Bool) (name : String) : Prop :=
  isBare ∧ (bound name ∨ (NamedTypeOf.builtin? name).isSome)

/-- The keys that a reference **asks for**, where some type parameters are bound: those that it
mentions otherwise than by a name that is known by itself. -/
def Asks (bound : String → Bool) (r : Reference) (k : Key) : Prop :=
  ∃ s : Reference, s.Occurs r ∧ s.head? = some k ∧ ¬KnownByItself bound s.isBare k.1

variable {bound : String → Bool} {k : Key}

theorem Asks.mentions {r : Reference} (h : r.Asks bound k) : r.Mentions k := by
  obtain ⟨s, hs, hk, -⟩ := h
  exact ⟨s, hs, hk⟩

/-- A reference asks for its own name, unless that is known by itself. -/
theorem asks_head {r : Reference} (hk : r.head? = some k)
    (hknown : ¬KnownByItself bound r.isBare k.1) : r.Asks bound k :=
  ⟨r, .self, hk, hknown⟩

theorem Asks.element {r : Reference} (h : r.Asks bound k) : (array r).Asks bound k := by
  obtain ⟨s, hs, hk⟩ := h
  exact ⟨s, .element hs, hk⟩

section Named

variable {name : String} {args : List Reference} {kind : Option DeclKind} {special : Option String}

theorem Asks.arg {interfaces : Option (List Reference)} {a : Reference} (ha : a ∈ args)
    (h : a.Asks bound k) : (named name args kind special interfaces).Asks bound k := by
  obtain ⟨s, hs, hk⟩ := h
  exact ⟨s, .arg ha hs, hk⟩

theorem Asks.interface {written : List Reference} {i : Reference} (hi : i ∈ written)
    (h : i.Asks bound k) : (named name args kind special (some written)).Asks bound k := by
  obtain ⟨s, hs, hk⟩ := h
  exact ⟨s, .interface hi hs, hk⟩

end Named

end Reference

namespace Names

open Reference (KnownByItself)

/-- **Two ways to look names up agree** on some keys: the names are declared alike, and where they
are not declared, the catalogs have the same entries, whose interfaces ask for such keys again. -/
structure AgreeOn (n n' : Names) (asked : Key → Prop) : Prop where
  kind : ∀ k, asked k → n'.registry.kind? k.1 = n.registry.kind? k.1
  entry : ∀ k, asked k → n.registry.kind? k.1 = none → n'.catalog.find? k = n.catalog.find? k
  closed : ∀ k e, asked k → n.registry.kind? k.1 = none → n.catalog.find? k = some e →
    ∀ i ∈ e.interfaces, ∀ k', i.Asks e.binds k' → asked k'

variable {n n' : Names} {asked : Key → Prop} {pending : List Key} {scope : Scope}

/-- A name that needs no catalog is found alike, where it is declared alike or known by itself. -/
theorem known?_congr {isBare : Bool} {name : String} {args : List SourceType}
    (h : ¬KnownByItself scope.binds (isBare && args.isEmpty) name →
      n'.registry.kind? name = n.registry.kind? name) :
    n'.known? scope isBare name args = n.known? scope isBare name args := by
  unfold known? declared?
  split
  · next hbare =>
    cases hs : scope.lookup name with
    | some t => rfl
    | none =>
      cases hb : NamedTypeOf.builtin? name with
      | some t => rfl
      | none => rw [h (by simp [KnownByItself, Scope.binds, hs, hb])]
  · next hbare => rw [h fun hknown => hbare hknown.1]

/-- A name that needs the catalog is not known by itself. -/
theorem not_knownByItself_of_known? {isBare : Bool} {name : String} {args : List SourceType}
    (h : n.known? scope isBare name args = none) :
    ¬KnownByItself scope.binds (isBare && args.isEmpty) name := by
  rintro ⟨hbare, hknown⟩
  obtain ⟨hplain, hempty⟩ := Bool.and_eq_true_iff.mp hbare
  have hunknown := (knows_eq_false_iff.mp (known?_eq_none_iff.mp h)).1
  exact hunknown ⟨hplain, by rw [List.isEmpty_iff.mp hempty]; rfl, hknown⟩

/-- **Resolution does not tell apart what agrees**: a reference that asks for nothing but keys on
which there is agreement has the same outcome, and so has the type of such a key that is looked up
in the catalog. -/
theorem resolution_congr (h : n.AgreeOn n' asked) :
    (∀ (pending : List Key) (scope : Scope) (r : Reference),
      (∀ k, r.Asks scope.binds k → asked k) →
        n'.resolve pending scope r = n.resolve pending scope r) ∧
    (∀ (pending : List Key) (scope : Scope) (rs : List Reference),
      (∀ r ∈ rs, ∀ k, r.Asks scope.binds k → asked k) →
        n'.resolveAll pending scope rs = n.resolveAll pending scope rs) ∧
    (∀ (pending : List Key) (name : String) (args : List SourceType),
      asked (name, args.length) → n.registry.kind? name = none →
        n'.libraryType pending name args = n.libraryType pending name args) ∧
    ∀ (pending : List Key) (scope : Scope) (rs : List Reference),
      (∀ r ∈ rs, ∀ k, r.Asks scope.binds k → asked k) →
        n'.resolveInterfaces pending scope rs = n.resolveInterfaces pending scope rs := by
  refine resolve.mutual_induct n _ _ _ _ ?known ?unknown ?array ?param ?noParam ?named
    ?allNil ?allCons ?unlisted ?pending ?opened ?nil ?cycle ?cons
  case known =>
    intro pending scope name t hknown hasked
    have hsame : n'.known? scope true name [] = n.known? scope true name [] :=
      known?_congr fun hbare => h.kind _ (hasked _ (Reference.asks_head rfl hbare))
    rw [resolve_simple, resolve_simple, hsame, hknown]
  case unknown =>
    intro pending scope name hnone ih hasked
    have hname : asked (name, 0) :=
      hasked _ (Reference.asks_head rfl (not_knownByItself_of_known? hnone))
    have hsame : n'.known? scope true name [] = n.known? scope true name [] :=
      known?_congr fun _ => h.kind _ hname
    rw [resolve_simple, resolve_simple, hsame, hnone, ih hname (kind?_eq_none_of_known? hnone)]
  case array =>
    intro pending scope element ih hasked
    rw [resolve_array, resolve_array, ih fun k hk => hasked k hk.element]
  case param =>
    intro pending scope name t _ _
    rw [resolve, resolve]
  case noParam =>
    intro pending scope name _ _
    rw [resolve, resolve]
  case named =>
    intro pending scope name args kind special interfaces iha ihl ihi hasked
    have hargs := iha fun a ha k hk => hasked k (hk.arg ha)
    rw [resolve_named, resolve_named, hargs]
    cases has : n.resolveAll pending scope args with
    | error err => rfl
    | ok as =>
      have hlen := (resolveAll_ok has).1
      -- The reference stands alone if it has no arguments, and then its types are none either.
      have hbare : (isPlain kind special interfaces && as.isEmpty) =
          (Reference.named name args kind special interfaces).isBare := by
        rw [Reference.isBare, Bool.and_comm]
        congr 1
        rw [Bool.eq_iff_iff, List.isEmpty_iff_length_eq_zero, List.isEmpty_iff_length_eq_zero, hlen]
      have hname : ¬KnownByItself scope.binds (isPlain kind special interfaces && as.isEmpty) name →
          asked (name, as.length) := by
        intro hknown
        rw [hbare] at hknown
        exact hlen ▸ hasked _ (Reference.asks_head rfl hknown)
      have hsame : n'.known? scope (isPlain kind special interfaces) name as =
          n.known? scope (isPlain kind special interfaces) name as :=
        known?_congr fun hknown => h.kind _ (hname hknown)
      rw [ok_bind, ok_bind, hsame]
      cases hnone : n.known? scope (isPlain kind special interfaces) name as with
      | some t => rfl
      | none =>
        have hlibrary := ihl as (hname (not_knownByItself_of_known? hnone))
          (kind?_eq_none_of_known? hnone)
        rw [hlibrary]
        cases interfaces with
        | none => rfl
        | some written =>
          have hwritten := ihi fun i hi k hk => hasked k (hk.interface hi)
          simp only [interfacesOr, hwritten]
  case allNil =>
    intro pending scope _
    rw [resolveAll_nil, resolveAll_nil]
  case allCons =>
    intro pending scope r rest ihr ihrest hasked
    obtain ⟨hr, hrest⟩ := List.forall_mem_cons.mp hasked
    rw [resolveAll_cons, resolveAll_cons, ihr hr, ihrest hrest]
  case unlisted =>
    intro pending name args hnone hname hkind
    rw [libraryType_unlisted hnone, libraryType_unlisted ((h.entry _ hname hkind).trans hnone)]
  case pending =>
    intro pending name args e he hk hname hkind
    rw [libraryType_pending he hk, libraryType_pending ((h.entry _ hname hkind).trans he) hk]
  case opened =>
    intro pending name args e he hk _ ih hname hkind
    have hinterfaces : ∀ i ∈ e.interfaces, ∀ k,
        i.Asks (Scope.bind e.parameters args).binds k → asked k := by
      rw [Catalog.binds_bind_of_find? he rfl]
      exact h.closed _ e hname hkind he
    rw [libraryType_open he hk, libraryType_open ((h.entry _ hname hkind).trans he) hk,
      ih hinterfaces]
  case nil =>
    intro pending scope _
    rw [resolveInterfaces_nil, resolveInterfaces_nil]
  case cycle =>
    intro pending scope r rest name k hsome _
    obtain ⟨hhead, hmem⟩ := Option.filter_eq_some_iff.mp hsome
    have hpending : (name, k) ∈ pending := by simpa using hmem
    rw [resolveInterfaces_cycle hhead hpending, resolveInterfaces_cycle hhead hpending]
  case cons =>
    intro pending scope r rest hnone ihr ihrest hasked
    obtain ⟨hr, hrest⟩ := List.forall_mem_cons.mp hasked
    have hhead := head?_filter_eq_none_iff.mp hnone
    rw [resolveInterfaces_step hhead, resolveInterfaces_step hhead, ihr hr, ihrest hrest]

/-- **A reference resolves alike** where there is agreement on all that is asked for from it. -/
theorem resolve_congr (h : n.AgreeOn n' asked) {r : Reference}
    (hr : ∀ k, r.Asks scope.binds k → asked k) :
    n'.resolve pending scope r = n.resolve pending scope r :=
  (resolution_congr h).1 pending scope r hr

/-- **A library type is made alike** where there is agreement on its key and all that is asked for
from it. -/
theorem libraryType_congr (h : n.AgreeOn n' asked) {name : String} {args : List SourceType}
    (hname : asked (name, args.length)) (hkind : n.registry.kind? name = none) :
    n'.libraryType pending name args = n.libraryType pending name args :=
  (resolution_congr h).2.2.1 pending name args hname hkind

end Names

end DeclGen
