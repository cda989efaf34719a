import DeclGen.Proofs.Inheritance.ByName
import Mathlib

/-!
# Where an inherited index signature is shown

A declaration whose base is declared shows an index signature only for the interfaces that it names
itself. The others are left to the base: its block is named as the parent, and shows what the base
implements. So all transitive interfaces of a declaration may call for a signature that its own
block does not show, and one asks whether some block up the **chain of parents** does
(`DeclGen.Inheritance.ParentChain`).

It does, with one exception (`DeclGen.Inheritance.signature_carried`). An interface that is named
may bring more interfaces along, and these need neither be named by the declaration nor be
implemented by the base. A signature that they call for can be lost where the declaration has a
declared base (`DeclGen.Inheritance.signature_lost`).

The argument follows the listing. The list of a declaration is put together from its interfaces,
each with what it brings along, and from the list of its base. What is found first in such a list is
found in one of these parts; and the last part is the list of the parent, from where on the chain is
one step shorter.
-/

namespace DeclGen

/-! ### Searching a list that is put together -/

/-- What two lists call for together is called for by one of them. -/
theorem IndexSignature.ofInterfaces?_append {first rest : List NamedType} {sig : IndexSignature}
    (h : ofInterfaces? (first ++ rest) = some sig) :
    ofInterfaces? first = some sig ∨ ofInterfaces? rest = some sig := by
  unfold ofInterfaces? at h ⊢
  rw [List.findSome?_append, List.findSome?_append] at h
  cases hfirst : first.findSome? dictionaryArgs? with
  | some args =>
    rw [hfirst, Option.some_or] at h
    exact Or.inl h
  | none =>
    rw [hfirst, Option.none_or] at h
    cases hrest : rest.findSome? dictionaryArgs? with
    | some args =>
      rw [hrest] at h
      exact Or.inr h
    | none =>
      rw [hrest] at h
      cases helement : first.findSome? enumerableArg? with
      | some element =>
        rw [helement, Option.some_or] at h
        exact Or.inl h
      | none =>
        rw [helement, Option.none_or] at h
        exact Or.inr h

namespace Inheritance

variable {units : List SourceUnit}

theorem findSome?_addNew {α : Type} (f : NamedType → Option α) (xs : List NamedType) :
    ∀ types, (addNew types xs).findSome? f = (types.findSome? f).or (xs.findSome? f) := by
  induction xs with
  | nil => exact fun types => (Option.or_none).symm
  | cons x xs ih =>
    intro types
    rw [addNew, ih, List.findSome?_cons]
    by_cases hx : x ∈ types
    · rw [if_pos hx]
      cases htypes : types.findSome? f with
      | some a => rfl
      | none => rw [List.findSome?_eq_none_iff.mp htypes x hx]
    · rw [if_neg hx, List.findSome?_append, List.findSome?_singleton, Option.or_assoc]
      cases f x <;> rfl

/-- Duplicates have no influence on which signature is called for. -/
theorem ofInterfaces?_eraseDups (l : List NamedType) :
    IndexSignature.ofInterfaces? l.eraseDups = IndexSignature.ofInterfaces? l := by
  have hsame : ∀ {α : Type} (f : NamedType → Option α), l.eraseDups.findSome? f = l.findSome? f :=
    fun f => by rw [← addNew_nil_left, findSome?_addNew]; rfl
  unfold IndexSignature.ofInterfaces?
  rw [hsame, hsame]

/-- **What is found first for some interfaces** is brought along by one of them, or it is found
first among the interfaces themselves. -/
theorem findSome?_listing {α : Type} {f : NamedType → Option α} {a : α} {is : List NamedType} :
    ∀ {l : List NamedType}, Listing units (is.map .interface) l → l.findSome? f = some a →
      (∃ i ∈ is, ∃ m, Inherits units i m ∧ ∃ j ∈ m, f j = some a) ∨ is.findSome? f = some a := by
  induction is with
  | nil =>
    intro l hl h
    cases hl
    cases h
  | cons i is ih =>
    intro l hl h
    cases hl with
    | @cons _ _ m l hm hl =>
      simp only [Ancestor.itself, Ancestor.type, List.findSome?_append, List.findSome?_singleton]
        at hm h
      rw [List.findSome?_cons]
      cases hi : f i with
      | some b =>
        rw [hi, Option.some_or, Option.some_or] at h
        exact Or.inr h
      | none =>
        rw [hi, Option.none_or] at h
        cases hbrought : m.findSome? f with
        | some b =>
          rw [hbrought, Option.some_or] at h
          cases h
          obtain ⟨j, hj, hja⟩ := List.exists_of_findSome?_eq_some hbrought
          exact Or.inl ⟨i, List.mem_cons_self, m, hm, j, hj, hja⟩
        | none =>
          rw [hbrought, Option.none_or] at h
          rcases ih hl h with ⟨i', hi', hrest⟩ | hrest
          · exact Or.inl ⟨i', List.mem_cons_of_mem _ hi', hrest⟩
          · exact Or.inr hrest

/-- Where nothing is found for some interfaces, nothing is found among them. -/
theorem findSome?_eq_none_of_listing {α : Type} {f : NamedType → Option α} {is l : List NamedType}
    (hl : Listing units (is.map .interface) l) (h : l.findSome? f = none) :
    is.findSome? f = none := by
  refine List.findSome?_eq_none_iff.mpr fun i hi => ?_
  have hmem := (hl.mem_of_inherits _ (List.mem_map_of_mem hi)).1 i (List.mem_singleton_self i)
  exact List.findSome?_eq_none_iff.mp h i hmem

/-- **A signature for some interfaces** is made from an interface that one of them brings along, or
it is the signature of the interfaces themselves. -/
theorem ofInterfaces?_listing {is l : List NamedType} {sig : IndexSignature}
    (hl : Listing units (is.map .interface) l)
    (h : IndexSignature.ofInterfaces? l = some sig) :
    (∃ i ∈ is, ∃ m, Inherits units i m ∧
      ∃ j ∈ m, IndexSignature.ofInterfaces? [j] = some sig) ∨
      IndexSignature.ofInterfaces? is = some sig := by
  unfold IndexSignature.ofInterfaces? at h ⊢
  cases hdictionary : l.findSome? IndexSignature.dictionaryArgs? with
  | some args =>
    rw [hdictionary] at h
    rcases findSome?_listing hl hdictionary with ⟨i, hi, m, hm, j, hj, hargs⟩ | hargs
    · refine Or.inl ⟨i, hi, m, hm, j, hj, ?_⟩
      rw [List.findSome?_singleton, hargs]
      exact h
    · rw [hargs]
      exact Or.inr h
  | none =>
    rw [hdictionary] at h
    rw [findSome?_eq_none_of_listing hl hdictionary]
    obtain ⟨element, helement, rfl⟩ := Option.map_eq_some_iff.mp h
    rcases findSome?_listing hl helement with ⟨i, hi, m, hm, j, hj, harg⟩ | harg
    · refine Or.inl ⟨i, hi, m, hm, j, hj, ?_⟩
      rw [List.findSome?_singleton, List.findSome?_singleton,
        IndexSignature.dictionaryArgs?_of_enumerableArg? harg, harg]
      rfl
    · rw [harg]
      exact Or.inr rfl

/-- Ancestors are listed one after the other. -/
theorem Listing.exists_append {as as' : List Ancestor} {l : List NamedType}
    (h : Listing units (as ++ as') l) :
    ∃ first rest, l = first ++ rest ∧ Listing units as first ∧ Listing units as' rest := by
  induction as generalizing l with
  | nil => exact ⟨[], l, rfl, .nil, h⟩
  | cons a as ih =>
    cases h with
    | @cons _ _ m l hm hl =>
      obtain ⟨first, rest, rfl, hfirst, hrest⟩ := ih hl
      exact ⟨a.itself ++ m ++ first, rest, (List.append_assoc _ _ _).symm, .cons hm hfirst, hrest⟩

/-! ### The chain of parents -/

/-- **The chain of parents** of a declaration: the declaration itself, then the first declaration of
the name that its block names as its parent, and so on. -/
inductive ParentChain (units : List SourceUnit) : TypeDecl → TypeDecl → Prop
  /-- The chain begins with the declaration. -/
  | self (D : TypeDecl) : ParentChain units D D
  /-- The chain of the parent goes on from there. -/
  | parent {D X E : TypeDecl} {name : String} : D.parent? = some name →
      firstType? units name = some X → ParentChain units X E → ParentChain units D E

/-- An interface **brings along** another: a library type those that it lists, and a declared type
the transitive interfaces of its declaration. -/
def BringsAlong (units : List SourceUnit) (i j : NamedType) : Prop :=
  (i.declared = false ∧ j ∈ i.namedInterfaces) ∨
    i.declared = true ∧ ∃ X, firstType? units i.name = some X ∧ j ∈ X.allInterfaces

/-- A declaration **leaves out** a signature: its base is declared, so that only the interfaces
count which it names, and the signature is made from one that such an interface brings along. -/
def LeavesOut (units : List SourceUnit) (D : TypeDecl) (sig : IndexSignature) : Prop :=
  D.hasDeclaredBase = true ∧
    ∃ i ∈ D.interfaces, ∃ j, BringsAlong units i j ∧ IndexSignature.ofInterfaces? [j] = some sig

section Linked

variable {linked : List SourceUnit} {D : TypeDecl} {sig : IndexSignature}

/-- The listing of a declared type is its declaration's list of transitive interfaces. -/
theorem allInterfaces_eq_of_listing (hlink : link (.ofUnits units) units = .ok linked)
    (hD : .type D ∈ allDeclarations linked) {l : List NamedType}
    (hl : Listing linked D.ancestors l) : D.allInterfaces = l.eraseDups := by
  obtain ⟨l', hl', hall⟩ := exists_listing_linked hlink hD
  rw [hall, hl'.unique hl]

theorem bringsAlong_of_inherits (hlink : link (.ofUnits units) units = .ok linked)
    {i j : NamedType} {m : List NamedType} (hm : Inherits linked i m) (hj : j ∈ m) :
    BringsAlong linked i j := by
  cases hm with
  | library hdecl => exact Or.inl ⟨hdecl, hj⟩
  | untyped => cases hj
  | @declared _ X _ hdecl hX hl =>
    refine Or.inr ⟨hdecl, X, hX, ?_⟩
    rw [allInterfaces_eq_of_listing hlink (mem_of_firstType? hX) hl, List.mem_eraseDups]
    exact hj

/-- A declaration with a base has the listing of its interfaces and then what the base inherits. -/
theorem exists_of_listing_base {b : NamedType} {l : List NamedType} (hb : D.base = some b)
    (hl : Listing units D.ancestors l) :
    ∃ first m, l = first ++ m ∧ Listing units (D.interfaces.map .interface) first ∧
      Inherits units b m := by
  rw [TypeDecl.ancestors, hb] at hl
  obtain ⟨first, rest, rfl, hfirst, hrest⟩ := hl.exists_append
  cases hrest with
  | @cons _ _ m _ hm hnil =>
    cases hnil
    exact ⟨first, m, by rw [Ancestor.itself, List.nil_append, List.append_nil], hfirst, hm⟩

/-- **One step up the chain**: a signature that the transitive interfaces of a declaration call for
is shown by the declaration, or left out by it, or called for by its parent. -/
theorem signature_step (hlink : link (.ofUnits units) units = .ok linked)
    (hD : .type D ∈ allDeclarations linked)
    (h : IndexSignature.ofInterfaces? D.allInterfaces = some sig) :
    D.indexSignature? = some sig ∨ LeavesOut linked D sig ∨
      ∃ b X, D.base = some b ∧ b.declared = true ∧ firstType? linked b.name = some X ∧
        IndexSignature.ofInterfaces? X.allInterfaces = some sig := by
  cases hdecl : D.hasDeclaredBase with
  | false =>
    refine Or.inl ?_
    rw [TypeDecl.indexSignature?, TypeDecl.signatureInterfaces, hdecl]
    exact h
  | true =>
    obtain ⟨b, hb, hbdecl⟩ := (Option.any_eq_true _ _).mp hdecl
    obtain ⟨l, hl, hall⟩ := exists_listing_linked hlink hD
    rw [hall, ofInterfaces?_eraseDups] at h
    obtain ⟨first, m, rfl, hfirst, hm⟩ := exists_of_listing_base hb hl
    rcases IndexSignature.ofInterfaces?_append h with h | h
    · rcases ofInterfaces?_listing hfirst h with ⟨i, hi, m', hm', j, hj, hone⟩ | h
      · exact Or.inr (Or.inl ⟨hdecl, i, hi, j, bringsAlong_of_inherits hlink hm' hj, hone⟩)
      · refine Or.inl ?_
        rw [TypeDecl.indexSignature?, TypeDecl.signatureInterfaces, hdecl]
        exact h
    · cases hm with
      | library hlibrary =>
        rw [hbdecl] at hlibrary
        cases hlibrary
      | untyped => cases h
      | @declared _ X _ _ hX hlX =>
        refine Or.inr (Or.inr ⟨b, X, hb, hbdecl, hX, ?_⟩)
        rw [allInterfaces_eq_of_listing hlink (mem_of_firstType? hX) hlX, ofInterfaces?_eraseDups]
        exact h

/-- A name with a listing starts no infinite chain of references. -/
theorem acc_of_base (hlink : link (.ofUnits units) units = .ok linked)
    (hD : .type D ∈ allDeclarations linked) {b : NamedType} (hb : D.base = some b)
    (hdecl : b.declared = true) : Acc (Function.swap (Refers linked)) b.name := by
  obtain ⟨l, hl, -⟩ := exists_listing_linked hlink hD
  obtain ⟨a, ha, rfl⟩ := exists_ancestor_iff.mpr (Or.inl hb)
  exact hl.acc a ha hdecl

/-- A signature is **carried up** from a declaration: on its chain of parents one declaration shows
it or leaves it out. -/
def CarriedUp (units : List SourceUnit) (D : TypeDecl) (sig : IndexSignature) : Prop :=
  ∃ E, ParentChain units D E ∧ (E.indexSignature? = some sig ∨ LeavesOut units E sig)

theorem CarriedUp.of_base {b : NamedType} {X : TypeDecl} (h : CarriedUp units X sig)
    (hb : D.base = some b) (hdecl : b.declared = true) (hX : firstType? units b.name = some X) :
    CarriedUp units D sig := by
  obtain ⟨E, hE, hshown⟩ := h
  refine ⟨E, .parent ?_ hX hE, hshown⟩
  rw [TypeDecl.parent?, hb, Option.filter_some, if_pos hdecl, Option.map_some]

/-- **A run up the chain**: what all transitive interfaces of a declaration call for is carried up.
The chain ends, since of the names on it each refers to the next. -/
theorem carriedUp (hlink : link (.ofUnits units) units = .ok linked)
    (hD : .type D ∈ allDeclarations linked)
    (h : IndexSignature.ofInterfaces? D.allInterfaces = some sig) : CarriedUp linked D sig := by
  have hnames : ∀ name, Acc (Function.swap (Refers linked)) name → ∀ X,
      firstType? linked name = some X → IndexSignature.ofInterfaces? X.allInterfaces = some sig →
      CarriedUp linked X sig := by
    intro name hacc
    induction hacc with
    | intro name _ ih =>
      intro X hX hsig
      rcases signature_step hlink (mem_of_firstType? hX) hsig with hshown | hleft | hparent
      · exact ⟨X, .self X, Or.inl hshown⟩
      · exact ⟨X, .self X, Or.inr hleft⟩
      · obtain ⟨b, Y, hb, hdecl, hY, hsig⟩ := hparent
        have hrefers : Refers linked name b.name := ⟨X, hX, b, Or.inl hb, hdecl, rfl⟩
        exact (ih b.name hrefers Y hY hsig).of_base hb hdecl hY
  -- The declaration itself need not be the one that its name finds.
  rcases signature_step hlink hD h with hshown | hleft | ⟨b, X, hb, hdecl, hX, hsig⟩
  · exact ⟨D, .self D, Or.inl hshown⟩
  · exact ⟨D, .self D, Or.inr hleft⟩
  · exact (hnames b.name (acc_of_base hlink hD hb hdecl) X hX hsig).of_base hb hdecl hX

end Linked

/-- **An inherited index signature is shown on the chain of parents, or left out on it**, for every
loaded project and every type declaration `D` in it.

If all transitive interfaces of `D` together call for an index signature, then a declaration on the
chain of parents of `D` has just this signature; or one of them has a declared base, and the
signature is made from an interface that it inherits through one that it names. -/
theorem signature_carried {catalog : Catalog} {dumps : List (String × Dump)} {p : Project}
    (h : Project.ofDumps catalog dumps = .ok p) {D : TypeDecl}
    (hD : .type D ∈ allDeclarations p.units) {sig : IndexSignature}
    (hsig : IndexSignature.ofInterfaces? D.allInterfaces = some sig) :
    ∃ E, ParentChain p.units D E ∧
      (E.indexSignature? = some sig ∨ LeavesOut p.units E sig) := by
  obtain ⟨units, _, hlink⟩ := Project.ofDumps_ok h
  exact carriedUp hlink hD hsig

/-- One unit: `ISeq` is an enumerable of numbers. `Plain` implements nothing, and `Seq` derives from
it and is an `ISeq`. `Ints` is an enumerable of numbers itself, and `More` derives from it. -/
def sequences : List (String × Dump) :=
  let ints : Reference := .named "IEnumerable" [.simple "int"] none none none
  [("sequences",
    ⟨[.type .interfaceType { name := "ISeq", interfaces := [ints] },
      .type .classType { name := "Plain" },
      .type .classType
        { name := "Seq", base := some (.simple "Plain"), interfaces := [.simple "ISeq"] },
      .type .classType { name := "Ints", interfaces := [ints] },
      .type .classType { name := "More", base := some (.simple "Ints") }]⟩)]

/-- Enumerables of numbers, resolved. -/
def ints : NamedType := Project.enumerableOf (.builtin "int")

/-- The class `Plain`, loaded. -/
def loadedPlain : TypeDecl := { name := "Plain", kind := .classType }

/-- The class `Seq`, loaded: its list has the enumerable that `ISeq` brings along. -/
def loadedSeq : TypeDecl :=
  { name := "Seq", kind := .classType, base := some (.ofDeclared "Plain" .classType [])
    interfaces := [.ofDeclared "ISeq" .interfaceType []]
    allInterfaces := [.ofDeclared "ISeq" .interfaceType [], ints] }

/-- The class `More`, loaded: its list is that of its base. -/
def loadedMore : TypeDecl :=
  { name := "More", kind := .classType, base := some (.ofDeclared "Ints" .classType [])
    allInterfaces := [ints] }

/-- The sequences, loaded. -/
def loadedSequences : Project :=
  { units := [{ name := "sequences", declarations :=
      [.type
        { name := "ISeq", kind := .interfaceType, interfaces := [ints], allInterfaces := [ints] },
       .type loadedPlain, .type loadedSeq,
       .type { name := "Ints", kind := .classType, interfaces := [ints], allInterfaces := [ints] },
       .type loadedMore] }]
    registry := Project.registryOf sequences }

theorem ofDumps_sequences :
    Project.ofDumps Project.enumerableCatalog sequences = .ok loadedSequences := by cbv

theorem signature_carried_more :
    Project.ofDumps Project.enumerableCatalog sequences = .ok loadedSequences ∧
      .type loadedMore ∈ allDeclarations loadedSequences.units ∧
      loadedMore.indexSignature? = none ∧
      ∃ E, ParentChain loadedSequences.units loadedMore E ∧
        (E.indexSignature? = some (.indexed (.primitive .number)) ∨
          LeavesOut loadedSequences.units E (.indexed (.primitive .number))) := by
  have hmem : .type loadedMore ∈ allDeclarations loadedSequences.units :=
    .tail _ (.tail _ (.tail _ (.tail _ (.head _))))
  exact ⟨ofDumps_sequences, hmem, by cbv, signature_carried ofDumps_sequences hmem (by cbv)⟩

/-- **A signature that is left out is lost**: all transitive interfaces of `Seq` call for an index
signature, and no declaration on its chain of parents has one. -/
theorem signature_lost :
    ∃ p, Project.ofDumps Project.enumerableCatalog sequences = .ok p ∧
      .type loadedSeq ∈ allDeclarations p.units ∧
      IndexSignature.ofInterfaces? loadedSeq.allInterfaces = some (.indexed (.primitive .number)) ∧
      ∀ E, ParentChain p.units loadedSeq E → E.indexSignature? = none := by
  refine ⟨loadedSequences, ofDumps_sequences, .tail _ (.tail _ (.head _)), by cbv, ?_⟩
  have hplain : firstType? loadedSequences.units "Plain" = some loadedPlain := by cbv
  rintro E (_ | ⟨hparent, hX, hE⟩)
  · cbv
  · -- The parent is `Plain`, which has none and ends the chain.
    cases hparent
    obtain rfl := Option.some.inj (hplain.symm.trans hX)
    rcases hE with _ | ⟨hnone, _, _⟩
    · cbv
    · cases hnone

end Inheritance

end DeclGen
