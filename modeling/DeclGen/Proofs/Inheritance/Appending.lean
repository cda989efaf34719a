import DeclGen.Proofs.Inheritance.Cycle

/-!
# Linking with more units behind

Units can be linked by themselves, or with more units behind them. A name finds its first
declaration, so the units behind are found only by names that the units before them do not declare.
Where these declare all that they inherit from (`DeclGen.Inheritance.SelfContained`), no such name
is ever asked for, and then the units behind make no difference: the same units come first, linked
as they are by themselves (`DeclGen.Inheritance.link_append`).

Both halves of linking go through what it is proved equal to. A listing over the units is a listing
over more of them, and there is at most one; and a cycle of references among the units is a cycle
among more of them, so a success with more units is a success without.
-/

namespace DeclGen

namespace Inheritance

variable {units : List SourceUnit}

/-- All declared types among some ancestors are declared in the units. -/
def DeclaredIn (units : List SourceUnit) (as : List Ancestor) : Prop :=
  ∀ a ∈ as, a.type.declared = true → firstNamed units a.type.name ≠ none

/-- Units are **self-contained** if they declare all declared types that their declarations inherit
from. -/
def SelfContained (units : List SourceUnit) : Prop :=
  ∀ d, .type d ∈ allDeclarations units → DeclaredIn units d.ancestors

/-! ### A name finds the same declaration -/

theorem firstNamed_append_eq_some {name : String} {d : Declaration}
    (h : firstNamed units name = some d) (more : List SourceUnit) :
    firstNamed (units ++ more) name = some d := by
  rw [firstNamed_append, h, Option.some_or]

theorem firstType?_append {name : String} (h : firstNamed units name ≠ none)
    (more : List SourceUnit) : firstType? (units ++ more) name = firstType? units name := by
  obtain ⟨d, hd⟩ := Option.ne_none_iff_exists'.mp h
  rw [firstType?, firstType?, hd, firstNamed_append_eq_some hd]

/-- A name refers to the same names when there are more units, since its first declaration is the
same. -/
theorem Refers.append {n m : String} (h : Refers units n m) (more : List SourceUnit) :
    Refers (units ++ more) n m := by
  obtain ⟨d, hd, ht⟩ := h
  refine ⟨d, ?_, ht⟩
  exact firstType?_eq_some.mpr (firstNamed_append_eq_some (firstType?_eq_some.mp hd) more)

/-! ### Listings -/

mutual

/-- **A listing over self-contained units is a listing over more units.** -/
theorem Listing.append (hself : SelfContained units) (more : List SourceUnit)
    {as : List Ancestor} {l : List NamedType} :
    Listing units as l → DeclaredIn units as → Listing (units ++ more) as l
  | .nil, _ => .nil
  | .cons hm hl, has => by
    obtain ⟨ha, has⟩ := List.forall_mem_cons.mp has
    exact .cons (hm.append hself more ha) (hl.append hself more has)

theorem Inherits.append (hself : SelfContained units) (more : List SourceUnit) {t : NamedType}
    {l : List NamedType} :
    Inherits units t l → (t.declared = true → firstNamed units t.name ≠ none) →
      Inherits (units ++ more) t l
  | .library h, _ => .library h
  | .untyped h hnone, ht => .untyped h ((firstType?_append (ht h) more).trans hnone)
  | .declared h hd hl, ht => by
    -- The declaration that the name finds is one of the units', so its ancestors are declared too.
    have has := hself _ (mem_of_firstType? hd)
    exact .declared h ((firstType?_append (ht h) more).trans hd) (hl.append hself more has)

end

/-- There is at most one linked form. -/
theorem Linked.unique {d D D' : Declaration} (h : Linked units d D) (h' : Linked units d D') :
    D = D' := by
  cases h with
  | enum d =>
    cases h'
    rfl
  | type hl =>
    obtain ⟨l', hl', rfl⟩ := exists_of_linked h'
    rw [hl.unique hl']

theorem UnitLinked.unique {u u₁ u₂ : SourceUnit} (h₁ : UnitLinked units u u₁)
    (h₂ : UnitLinked units u u₂) : u₁ = u₂ := by
  have hdeclarations : u₁.declarations = u₂.declarations :=
    List.right_unique_forall₂' (fun _ _ _ h h' => h.unique h') h₁.2 h₂.2
  have hname : u₁.name = u₂.name := h₁.1.trans h₂.1.symm
  cases u₁
  cases u₂
  cases hname
  cases hdeclarations
  rfl

theorem Linked.append (hself : SelfContained units) (more : List SourceUnit)
    {d D : Declaration} (h : Linked units d D) (hd : d ∈ allDeclarations units) :
    Linked (units ++ more) d D := by
  cases h with
  | enum d => exact .enum d
  | type hl => exact .type (hl.append hself more (hself _ hd))

theorem UnitLinked.append (hself : SelfContained units) (more : List SourceUnit)
    {u u' : SourceUnit} (h : UnitLinked units u u') (hu : u ∈ units) :
    UnitLinked (units ++ more) u u' := by
  refine ⟨h.1, ?_⟩
  have hmem : ∀ d ∈ u.declarations, d ∈ allDeclarations units :=
    fun d hd => List.mem_flatMap.mpr ⟨u, hu, hd⟩
  refine ((List.forall₂_and_left _ _).mpr ⟨hmem, h.2⟩).imp ?_
  exact fun d D ⟨hd, hlinked⟩ => hlinked.append hself more hd

/-- **More units behind make no difference**: where they can be linked, so can self-contained units
by themselves, and these are the first of the linked units. -/
theorem link_append (hself : SelfContained units) {more linked : List SourceUnit}
    (h : link (.ofUnits (units ++ more)) (units ++ more) = .ok linked) :
    ∃ first rest, linked = first ++ rest ∧ link (.ofUnits units) units = .ok first ∧
      rest.length = more.length := by
  obtain ⟨first, rest, rfl, hfirst, hrest⟩ := exists_of_forall₂_append (link_ok h)
  refine ⟨first, rest, rfl, ?_, hrest.length_eq.symm⟩
  cases hlink : link (.ofUnits units) units with
  | error e =>
    -- A failure is a cycle among the units, and it would be one among all of them.
    obtain ⟨n, -, hcycle⟩ := cycle_of_link_error hlink
    have hrefers : Refers units ≤ Refers (units ++ more) := fun _ _ h => h.append more
    exact absurd (Relation.TransGen.mono hrefers _ _ hcycle) (not_cycle_of_link_ok h n)
  | ok alone =>
    have halone : List.Forall₂ (UnitLinked (units ++ more)) units alone :=
      ((List.forall₂_and_left _ _).mpr ⟨fun _ hu => hu, link_ok hlink⟩).imp
        fun u u' ⟨hu, hlinked⟩ => hlinked.append hself more hu
    exact congrArg Except.ok
      (List.right_unique_forall₂' (fun _ _ _ h h' => h.unique h') halone hfirst)

end Inheritance

end DeclGen
