import DeclGen.Proofs.Inheritance.Appending

/-!
# Linking declarations in another arrangement

Linking walks through the units in their order, keeps places of declarations, and fills its memory
as it goes. What it gives, though, is a listing, and a listing asks for one thing only: which
declaration a name finds. So two arrangements in which every name finds the same declaration have
the same listings (`DeclGen.Inheritance.Listing.congr`) and the same references, hence the same
cycles.

Where all names are distinct, every arrangement of the declarations is of this kind, and then each
declaration is linked alike in all of them (`DeclGen.Inheritance.link_perm`).
-/

namespace DeclGen

namespace Inheritance

variable {units units' : List SourceUnit}

/-! ### Where names find the same -/

theorem Refers.congr (hfind : ∀ name, firstType? units' name = firstType? units name)
    {n m : String} (h : Refers units n m) : Refers units' n m := by
  obtain ⟨d, hd, ht⟩ := h
  exact ⟨d, (hfind n).trans hd, ht⟩

mutual

/-- **A listing depends on what names find**, and on nothing else of the units. -/
theorem Listing.congr (hfind : ∀ name, firstType? units' name = firstType? units name)
    {as : List Ancestor} {l : List NamedType} : Listing units as l → Listing units' as l
  | .nil => .nil
  | .cons hm hl => .cons (hm.congr hfind) (hl.congr hfind)

theorem Inherits.congr (hfind : ∀ name, firstType? units' name = firstType? units name)
    {t : NamedType} {l : List NamedType} : Inherits units t l → Inherits units' t l
  | .library h => .library h
  | .untyped h hnone => .untyped h ((hfind _).trans hnone)
  | .declared h hd hl => .declared h ((hfind _).trans hd) (hl.congr hfind)

end

theorem Linked.congr (hfind : ∀ name, firstType? units' name = firstType? units name)
    {d D : Declaration} (h : Linked units d D) : Linked units' d D := by
  cases h with
  | enum d => exact .enum d
  | type hl => exact .type (hl.congr hfind)

/-- What can be linked can be linked in every arrangement in which names find the same, since there
is no cycle in one if there is none in the other. -/
theorem exists_link_congr (hfind : ∀ name, firstType? units' name = firstType? units name)
    {linked : List SourceUnit} (h : link (.ofUnits units) units = .ok linked) :
    ∃ linked', link (.ofUnits units') units' = .ok linked' := by
  cases hlink : link (.ofUnits units') units' with
  | ok linked' => exact ⟨linked', rfl⟩
  | error e =>
    obtain ⟨n, -, hcycle⟩ := cycle_of_link_error hlink
    have hrefers : Refers units' ≤ Refers units :=
      fun _ _ h => h.congr fun name => (hfind name).symm
    exact absurd (Relation.TransGen.mono hrefers _ _ hcycle) (not_cycle_of_link_ok h n)

/-! ### Distinct names -/

/-- Where all names are distinct, a name finds the same declaration in every arrangement. -/
theorem firstNamed_perm (hperm : (allDeclarations units').Perm (allDeclarations units))
    (hnames : ((allDeclarations units).map (·.name)).Nodup) (name : String) :
    firstNamed units' name = firstNamed units name :=
  find?_name_perm hperm hnames name

/-- **The arrangement does not matter to linking**: declarations of distinct names that can be
linked can be linked in every arrangement, and each is linked to the same. -/
theorem link_perm (hperm : (allDeclarations units').Perm (allDeclarations units))
    (hnames : ((allDeclarations units).map (·.name)).Nodup) {linked : List SourceUnit}
    (h : link (.ofUnits units) units = .ok linked) :
    ∃ linked', link (.ofUnits units') units' = .ok linked' ∧
      (allDeclarations linked').Perm (allDeclarations linked) := by
  have hfind : ∀ name, firstType? units' name = firstType? units name := by
    intro name
    rw [firstType?, firstType?, firstNamed_perm hperm hnames]
  obtain ⟨linked', h'⟩ := exists_link_congr hfind h
  refine ⟨linked', h', ?_⟩
  have hunique : Relator.RightUnique (Linked units') := fun _ _ _ h h' => h.unique h'
  refine perm_of_forall₂ hunique hperm ?_ (linked_allDeclarations h')
  exact (linked_allDeclarations h).imp fun _ _ hd => hd.congr hfind

end Inheritance

end DeclGen
