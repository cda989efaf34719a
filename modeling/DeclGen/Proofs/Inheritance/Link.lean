import DeclGen.Proofs.Inheritance.Listing
import Mathlib

/-!
# Linked units

`DeclGen.Inheritance.Listing` says what one declaration inherits. This file follows linking through
the units: a success gives every type declaration, at its place, its listing without duplicates, and
changes nothing else (`DeclGen.Inheritance.link_ok`).

Linking does not look at the lists that it fills: two inputs that differ in nothing but those lists
link alike (`DeclGen.Inheritance.link_unlinked`). So what the lists held before has no influence,
and linking twice is linking once.
-/

namespace DeclGen

/-- A declaration without its transitive interfaces. -/
def Declaration.unlinked : Declaration → Declaration
  | .type d => .type { d with allInterfaces := [] }
  | .enum d => .enum d

/-- A unit without the transitive interfaces of its declarations. -/
def SourceUnit.unlinked (u : SourceUnit) : SourceUnit :=
  { u with declarations := u.declarations.map Declaration.unlinked }

namespace Inheritance

variable {units : List SourceUnit}

/-! ### What linking gives -/

/-- A declaration and its **linked** form: a type with its listing, each type of it once, and an
enum as it was. -/
inductive Linked (units : List SourceUnit) : Declaration → Declaration → Prop
  /-- Nothing of an enum is linked. -/
  | enum (d : EnumDecl) : Linked units (.enum d) (.enum d)
  /-- Of a type only the transitive interfaces are set. -/
  | type {d : TypeDecl} {l : List NamedType} : Listing units d.ancestors l →
      Linked units (.type d) (.type { d with allInterfaces := l.eraseDups })

/-- Of a linked type only the transitive interfaces are new. -/
theorem exists_of_linked {d : TypeDecl} {D : Declaration} (h : Linked units (.type d) D) :
    ∃ l, Listing units d.ancestors l ∧ D = .type { d with allInterfaces := l.eraseDups } := by
  cases h with
  | type hl => exact ⟨_, hl, rfl⟩

theorem name_eq_of_linked {d D : Declaration} (h : Linked units d D) : D.name = d.name := by
  cases h <;> rfl

/-- A unit and its linked form. -/
def UnitLinked (units : List SourceUnit) (u u' : SourceUnit) : Prop :=
  u'.name = u.name ∧ List.Forall₂ (Linked units) u.declarations u'.declarations

/-- **A declaration is linked to its own listing**, also where its name finds another one. -/
theorem allInterfaces_ok {u i : Nat} {unit : SourceUnit} {d : TypeDecl} {memo memo' : Memo}
    {types : List NamedType} (hu : units[u]? = some unit)
    (hd : unit.declarations[i]? = some (.type d)) (hm : MemoSound units memo)
    (h : allInterfaces (.ofUnits units) units u i d memo = .ok (types, memo')) :
    MemoSound units memo' ∧ ∃ l, types = l.eraseDups ∧ Listing units d.ancestors l := by
  unfold allInterfaces at h
  split at h
  · next hr =>
    -- The declaration is walked by its name, and its name finds the declaration itself.
    obtain ⟨hm', l, rfl, hl⟩ := (walk_ok units).1 _ _ _ hm _ _ h
    have hfirst := Registry.findType?_of_registered hu hd hr
    cases hl (.ofDeclared d.name d.kind []) rfl rfl with
    | library ht => cases ht
    | untyped _ hnone => rw [show firstType? units d.name = none from hnone] at hfirst; cases hfirst
    | declared _ hsome hl =>
      rw [show firstType? units d.name = some _ from hsome] at hfirst
      cases hfirst
      exact ⟨hm', l, rfl, hl⟩
  · obtain ⟨hm', l, rfl, hl⟩ := (walk_ok units).2 _ _ _ _ hm _ _ h
    exact ⟨hm', l, addNew_nil_left l, hl⟩

theorem findDeclarations_ok {u : Nat} {unit : SourceUnit} (hu : units[u]? = some unit)
    (ds : List Declaration) :
    ∀ (done : List Declaration) {found : List (List NamedType)} {memo memo' : Memo},
      unit.declarations = done ++ ds → MemoSound units memo →
      findDeclarations (.ofUnits units) units u done.length ds memo = .ok (found, memo') →
      MemoSound units memo' ∧
        List.Forall₂ (fun d types => Linked units d (d.withInterfaces types)) ds found := by
  induction ds with
  | nil =>
    intro done found memo memo' _ hm h
    cases h
    exact ⟨hm, .nil⟩
  | cons d ds ih =>
    intro done found memo memo' hds hm h
    obtain ⟨⟨types, memo₁⟩, hfirst, h⟩ := bind_eq_ok.mp h
    obtain ⟨⟨later, memo₂⟩, hlater, h⟩ := bind_eq_ok.mp h
    cases h
    have hd : MemoSound units memo₁ ∧ Linked units d (d.withInterfaces types) := by
      cases d with
      | enum d =>
        cases hfirst
        exact ⟨hm, .enum d⟩
      | type d =>
        obtain ⟨hm₁, l, rfl, hlisting⟩ := allInterfaces_ok hu (by simp [hds]) hm hfirst
        exact ⟨hm₁, .type hlisting⟩
    -- The rest is found from one place further on.
    have hlen : (done ++ [d]).length = done.length + 1 := by simp
    obtain ⟨hm₂, hlinked⟩ := ih (done ++ [d]) (by simp [hds]) hd.1 (hlen ▸ hlater)
    exact ⟨hm₂, .cons hd.2 hlinked⟩

theorem findFrom_ok (rest : List SourceUnit) :
    ∀ (done : List SourceUnit) {found : List (List (List NamedType))} {memo : Memo},
      units = done ++ rest → MemoSound units memo →
      findFrom (.ofUnits units) units done.length rest memo = .ok found →
      List.Forall₂ (fun u types => UnitLinked units u (u.withInterfaces types)) rest found := by
  induction rest with
  | nil =>
    intro done found memo _ _ h
    cases h
    exact .nil
  | cons u rest ih =>
    intro done found memo hunits hm h
    have hu : units[done.length]? = some u := by simp [hunits]
    obtain ⟨⟨types, memo₁⟩, hfirst, h⟩ := bind_eq_ok.mp h
    obtain ⟨later, hlater, h⟩ := bind_eq_ok.mp h
    cases h
    obtain ⟨hm₁, hlinked⟩ := findDeclarations_ok hu u.declarations [] rfl hm hfirst
    have hlen : (done ++ [u]).length = done.length + 1 := by simp
    have hunit : UnitLinked units u (u.withInterfaces types) :=
      ⟨rfl, forall₂_zipWith hlinked fun _ _ hd => hd⟩
    exact .cons hunit (ih (done ++ [u]) (by simp [hunits]) hm₁ (hlen ▸ hlater))

/-- **Linked units hold the listings**, and nothing else of them is changed. -/
theorem link_ok {linked : List SourceUnit} (h : link (.ofUnits units) units = .ok linked) :
    List.Forall₂ (UnitLinked units) units linked := by
  obtain ⟨found, hfound, h⟩ := bind_eq_ok.mp h
  cases h
  exact forall₂_zipWith (findFrom_ok units [] rfl memoSound_nil hfound) fun _ _ hu => hu

/-- The declarations before and after linking stand side by side. -/
theorem linked_allDeclarations {linked : List SourceUnit}
    (h : link (.ofUnits units) units = .ok linked) :
    List.Forall₂ (Linked units) (allDeclarations units) (allDeclarations linked) :=
  List.rel_flatMap (link_ok h) fun _ _ hu => hu.2

/-- Every type declaration of units that can be linked has a listing. -/
theorem exists_listing {linked : List SourceUnit} (h : link (.ofUnits units) units = .ok linked)
    {d : TypeDecl} (hd : .type d ∈ allDeclarations units) : ∃ l, Listing units d.ancestors l := by
  obtain ⟨_, -, hlinked⟩ := exists_of_mem_left (linked_allDeclarations h) hd
  obtain ⟨l, hl, -⟩ := exists_of_linked hlinked
  exact ⟨l, hl⟩

/-! ### What linking does not look at -/

/-- Linking leaves everything but the transitive interfaces as it was. -/
theorem unlinked_eq_of_linked {d d' : Declaration} (h : Linked units d d') :
    d'.unlinked = d.unlinked := by
  cases h <;> rfl

theorem unlinked_eq_of_unitLinked {u u' : SourceUnit} (h : UnitLinked units u u') :
    u'.unlinked = u.unlinked := by
  unfold SourceUnit.unlinked
  rw [h.1, map_eq_map_of_forall₂ h.2 fun _ _ hd => (unlinked_eq_of_linked hd).symm]

theorem map_unlinked_of_link_ok {linked : List SourceUnit}
    (h : link (.ofUnits units) units = .ok linked) :
    linked.map SourceUnit.unlinked = units.map SourceUnit.unlinked :=
  (map_eq_map_of_forall₂ (link_ok h) fun _ _ hu => (unlinked_eq_of_unitLinked hu).symm).symm

/-- The registry does not depend on transitive interfaces. -/
theorem ofUnits_unlinked (units : List SourceUnit) :
    Registry.ofUnits (units.map SourceUnit.unlinked) = Registry.ofUnits units := by
  unfold Registry.ofUnits Registry.namesOf
  rw [List.map_map]
  congr 1
  refine List.map_congr_left fun u _ => ?_
  rw [Function.comp, SourceUnit.unlinked, List.map_map]
  refine List.map_congr_left fun d _ => ?_
  cases d <;> rfl

/-- A name finds the same declaration, without its transitive interfaces. -/
theorem findType?_unlinked (r : Registry) (units : List SourceUnit) (name : String) :
    r.findType? (units.map SourceUnit.unlinked) name =
      (r.findType? units name).map fun d => { d with allInterfaces := [] } := by
  have hfind : r.find? (units.map SourceUnit.unlinked) name =
      (r.find? units name).map Declaration.unlinked := by
    unfold Registry.find?
    cases r.slot? name with
    | none => rfl
    | some slot =>
      simp only [Option.bind_eq_bind, Option.bind_some, List.getElem?_map, Option.bind_map,
        Option.map_bind]
      congr 1
      funext u
      simp [SourceUnit.unlinked]
  unfold Registry.findType?
  rw [hfind]
  cases r.find? units name with
  | none => rfl
  | some d => cases d <;> rfl

/-- The walk does not look at transitive interfaces. -/
theorem walk_unlinked (r : Registry) (units : List SourceUnit) :
    (∀ (path : List String) (name : String) (memo : Memo),
      inheritedByName r (units.map SourceUnit.unlinked) path name memo =
        inheritedByName r units path name memo) ∧
    ∀ (path : List String) (types : List NamedType) (as : List Ancestor) (memo : Memo),
      collect r (units.map SourceUnit.unlinked) path types as memo =
        collect r units path types as memo := by
  refine inheritedByName.mutual_induct r units _ _ ?hit ?onPath ?untyped ?walk
    ?done ?declared ?library
  case hit =>
    intro path name memo done hdone
    rw [inheritedByName_hit hdone, inheritedByName_hit hdone]
  case onPath =>
    intro path name memo hnone hp
    rw [inheritedByName_onPath hnone hp, inheritedByName_onPath hnone hp]
  case untyped =>
    intro path name memo hnone hp hd
    have hd' : r.findType? (units.map SourceUnit.unlinked) name = none := by
      rw [findType?_unlinked, hd, Option.map_none]
    rw [inheritedByName_untyped hnone hp hd, inheritedByName_untyped hnone hp hd']
  case walk =>
    intro path name memo hnone hp d hd _ ih
    have hd' : r.findType? (units.map SourceUnit.unlinked) name =
        some { d with allInterfaces := [] } := by
      rw [findType?_unlinked, hd, Option.map_some]
    rw [inheritedByName_walk hnone hp hd, inheritedByName_walk hnone hp hd', ← ih]
    rfl
  case done =>
    intro path types memo
    rw [collect, collect]
  case declared =>
    intro path types a rest memo ha ihr iha
    rw [collect_cons, collect_cons, if_pos ha, if_pos ha, iha]
    simp only [ihr]
  case library =>
    intro path types a rest memo ha ihr
    rw [collect_cons, collect_cons, if_neg ha, if_neg ha]
    simp only [ihr]

theorem allInterfaces_unlinked (r : Registry) (units : List SourceUnit) (u i : Nat) (d : TypeDecl)
    (memo : Memo) :
    allInterfaces r (units.map SourceUnit.unlinked) u i { d with allInterfaces := [] } memo =
      allInterfaces r units u i d memo := by
  unfold allInterfaces
  rw [(walk_unlinked r units).1, (walk_unlinked r units).2]
  rfl

theorem findDeclarations_unlinked (r : Registry) (units : List SourceUnit) (u : Nat)
    (ds : List Declaration) :
    ∀ (i : Nat) (memo : Memo),
      findDeclarations r (units.map SourceUnit.unlinked) u i (ds.map Declaration.unlinked) memo =
        findDeclarations r units u i ds memo := by
  induction ds with
  | nil => exact fun _ _ => rfl
  | cons d ds ih =>
    intro i memo
    have hd : findDeclaration r (units.map SourceUnit.unlinked) u i d.unlinked memo =
        findDeclaration r units u i d memo := by
      cases d with
      | enum d => rfl
      | type d => exact allInterfaces_unlinked r units u i d memo
    rw [List.map_cons, findDeclarations, findDeclarations, hd]
    simp only [ih]

theorem findFrom_unlinked (r : Registry) (units : List SourceUnit) (rest : List SourceUnit) :
    ∀ (u : Nat) (memo : Memo),
      findFrom r (units.map SourceUnit.unlinked) u (rest.map SourceUnit.unlinked) memo =
        findFrom r units u rest memo := by
  induction rest with
  | nil => exact fun _ _ => rfl
  | cons unit rest ih =>
    intro u memo
    rw [List.map_cons, findFrom, findFrom, SourceUnit.unlinked, findDeclarations_unlinked]
    simp only [ih]

/-- What is written to a declaration replaces the list that it had. -/
theorem withInterfaces_unlinked (d : Declaration) (types : List NamedType) :
    d.unlinked.withInterfaces types = d.withInterfaces types := by
  cases d <;> rfl

theorem unit_withInterfaces_unlinked (u : SourceUnit) (found : List (List NamedType)) :
    u.unlinked.withInterfaces found = u.withInterfaces found := by
  unfold SourceUnit.withInterfaces SourceUnit.unlinked
  simp only [List.zipWith_map_left, withInterfaces_unlinked]

/-- **Linking does not look at the lists that it fills.** -/
theorem link_unlinked (units : List SourceUnit) :
    link (.ofUnits (units.map SourceUnit.unlinked)) (units.map SourceUnit.unlinked) =
      link (.ofUnits units) units := by
  rw [ofUnits_unlinked, link, link, findFrom_unlinked]
  simp only [List.zipWith_map_left, unit_withInterfaces_unlinked]

/-- Units that differ in nothing but transitive interfaces are linked alike. -/
theorem link_congr {units units' : List SourceUnit}
    (h : units'.map SourceUnit.unlinked = units.map SourceUnit.unlinked) :
    link (.ofUnits units') units' = link (.ofUnits units) units := by
  rw [← link_unlinked units', h, link_unlinked]

/-! ### Linking computes the listing -/

/-- **Linking computes the plain listing.** Every type declaration, at its own place, ends with its
listing in which each type stands once, at its first place, and nothing else is changed. The listing
is unique; what the lists held before has no influence; and linking again changes nothing. -/
theorem link_eq_listing {linked : List SourceUnit} (h : link (.ofUnits units) units = .ok linked) :
    List.Forall₂ (UnitLinked units) units linked ∧
      (∀ as l l', Listing units as l → Listing units as l' → l = l') ∧
      (∀ units', units'.map SourceUnit.unlinked = units.map SourceUnit.unlinked →
        link (.ofUnits units') units' = .ok linked) ∧
      link (.ofUnits linked) linked = .ok linked := by
  refine ⟨link_ok h, fun _ _ _ => Listing.unique, fun units' heq => ?_, ?_⟩
  · rw [link_congr heq, h]
  · rw [link_congr (map_unlinked_of_link_ok h), h]

/-- Two units with the transitive interfaces of their declarations. `Base` is declared twice, the
second time with the first as its base, and so inherits `INamed` in two ways. -/
def family (entity base again : List NamedType) : List SourceUnit :=
  [{ name := "a"
     declarations :=
      [.type { name := "INamed", kind := .interfaceType },
       .type
        { name := "IEntity", kind := .interfaceType
          interfaces := [.ofDeclared "INamed" .interfaceType []], allInterfaces := entity },
       .type
        { name := "Base", kind := .classType
          base := some
            { name := "Bag", kind := .classType
              interfaces := [.named (.external "IEnumerable" .interfaceType)] }
          interfaces := [.ofDeclared "IEntity" .interfaceType []], allInterfaces := base }] },
   { name := "b"
     declarations :=
      [.enum { name := "Colour" },
       .type
        { name := "Base", kind := .classType
          base := some (.ofDeclared "Base" .classType [])
          interfaces := [.ofDeclared "INamed" .interfaceType []], allInterfaces := again }] }]

/-- The family's units, linked. -/
def linkedFamily : List SourceUnit :=
  family [.ofDeclared "INamed" .interfaceType []]
    [.ofDeclared "IEntity" .interfaceType [], .ofDeclared "INamed" .interfaceType [],
      .external "IEnumerable" .interfaceType]
    [.ofDeclared "INamed" .interfaceType [], .ofDeclared "IEntity" .interfaceType [],
      .external "IEnumerable" .interfaceType]

theorem link_eq_listing_family :
    link (.ofUnits (family [] [] [])) (family [] [] []) = .ok linkedFamily ∧
      List.Forall₂ (UnitLinked (family [] [] [])) (family [] [] []) linkedFamily ∧
      link (.ofUnits linkedFamily) linkedFamily = .ok linkedFamily := by
  have h : link (.ofUnits (family [] [] [])) (family [] [] []) = .ok linkedFamily := by cbv
  obtain ⟨hlinked, -, -, hagain⟩ := link_eq_listing h
  exact ⟨h, hlinked, hagain⟩

end Inheritance

end DeclGen
