import DeclGen.Proofs.Inheritance.Listing
import DeclGen.Proofs.TypeKinds

/-!
# Linking does not look at kinds

Two lists of units that differ in nothing but the kinds of declared types are linked alike: the
transitive interfaces of one are those of the other with their kinds changed, and a cycle is
reported for the same name (`DeclGen.Inheritance.link_rekind`).

The walk compares types, since of equal ones the first stays, and kinds take part in that
comparison. So a change of kinds must not make two types equal that were different, and this is why
it has to be an exchange, name by name (`DeclGen.SourceType.rekind_injective`). Everything else that
the walk looks at has no kind: the names on its path, the names that it keeps lists for, and the
places of declarations (`DeclGen.Registry.place?`).
-/

namespace DeclGen

/-! ### Places of declarations -/

namespace Registry

/-- The place of the declaration that a name is registered for. -/
def place? (r : Registry) (name : String) : Option (Nat × Nat) :=
  (r.slot? name).map fun s => (s.unit, s.index)

theorem place?_insert (r : Registry) (m name : String) (slot : Slot) :
    (r.insert m slot).place? name =
      (r.place? name).or (if name == m then some (slot.unit, slot.index) else none) := by
  rw [place?, slot?_insert, Option.map_or, place?]
  cases name == m <;> rfl

/-- **Places do not depend on kinds**: declarations of the same names stand at the same places. -/
theorem place?_insertUnit {u : Nat} {ds ds' : List (String × Kind)}
    (hnames : List.Forall₂ (fun d d' => d'.1 = d.1) ds ds') :
    ∀ {r r' : Registry} (i : Nat), (∀ name, r'.place? name = r.place? name) →
      ∀ name, (r'.insertUnit u i ds').place? name = (r.insertUnit u i ds).place? name := by
  induction hnames with
  | nil => exact fun _ h => h
  | @cons d d' _ _ hname _ ih =>
    obtain ⟨m, k⟩ := d
    obtain ⟨m', k'⟩ := d'
    cases hname
    intro r r' i h
    refine ih (i + 1) fun name => ?_
    rw [place?_insert, place?_insert, h]

theorem place?_insertUnits {names names' : List (List (String × Kind))}
    (hnames : List.Forall₂ (List.Forall₂ fun d d' => d'.1 = d.1) names names') :
    ∀ {r r' : Registry} (u : Nat), (∀ name, r'.place? name = r.place? name) →
      ∀ name, (r'.insertUnits u names').place? name = (r.insertUnits u names).place? name := by
  induction hnames with
  | nil => exact fun _ h => h
  | cons hunit _ ih => exact fun u h => ih (u + 1) (place?_insertUnit hunit 0 h)

end Registry

/-! ### Ancestors -/

/-- Changes the kinds of declared types in a type that is inherited from. -/
def Ancestor.rekind (κ : String → Kind → Kind) : Ancestor → Ancestor
  | .interface t => .interface (t.rekind κ)
  | .base t => .base (t.rekind κ)

theorem TypeDecl.ancestors_rekind (κ : String → Kind → Kind) (kind : Kind) (d : TypeDecl) :
    (d.rekind κ kind).ancestors = d.ancestors.map (Ancestor.rekind κ) := by
  unfold ancestors rekind
  cases d.base <;> simp [Ancestor.rekind, Function.comp_def]

theorem NamedTypeOf.namedInterfaces_rekind (κ : String → Kind → Kind) (t : NamedType) :
    (t.rekind κ).namedInterfaces = t.namedInterfaces.map (NamedTypeOf.rekind κ) := by
  unfold namedInterfaces rekind
  rw [List.filterMap_map, List.map_filterMap]
  congr 1
  funext s
  cases s with
  | array s => rfl
  | named s => exact congrArg SourceType.asNamed? (named_rekind κ s)

namespace Inheritance

variable {κ : String → Kind → Kind}

/-- What is new stays new where no two types are confused. -/
theorem addNew_map {ψ : NamedType → NamedType} (hψ : Function.Injective ψ)
    (types xs : List NamedType) :
    addNew (types.map ψ) (xs.map ψ) = (addNew types xs).map ψ := by
  induction xs generalizing types with
  | nil => rfl
  | cons x xs ih =>
    rw [List.map_cons, addNew, addNew, ← ih]
    by_cases hx : x ∈ types
    · rw [if_pos hx, if_pos (List.mem_map_of_mem hx)]
    · rw [if_neg hx, if_neg fun h => hx ((List.mem_map_of_injective hψ).mp h), List.map_append]
      rfl

/-- Changes the kinds of declared types in the lists that have been found. -/
def Memo.rekind (κ : String → Kind → Kind) (memo : Memo) : Memo :=
  memo.map fun e => (e.1, e.2.map (NamedTypeOf.rekind κ))

theorem lookup_memo_rekind (memo : Memo) (name : String) :
    (memo.rekind κ).lookup name = (memo.lookup name).map (List.map (NamedTypeOf.rekind κ)) :=
  lookup_map_snd _ memo name

/-! ### The walk -/

section Walk

variable {r r' : Registry} {units units' : List SourceUnit}

/-- Two ways to find type declarations by name **find alike**: the same names, with the same
ancestors but for kinds. -/
def FindAlike (κ : String → Kind → Kind) (r r' : Registry) (units units' : List SourceUnit) :
    Prop :=
  ∀ name, Option.Rel (fun d d' => d'.ancestors = d.ancestors.map (Ancestor.rekind κ))
    (r.findType? units name) (r'.findType? units' name)

/-- A list that is found, with the lists that are kept then, and the same ones with the kinds of
declared types changed. -/
def FoundAlike (κ : String → Kind → Kind) (found found' : List NamedType × Memo) : Prop :=
  found' = (found.1.map (NamedTypeOf.rekind κ), found.2.rekind κ)

/-- **The walk does not look at kinds.** -/
theorem walk_rekind (hκ : ∀ name, Function.Involutive (κ name))
    (hfind : FindAlike κ r r' units units') :
    (∀ (path : List String) (name : String) (memo : Memo),
      EndsAlike (FoundAlike κ) (inheritedByName r units path name memo)
        (inheritedByName r' units' path name (memo.rekind κ))) ∧
    ∀ (path : List String) (types : List NamedType) (as : List Ancestor) (memo : Memo),
      EndsAlike (FoundAlike κ) (collect r units path types as memo)
        (collect r' units' path (types.map (NamedTypeOf.rekind κ)) (as.map (Ancestor.rekind κ))
          (memo.rekind κ)) := by
  have hadd := addNew_map (NamedTypeOf.rekind_injective hκ)
  refine inheritedByName.mutual_induct r units _ _ ?hit ?onPath ?untyped ?walk
    ?done ?declared ?library
  case hit =>
    intro path name memo done hdone
    have hdone' : (memo.rekind κ).lookup name = some (done.map (NamedTypeOf.rekind κ)) := by
      rw [lookup_memo_rekind, hdone, Option.map_some]
    rw [inheritedByName_hit hdone, inheritedByName_hit hdone']
    exact .ok rfl
  case onPath =>
    intro path name memo hnone hp
    have hnone' : (memo.rekind κ).lookup name = none := by
      rw [lookup_memo_rekind, hnone, Option.map_none]
    rw [inheritedByName_onPath hnone hp, inheritedByName_onPath hnone' hp]
    exact .error _
  case untyped =>
    intro path name memo hnone hp hd
    have hnone' : (memo.rekind κ).lookup name = none := by
      rw [lookup_memo_rekind, hnone, Option.map_none]
    have hd' : r'.findType? units' name = none := by
      have hrel := hfind name
      rw [hd] at hrel
      generalize r'.findType? units' name = found at hrel ⊢
      cases hrel
      rfl
    rw [inheritedByName_untyped hnone hp hd, inheritedByName_untyped hnone' hp hd']
    exact .ok rfl
  case walk =>
    intro path name memo hnone hp d hd _ ih
    have hnone' : (memo.rekind κ).lookup name = none := by
      rw [lookup_memo_rekind, hnone, Option.map_none]
    obtain ⟨d', hd', hancestors⟩ : ∃ d', r'.findType? units' name = some d' ∧
        d'.ancestors = d.ancestors.map (Ancestor.rekind κ) := by
      have hrel := hfind name
      rw [hd] at hrel
      generalize r'.findType? units' name = found at hrel ⊢
      cases hrel with
      | some h => exact ⟨_, rfl, h⟩
    rw [inheritedByName_walk hnone hp hd, inheritedByName_walk hnone' hp hd', hancestors]
    refine ih.bind ?_
    rintro ⟨types, memo₁⟩ _ rfl
    exact .ok rfl
  case done =>
    intro path types memo
    rw [List.map_nil, collect, collect]
    exact .ok rfl
  case declared =>
    intro path types a rest memo ha ihr iha
    have hname : (a.rekind κ).type.name = a.type.name := by cases a <;> rfl
    have ha' : (a.rekind κ).type.declared = true := by cases a <;> exact ha
    have hitself : (a.rekind κ).itself = a.itself.map (NamedTypeOf.rekind κ) := by cases a <;> rfl
    rw [List.map_cons, collect_cons, collect_cons, if_pos ha, if_pos ha', hname]
    refine iha.bind ?_
    rintro ⟨inherited, memo₁⟩ _ rfl
    rw [hitself, ← List.map_append, hadd]
    exact ihr _ _
  case library =>
    intro path types a rest memo ha ihr
    have ha' : ¬(a.rekind κ).type.declared = true := by cases a <;> exact ha
    have hitself : (a.rekind κ).itself = a.itself.map (NamedTypeOf.rekind κ) := by cases a <;> rfl
    have hlisted : (a.rekind κ).type.namedInterfaces =
        a.type.namedInterfaces.map (NamedTypeOf.rekind κ) := by
      cases a <;> exact NamedTypeOf.namedInterfaces_rekind κ _
    rw [List.map_cons, collect_cons, collect_cons, if_neg ha, if_neg ha', hlisted, ok_bind, ok_bind,
      hitself, ← List.map_append, hadd]
    exact ihr a.type.namedInterfaces memo

end Walk

/-! ### Linking -/

section Link

variable {units units' : List SourceUnit}

/-- Units that differ in kinds find alike. -/
theorem findAlike_of_rekinded
    (h : List.Forall₂ (Declaration.Rekinded κ) (allDeclarations units) (allDeclarations units')) :
    FindAlike κ (.ofUnits units) (.ofUnits units') units units' := by
  intro name
  rw [Registry.findType?_ofUnits, Registry.findType?_ofUnits, firstType?, firstType?, firstNamed,
    firstNamed]
  have hname : ∀ d d', Declaration.Rekinded κ d d' → (d.name == name) = (d'.name == name) :=
    fun d d' hd => by rw [hd.name_eq]
  have hrel := find?_of_forall₂ h hname
  generalize (allDeclarations units).find? (·.name == name) = found at hrel ⊢
  generalize (allDeclarations units').find? (·.name == name) = found' at hrel ⊢
  cases hrel with
  | none => exact .none
  | some hd =>
    cases hd with
    | enum d => exact .none
    | type kind d => exact .some (TypeDecl.ancestors_rekind κ kind d)

/-- Units that differ in kinds have their declarations at the same places. -/
theorem place?_ofUnits_rekinded (h : List.Forall₂ (SourceUnit.Rekinded κ) units units')
    (name : String) :
    (Registry.ofUnits units').place? name = (Registry.ofUnits units).place? name := by
  refine Registry.place?_insertUnits ?_ 0 (fun _ => rfl) name
  unfold Registry.namesOf
  refine List.forall₂_map_left_iff.mpr (List.forall₂_map_right_iff.mpr (h.imp fun u u' hu => ?_))
  exact List.forall₂_map_left_iff.mpr
    (List.forall₂_map_right_iff.mpr (hu.2.imp fun _ _ hd => hd.name_eq))

theorem allInterfaces_rekind (hκ : ∀ name, Function.Involutive (κ name))
    (hfind : FindAlike κ (.ofUnits units) (.ofUnits units') units units')
    (hplace : ∀ name, (Registry.ofUnits units').place? name = (Registry.ofUnits units).place? name)
    (u i : Nat) (d : TypeDecl) (kind : Kind) (memo : Memo) :
    EndsAlike (FoundAlike κ) (allInterfaces (.ofUnits units) units u i d memo)
      (allInterfaces (.ofUnits units') units' u i (d.rekind κ kind) (memo.rekind κ)) := by
  -- Whether a declaration stands at its name's place is a matter of places only.
  have hregistered : ∀ r : Registry,
      ((r.slot? d.name).any fun slot => slot.unit = u ∧ slot.index = i) =
        ((r.place? d.name).any fun p => p.1 = u ∧ p.2 = i) := by
    intro r
    rw [Registry.place?, Option.any_map]
  have hname : (d.rekind κ kind).name = d.name := rfl
  unfold allInterfaces
  rw [hname, hregistered, hregistered, hplace]
  split
  · exact (walk_rekind hκ hfind).1 _ _ _
  · rw [TypeDecl.ancestors_rekind]
    exact (walk_rekind hκ hfind).2 _ _ _ _

theorem findDeclarations_rekind (hκ : ∀ name, Function.Involutive (κ name))
    (hfind : FindAlike κ (.ofUnits units) (.ofUnits units') units units')
    (hplace : ∀ name, (Registry.ofUnits units').place? name = (Registry.ofUnits units).place? name)
    (u : Nat) {ds ds' : List Declaration} (hds : List.Forall₂ (Declaration.Rekinded κ) ds ds') :
    ∀ (i : Nat) (memo : Memo),
      EndsAlike (fun p p' => p' = (p.1.map (List.map (NamedTypeOf.rekind κ)), p.2.rekind κ))
        (findDeclarations (.ofUnits units) units u i ds memo)
        (findDeclarations (.ofUnits units') units' u i ds' (memo.rekind κ)) := by
  induction hds with
  | nil => exact fun _ _ => .ok rfl
  | @cons d d' ds ds' hd _ ih =>
    intro i memo
    have hfirst : EndsAlike (FoundAlike κ) (findDeclaration (.ofUnits units) units u i d memo)
        (findDeclaration (.ofUnits units') units' u i d' (memo.rekind κ)) := by
      cases hd with
      | enum d => exact .ok rfl
      | type kind d => exact allInterfaces_rekind hκ hfind hplace u i d kind memo
    rw [findDeclarations, findDeclarations]
    refine hfirst.bind ?_
    rintro ⟨types, memo₁⟩ _ rfl
    refine (ih (i + 1) memo₁).bind ?_
    rintro ⟨found, memo₂⟩ _ rfl
    exact .ok rfl

theorem findFrom_rekind (hκ : ∀ name, Function.Involutive (κ name))
    (hfind : FindAlike κ (.ofUnits units) (.ofUnits units') units units')
    (hplace : ∀ name, (Registry.ofUnits units').place? name = (Registry.ofUnits units).place? name)
    {rest rest' : List SourceUnit} (hrest : List.Forall₂ (SourceUnit.Rekinded κ) rest rest') :
    ∀ (u : Nat) (memo : Memo),
      EndsAlike (fun found found' =>
          found' = found.map (List.map (List.map (NamedTypeOf.rekind κ))))
        (findFrom (.ofUnits units) units u rest memo)
        (findFrom (.ofUnits units') units' u rest' (memo.rekind κ)) := by
  induction hrest with
  | nil => exact fun _ _ => .ok rfl
  | @cons unit unit' rest rest' hunit _ ih =>
    intro u memo
    rw [findFrom, findFrom]
    refine (findDeclarations_rekind hκ hfind hplace u hunit.2 0 memo).bind ?_
    rintro ⟨found, memo₁⟩ _ rfl
    refine (ih (u + 1) memo₁).bind ?_
    rintro later _ rfl
    exact .ok rfl

/-- Declarations that differ in kinds still do when lists that differ in kinds are written to
them. -/
theorem withInterfaces_rekinded {d d' : Declaration} (types : List NamedType)
    (h : Declaration.Rekinded κ d d') :
    Declaration.Rekinded κ (d.withInterfaces types)
      (d'.withInterfaces (types.map (NamedTypeOf.rekind κ))) := by
  cases h with
  | enum d => exact .enum d
  | type kind d => exact .type kind { d with allInterfaces := types }

/-- **Linking does not look at kinds**: units that differ in the kinds of declared types are linked
to units that differ in them, or fail alike. -/
theorem link_rekind (hκ : ∀ name, Function.Involutive (κ name))
    (h : List.Forall₂ (SourceUnit.Rekinded κ) units units') :
    EndsAlike (List.Forall₂ (SourceUnit.Rekinded κ))
      (link (.ofUnits units) units) (link (.ofUnits units') units') := by
  have hdeclarations : List.Forall₂ (Declaration.Rekinded κ) (allDeclarations units)
      (allDeclarations units') := List.rel_flatMap h fun _ _ hu => hu.2
  refine (findFrom_rekind hκ (findAlike_of_rekinded hdeclarations) (place?_ofUnits_rekinded h) h
    0 []).bind ?_
  rintro found _ rfl
  refine .ok (forall₂_zipWith_map h (fun u u' types hu => ?_) found)
  exact ⟨hu.1, forall₂_zipWith_map hu.2 (fun _ _ => withInterfaces_rekinded) types⟩

end Link

end Inheritance

end DeclGen
