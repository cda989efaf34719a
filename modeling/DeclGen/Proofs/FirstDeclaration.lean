import DeclGen.Registry
import Mathlib.Data.List.Nodup

/-!
# A name finds its first declaration

A `Registry` is filled by walking through the units and keeping places, not declarations. This file
says what that comes to: the name of a declaration finds the *first declaration of that name*, in
unit and declaration order, with that declaration's kind (`DeclGen.Registry.find?_ofUnits` and
`DeclGen.Registry.kind?_ofUnits`). Nothing else about places is needed afterwards, except that a
place which a registry names for a declaration is where that declaration stands
(`DeclGen.Registry.findType?_of_registered`).

The invariant of the walk is `DeclGen.Registry.Knows`: what the registry knows is the first
occurrence of each name among the declarations that have been walked through.
-/

namespace DeclGen

/-- All declarations, in unit and declaration order. -/
def allDeclarations (units : List SourceUnit) : List Declaration :=
  units.flatMap (·.declarations)

/-- The first declaration of a name. -/
def firstNamed (units : List SourceUnit) (name : String) : Option Declaration :=
  (allDeclarations units).find? (·.name == name)

/-- The first declaration of a name, if it declares a type. -/
def firstType? (units : List SourceUnit) (name : String) : Option TypeDecl :=
  match firstNamed units name with
  | some (.type d) => some d
  | _ => none

theorem firstType?_eq_some {units : List SourceUnit} {name : String} {d : TypeDecl} :
    firstType? units name = some d ↔ firstNamed units name = some (.type d) := by
  unfold firstType?
  split
  · next h => rw [h]; simp
  · next h => exact ⟨nofun, fun hd => absurd hd (h d)⟩

/-- What a name finds is one of the declarations. -/
theorem mem_of_firstType? {units : List SourceUnit} {name : String} {d : TypeDecl}
    (h : firstType? units name = some d) : .type d ∈ allDeclarations units :=
  List.mem_of_find?_eq_some (firstType?_eq_some.mp h)

/-- Of two lists of units the first goes before the second. -/
theorem firstNamed_append (units more : List SourceUnit) (name : String) :
    firstNamed (units ++ more) name = (firstNamed units name).or (firstNamed more name) := by
  rw [firstNamed, allDeclarations, List.flatMap_append, List.find?_append]
  rfl

/-- **Where all names are distinct, a name finds the same in any order.** -/
theorem find?_name_perm {α : Type} {nameOf : α → String} {as as' : List α} (hperm : as'.Perm as)
    (hnames : (as.map nameOf).Nodup) (name : String) :
    as'.find? (nameOf · == name) = as.find? (nameOf · == name) := by
  -- There is one element of the name at most, so whatever has the name is what is found.
  have hfind : ∀ l : List α, (l.map nameOf).Nodup → ∀ a,
      l.find? (nameOf · == name) = some a ↔ a ∈ l ∧ nameOf a = name := by
    intro l hl a
    constructor
    · exact fun h => ⟨List.mem_of_find?_eq_some h, by simpa using List.find?_some h⟩
    · rintro ⟨ha, rfl⟩
      have hsome : (l.find? (nameOf · == nameOf a)).isSome :=
        List.find?_isSome.mpr ⟨a, ha, beq_self_eq_true (nameOf a)⟩
      obtain ⟨b, hb⟩ := Option.isSome_iff_exists.mp hsome
      have hname : nameOf b = nameOf a := by simpa using List.find?_some hb
      rw [hb, List.inj_on_of_nodup_map hl (List.mem_of_find?_eq_some hb) ha hname]
  ext a
  rw [hfind as' ((hperm.map nameOf).nodup_iff.mpr hnames), hfind as hnames, hperm.mem_iff]

namespace Registry

/-- The declaration that stands at a place. -/
def declarationAt (units : List SourceUnit) (slot : Slot) : Option Declaration := do
  let unit ← units[slot.unit]?
  unit.declarations[slot.index]?

/-- **What a registry knows after some declarations**: of each name the kind and the place of the
first of them. -/
def Knows (units : List SourceUnit) (r : Registry) (seen : List Declaration) : Prop :=
  ∀ name, (r.slot? name).map (fun s => (s.kind, declarationAt units s)) =
    (seen.find? (·.name == name)).map fun d => (d.kind, some d)

/-- A registration adds its name unless the name is there. -/
theorem slot?_insert (r : Registry) (m name : String) (slot : Slot) :
    (r.insert m slot).slot? name =
      (r.slot? name).or (if name == m then some slot else none) := by
  unfold insert
  split
  · next hc =>
    by_cases hn : name = m
    · subst hn
      obtain ⟨s, hs⟩ := Option.isSome_iff_exists.mp hc
      rw [hs, Option.some_or]
    · simp [hn]
  · rw [slot?, List.lookup_append]
    by_cases hn : name = m
    · subst hn
      rw [List.lookup_cons_self, beq_self_eq_true, if_pos rfl]
      rfl
    · have hb : (name == m) = false := by simpa using hn
      rw [List.lookup_cons, hb, if_neg (by simp)]
      rfl

/-- **Kinds need no places**: a name that is listed has the kind that it is listed with first. -/
theorem kind?_insertUnit (ds : List (String × Kind)) (name : String) :
    ∀ (r : Registry) (u i : Nat),
      (r.insertUnit u i ds).kind? name =
        (r.kind? name).or ((ds.find? (·.1 == name)).map (·.2)) := by
  induction ds with
  | nil => exact fun r _ _ => (Option.or_none).symm
  | cons d ds ih =>
    intro r u i
    rw [insertUnit, ih, kind?, slot?_insert, kind?, List.find?_cons, BEq.comm]
    cases r.slot? name with
    | some s => rfl
    | none => cases hn : d.1 == name <;> simp

theorem kind?_insertUnits (names : List (List (String × Kind))) (name : String) :
    ∀ (r : Registry) (u : Nat),
      (r.insertUnits u names).kind? name =
        (r.kind? name).or ((names.flatten.find? (·.1 == name)).map (·.2)) := by
  induction names with
  | nil => exact fun r _ => (Option.or_none).symm
  | cons ds names ih =>
    intro r u
    rw [insertUnits, ih, kind?_insertUnit, Option.or_assoc, List.flatten_cons, List.find?_append,
      Option.map_or]

theorem kind?_ofNames (names : List (List (String × Kind))) (name : String) :
    (ofNames names).kind? name = (names.flatten.find? (·.1 == name)).map (·.2) := by
  rw [ofNames, kind?_insertUnits]
  rfl

variable {units : List SourceUnit} {r : Registry} {seen : List Declaration}

theorem Knows.insert {d : Declaration} {u i : Nat} (h : Knows units r seen)
    (hd : declarationAt units ⟨d.kind, u, i⟩ = some d) :
    Knows units (r.insert d.name ⟨d.kind, u, i⟩) (seen ++ [d]) := by
  intro name
  have hname := h name
  rw [slot?_insert, List.find?_append]
  cases hf : seen.find? (·.name == name) with
  | some d' =>
    -- The name was met before, so its place stays and the first declaration with it.
    rw [hf] at hname
    obtain ⟨s, hs, -⟩ := Option.map_eq_some_iff.mp hname
    rw [hs] at hname ⊢
    exact hname
  | none =>
    rw [hf, Option.map_none, Option.map_eq_none_iff] at hname
    rw [hname]
    by_cases hn : name = d.name
    · simp [hn, hd]
    · have hn' : (d.name == name) = false := by simpa using fun e => hn e.symm
      simp [hn, hn']

/-- A unit's declarations are walked through from position `i` on. -/
theorem Knows.insertUnit {u : Nat} {unit : SourceUnit} (hu : units[u]? = some unit)
    (ds : List Declaration) :
    ∀ (done : List Declaration) {r : Registry} {seen : List Declaration},
      unit.declarations = done ++ ds → Knows units r seen →
      Knows units (r.insertUnit u done.length (ds.map fun d => (d.name, d.kind))) (seen ++ ds) := by
  induction ds with
  | nil =>
    intro done r seen _ h
    simpa [Registry.insertUnit] using h
  | cons d ds ih =>
    intro done r seen hds h
    have hd : declarationAt units ⟨d.kind, u, done.length⟩ = some d := by
      simp [declarationAt, hu, hds]
    have hstep := ih (done ++ [d]) (by simp [hds]) (h.insert hd)
    simpa [Registry.insertUnit] using hstep

/-- Units are walked through from one position on. -/
theorem Knows.insertUnits (rest : List SourceUnit) :
    ∀ (done : List SourceUnit) {r : Registry}, units = done ++ rest →
      Knows units r (allDeclarations done) →
      Knows units (r.insertUnits done.length (namesOf rest)) (allDeclarations units) := by
  induction rest with
  | nil =>
    intro done r hunits h
    simpa [hunits, Registry.insertUnits, namesOf] using h
  | cons unit rest ih =>
    intro done r hunits h
    have hu : units[done.length]? = some unit := by simp [hunits]
    have hunit := Knows.insertUnit hu unit.declarations [] rfl h
    have hstep := ih (done ++ [unit]) (by simp [hunits]) (by simpa [allDeclarations] using hunit)
    simpa [Registry.insertUnits, namesOf] using hstep

/-- **The registry of units knows the first declaration of each name.** -/
theorem knows_ofUnits (units : List SourceUnit) :
    Knows units (ofUnits units) (allDeclarations units) :=
  Knows.insertUnits units [] rfl fun _ => rfl

/-- **A name finds its first declaration.** -/
theorem find?_ofUnits (units : List SourceUnit) (name : String) :
    (ofUnits units).find? units name = firstNamed units name := by
  have h := congrArg (·.bind Prod.snd) (knows_ofUnits units name)
  simp only [Option.bind_map, Function.comp_def, Option.bind_fun_some] at h
  exact h

/-- **A name has the kind of its first declaration.** -/
theorem kind?_ofUnits (units : List SourceUnit) (name : String) :
    (ofUnits units).kind? name = (firstNamed units name).map (·.kind) := by
  have h := congrArg (Option.map Prod.fst) (knows_ofUnits units name)
  simpa [kind?, firstNamed, Function.comp_def] using h

theorem findType?_ofUnits (units : List SourceUnit) (name : String) :
    (ofUnits units).findType? units name = firstType? units name := by
  rw [findType?, find?_ofUnits]
  rfl

/-- A declaration that stands at its name's place is what its name finds. -/
theorem findType?_of_registered {d : TypeDecl} {u i : Nat} {unit : SourceUnit}
    (hu : units[u]? = some unit) (hd : unit.declarations[i]? = some (.type d))
    (hr : ((ofUnits units).slot? d.name).any fun slot => slot.unit = u ∧ slot.index = i) :
    firstType? units d.name = some d := by
  rw [← findType?_ofUnits, findType?, Registry.find?]
  cases hs : (ofUnits units).slot? d.name with
  | none => simp [hs] at hr
  | some s =>
    obtain ⟨rfl, rfl⟩ : s.unit = u ∧ s.index = i := by simpa [hs] using hr
    simp [hu, hd]

end Registry

end DeclGen
