import DeclGen.Project
import DeclGen.Proofs.FirstDeclaration
import DeclGen.Proofs.Resolution.Steps

/-!
# What loading makes of a dump

Loading keeps every declaration at its place. So the declarations that dumps write down and those of
the units stand side by side, and what is proved of a loaded declaration can be told in terms of the
written one. This file says so for resolution: each declaration is resolved by itself, against the
names that all of them declare, and these are the names of the resolved units
(`DeclGen.Project.registryOf_eq_ofUnits`).
-/

namespace DeclGen

/-- The types that a declaration writes itself: its base, its interfaces and those of its
members. -/
def TypeDecl.ownTypes (d : TypeDecl) : List SourceType :=
  (d.base.toList ++ d.interfaces).map .named ++ d.members.map (·.type)

/-- The references that a type declaration is written with. -/
def Dump.TypeDecl.references (d : Dump.TypeDecl) : List Reference :=
  d.base.toList ++ d.interfaces ++ d.members.map (·.type)

/-- The references that a declaration is written with. An enum has none. -/
def Dump.Declaration.references : Dump.Declaration → List Reference
  | .type _ d => d.references
  | .enum _ => []

/-- A declaration writes what it inherits from. -/
theorem TypeDecl.type_mem_ownTypes {d : TypeDecl} {a : Ancestor} (ha : a ∈ d.ancestors) :
    .named a.type ∈ d.ownTypes := by
  refine List.mem_append_left _ (List.mem_map_of_mem (List.mem_append.mpr ?_))
  rcases List.mem_append.mp ha with ha | ha
  · obtain ⟨t, ht, rfl⟩ := List.mem_map.mp ha
    exact Or.inr ht
  · obtain ⟨t, ht, rfl⟩ := Option.map_eq_some_iff.mp (Option.mem_toList.mp ha)
    exact Or.inl (Option.mem_toList.mpr ht)

namespace Names

variable {n : Names}

theorem resolveNamed_eq_ok {scope : Scope} {place : NamedPlace} {declaration : String}
    {r : Reference} {t : NamedType} :
    n.resolveNamed scope place declaration r = .ok t ↔ n.resolve [] scope r = .ok (.named t) := by
  rw [resolveNamed, bind_eq_ok]
  constructor
  · rintro ⟨s, hs, h⟩
    cases s with
    | array _ => cases h
    | named s =>
      cases h
      exact hs
  · exact fun h => ⟨_, h, rfl⟩

/-- **A resolved declaration** has the written name, its base, its interfaces and its members are
resolved in the scope of its type parameters, and its transitive interfaces are not there yet. -/
theorem resolveType_ok {kind : Kind} {d : Dump.TypeDecl} {D : TypeDecl}
    (h : n.resolveType kind d = .ok D) :
    D.name = d.name ∧ D.kind = kind ∧
      n.resolveBase (.ofParameters d.parameters) d = .ok D.base ∧
      List.Forall₂ (fun r t =>
        n.resolveNamed (.ofParameters d.parameters) .interface d.name r = .ok t)
        d.interfaces D.interfaces ∧
      List.Forall₂ (fun w m => n.resolveMember (.ofParameters d.parameters) w = .ok m)
        d.members D.members := by
  obtain ⟨base, hbase, h⟩ := bind_eq_ok.mp h
  obtain ⟨interfaces, hinterfaces, h⟩ := bind_eq_ok.mp h
  obtain ⟨members, hmembers, h⟩ := bind_eq_ok.mp h
  cases h
  exact ⟨rfl, rfl, hbase, mapM_eq_ok.mp hinterfaces, mapM_eq_ok.mp hmembers⟩

/-- **What a declaration writes itself is resolved** in the scope of its type parameters. -/
theorem resolve_ownType {kind : Kind} {d : Dump.TypeDecl} {D : TypeDecl}
    (h : n.resolveType kind d = .ok D) {t : SourceType} (ht : t ∈ D.ownTypes) :
    ∃ r, n.resolve [] (.ofParameters d.parameters) r = .ok t := by
  obtain ⟨-, -, hbase, hinterfaces, hmembers⟩ := resolveType_ok h
  rcases List.mem_append.mp ht with ht | ht
  · obtain ⟨s, hs, rfl⟩ := List.mem_map.mp ht
    rcases List.mem_append.mp hs with hs | hs
    · unfold resolveBase at hbase
      rw [Option.mem_toList.mp hs] at hbase
      split at hbase
      · cases hbase
      · next r _ =>
        obtain ⟨t', hr, h⟩ := bind_eq_ok.mp hbase
        cases h
        exact ⟨r, resolveNamed_eq_ok.mp hr⟩
    · obtain ⟨r, _, hr⟩ := exists_of_mem_right hinterfaces hs
      exact ⟨r, resolveNamed_eq_ok.mp hr⟩
  · obtain ⟨m, hm, rfl⟩ := List.mem_map.mp ht
    obtain ⟨w, _, hw⟩ := exists_of_mem_right hmembers hm
    obtain ⟨t, hr, h⟩ := bind_eq_ok.mp hw
    cases h
    exact ⟨w.type, hr⟩

theorem resolveDeclaration_name_kind {d : Dump.Declaration} {D : Declaration}
    (h : n.resolveDeclaration d = .ok D) : D.name = d.name ∧ D.kind = d.kind := by
  cases d with
  | enum d =>
    cases h
    exact ⟨rfl, rfl⟩
  | type kind d =>
    obtain ⟨D', hD', h⟩ := bind_eq_ok.mp h
    cases h
    obtain ⟨hname, hkind, -⟩ := resolveType_ok hD'
    exact ⟨hname, hkind⟩

end Names

namespace Project

/-- All written declarations, in unit and declaration order. -/
def written (dumps : List (String × Dump)) : List Dump.Declaration :=
  dumps.flatMap (·.2.declarations)

theorem written_append (dumps more : List (String × Dump)) :
    written (dumps ++ more) = written dumps ++ written more :=
  List.flatMap_append

/-- **A name is declared as its first written declaration says**, and by nothing else. -/
theorem kind?_registryOf_written (dumps : List (String × Dump)) (name : String) :
    (registryOf dumps).kind? name = ((written dumps).find? (·.name == name)).map (·.kind) := by
  have hnames : (namesOf dumps).flatten = (written dumps).map fun d => (d.name, d.kind) := by
    rw [namesOf, written, List.map_flatMap, List.flatMap]
  rw [registryOf, Registry.kind?_ofNames, hnames, List.find?_map, Option.map_map]
  rfl

/-- The first written declaration of a name, if it declares a type. -/
def firstWritten? (dumps : List (String × Dump)) (name : String) : Option Dump.TypeDecl :=
  match (written dumps).find? (·.name == name) with
  | some (.type _ d) => some d
  | _ => none

variable {n : Names} {dumps : List (String × Dump)} {units : List SourceUnit}

theorem resolveUnit_ok {u : String × Dump} {unit : SourceUnit} (h : n.resolveUnit u = .ok unit) :
    unit.name = u.1 ∧
      List.Forall₂ (fun d D => n.resolveDeclaration d = .ok D) u.2.declarations
        unit.declarations := by
  obtain ⟨declarations, hd, h⟩ := bind_eq_ok.mp h
  cases h
  exact ⟨rfl, mapM_eq_ok.mp hd⟩

/-- The written declarations and the resolved ones stand side by side. -/
theorem resolved_written (h : dumps.mapM n.resolveUnit = .ok units) :
    List.Forall₂ (fun d D => n.resolveDeclaration d = .ok D) (written dumps)
      (allDeclarations units) :=
  List.rel_flatMap (mapM_eq_ok.mp h) fun _ _ hu => (resolveUnit_ok hu).2

/-- **Resolved units declare the names that the dumps declare**, each as the same kind. -/
theorem namesOf_eq (h : dumps.mapM n.resolveUnit = .ok units) :
    namesOf dumps = Registry.namesOf units := by
  refine map_eq_map_of_forall₂ (mapM_eq_ok.mp h) fun u unit hu => ?_
  refine map_eq_map_of_forall₂ (resolveUnit_ok hu).2 fun d D hd => ?_
  obtain ⟨hname, hkind⟩ := Names.resolveDeclaration_name_kind hd
  rw [hname, hkind]

theorem registryOf_eq_ofUnits (h : dumps.mapM n.resolveUnit = .ok units) :
    registryOf dumps = .ofUnits units := by
  rw [registryOf, namesOf_eq h, Registry.ofUnits]

/-- **A loaded project** holds resolved units, linked. -/
theorem ofDumps_ok {catalog : Catalog} {p : Project} (h : ofDumps catalog dumps = .ok p) :
    ∃ units, dumps.mapM (Names.mk (registryOf dumps) catalog).resolveUnit = .ok units ∧
      Inheritance.link (.ofUnits units) units = .ok p.units := by
  obtain ⟨units, hunits, h⟩ := bind_eq_ok.mp h
  obtain ⟨linked, hlinked, h⟩ := bind_eq_ok.mp h
  cases h
  exact ⟨units, hunits, registryOf_eq_ofUnits hunits ▸ hlinked⟩

/-- No name is declared as a type parameter. -/
theorem kind?_registryOf_ne_parameter (h : dumps.mapM n.resolveUnit = .ok units) (name : String) :
    (registryOf dumps).kind? name ≠ some .parameter := by
  rw [registryOf_eq_ofUnits h, Registry.kind?_ofUnits]
  intro hp
  obtain ⟨D, hD, hk⟩ := Option.map_eq_some_iff.mp hp
  obtain ⟨d, _, hd⟩ := exists_of_mem_right (resolved_written h) (List.mem_of_find?_eq_some hD)
  rw [(Names.resolveDeclaration_name_kind hd).2] at hk
  cases d with
  | enum _ => cases hk
  | type k _ => cases k <;> cases hk

end Project

end DeclGen
