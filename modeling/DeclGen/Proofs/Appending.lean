import DeclGen.Proofs.Emission.Closed
import DeclGen.Proofs.Inheritance.Appending
import DeclGen.Proofs.Resolution.Asked
import Mathlib

/-!
# Appending units

All units of a project share one registry, one catalog and one linking. So a unit that is appended
could change the units before it in three ways: a name that it declares could be one that they have
so far found in the catalog, or nowhere; it could be one that the catalog's own interface lists
mention; and what it declares could be inherited from. A name that is declared already finds its
first declaration, and a name that nothing mentions is not asked for. Where every new declaration is
of one of these two sorts, none of the three happens (`DeclGen.Project.ofDumps_append`).

The three steps of a run are followed one by one. Resolution cannot tell registries apart that agree
on all names that are mentioned (`DeclGen.Names.resolve_congr`). What it then gives is
self-contained, so linking gives the same first units (`DeclGen.Inheritance.link_append`). And a
writer that goes through more declarations has written those before them first.
-/

namespace DeclGen

open Catalog (Key)

/-! ### Written declarations -/

namespace Names

variable {n n' : Names} {asked : Key → Prop}

theorem resolveNamed_congr (h : n.AgreeOn n' asked) {r : Reference}
    (hr : ∀ k, r.Mentions k → asked k) (scope : Scope) (place : NamedPlace) (declaration : String) :
    n'.resolveNamed scope place declaration r = n.resolveNamed scope place declaration r := by
  rw [resolveNamed, resolveNamed, resolve_congr h fun k hk => hr k hk.mentions]

/-- **A declaration is resolved alike** where there is agreement on all that it mentions. -/
theorem resolveType_congr (h : n.AgreeOn n' asked) {d : Dump.TypeDecl}
    (hd : ∀ r ∈ d.references, ∀ k, r.Mentions k → asked k) (kind : Kind) :
    n'.resolveType kind d = n.resolveType kind d := by
  have hbase : ∀ scope, n'.resolveBase scope d = n.resolveBase scope d := by
    intro scope
    unfold resolveBase
    cases hb : d.base with
    | none => rfl
    | some r =>
      have hr : r ∈ d.references := by simp [Dump.TypeDecl.references, hb]
      simp only [resolveNamed_congr h (hd r hr)]
  have hinterfaces : ∀ scope, d.interfaces.mapM (n'.resolveNamed scope .interface d.name) =
      d.interfaces.mapM (n.resolveNamed scope .interface d.name) := by
    refine fun scope => mapM_congr fun r hr => ?_
    exact resolveNamed_congr h (hd r (by simp [Dump.TypeDecl.references, hr])) _ _ _
  have hmembers : ∀ scope, d.members.mapM (n'.resolveMember scope) =
      d.members.mapM (n.resolveMember scope) := by
    refine fun scope => mapM_congr fun m hm => ?_
    have hr : m.type ∈ d.references := List.mem_append_right _ (List.mem_map_of_mem hm)
    rw [resolveMember, resolveMember, resolve_congr h fun k hk => hd _ hr k hk.mentions]
  rw [resolveType, resolveType, hbase, hinterfaces, hmembers]

theorem resolveDeclaration_congr (h : n.AgreeOn n' asked) {d : Dump.Declaration}
    (hd : ∀ r ∈ d.references, ∀ k, r.Mentions k → asked k) :
    n'.resolveDeclaration d = n.resolveDeclaration d := by
  cases d with
  | enum d => rfl
  | type kind d => rw [resolveDeclaration, resolveDeclaration, resolveType_congr h hd]

theorem resolveUnit_congr (h : n.AgreeOn n' asked) {u : String × Dump}
    (hu : ∀ d ∈ u.2.declarations, ∀ r ∈ d.references, ∀ k, r.Mentions k → asked k) :
    n'.resolveUnit u = n.resolveUnit u := by
  have hdeclarations : u.2.declarations.mapM n'.resolveDeclaration =
      u.2.declarations.mapM n.resolveDeclaration :=
    mapM_congr fun d hd => resolveDeclaration_congr h (hu d hd)
  rw [resolveUnit, resolveUnit, hdeclarations]

end Names

/-! ### Written blocks -/

/-- **What is written first stays**: with more declarations behind, a run writes the same text and
then more, and it ends as before if it was refused before them. -/
theorem Emitter.write_prefix (e : Emitter) (ds rest : List Declaration) :
    (∃ later, (e.write (ds ++ rest)).text = (e.write ds).text ++ later) ∧
      ∀ r, (e.write ds).outcome = .error r → e.write (ds ++ rest) = e.write ds := by
  induction ds generalizing e with
  | nil => exact ⟨⟨(e.write rest).text, String.empty_append.symm⟩, nofun⟩
  | cons d ds ih =>
    rw [List.cons_append, write, write, emit]
    cases d.blockText e.config with
    | error r => exact ⟨⟨"", String.append_empty.symm⟩, fun _ _ => rfl⟩
    | ok block =>
      obtain ⟨⟨later, hlater⟩, hrefused⟩ := ih { e with buffer := block }
      refine ⟨⟨later, ?_⟩, fun r hr => ?_⟩
      · simp only [hlater, String.append_assoc]
      · simp only [hrefused r hr]

/-! ### Names that are not new -/

namespace Project

open Inheritance

variable {catalog : Catalog} {dumps more : List (String × Dump)}

/-- A name is **mentioned**: in a reference of one of the dumps, or in an interface list of the
catalog. -/
def Mentioned (catalog : Catalog) (dumps : List (String × Dump)) (name : String) : Prop :=
  ∃ r, ((∃ d ∈ written dumps, r ∈ d.references) ∨ ∃ e ∈ catalog.entries, r ∈ e.interfaces) ∧
    ∃ arity, r.Mentions (name, arity)

/-- The names that are declared by more dumps **are not new** to the ones before: each is declared
there already, or not mentioned. -/
def NothingNew (catalog : Catalog) (dumps more : List (String × Dump)) : Prop :=
  ∀ d ∈ written more, (∃ d' ∈ written dumps, d'.name = d.name) ∨ ¬Mentioned catalog dumps d.name

/-- **A mentioned name is declared alike** with more dumps, since its first declaration stays. -/
theorem kind?_append_of_mentioned (hnew : NothingNew catalog dumps more) {name : String}
    (hname : Mentioned catalog dumps name) :
    (registryOf (dumps ++ more)).kind? name = (registryOf dumps).kind? name := by
  rw [kind?_registryOf_written, kind?_registryOf_written, written_append, List.find?_append]
  cases hfirst : (written dumps).find? (·.name == name) with
  | some d => rfl
  | none =>
    have hlater : (written more).find? (·.name == name) = none := by
      refine List.find?_eq_none.mpr fun d hd heq => ?_
      obtain rfl := eq_of_beq heq
      rcases hnew d hd with ⟨d', hd', heq'⟩ | hnot
      · exact List.find?_eq_none.mp hfirst d' hd' (by simp [heq'])
      · exact hnot hname
    rw [hlater, Option.or_none]

theorem agreeOn_append (hnew : NothingNew catalog dumps more) :
    Names.AgreeOn ⟨registryOf dumps, catalog⟩ ⟨registryOf (dumps ++ more), catalog⟩
      fun k => Mentioned catalog dumps k.1 where
  kind _ hk := kind?_append_of_mentioned hnew hk
  entry _ _ _ := rfl
  closed _ _ _ _ he i hi k' hk' :=
    ⟨i, Or.inr ⟨_, List.mem_of_find?_eq_some he, hi⟩, k'.2, hk'.mentions⟩

/-! ### The units -/

/-- What resolution makes is declared among the units, where it is marked as declared. -/
theorem makes_declared {n : Names} {units : List SourceUnit}
    (hregistry : n.registry = .ofUnits units) :
    n.Makes fun q => q.declared = true → firstNamed units q.name ≠ none where
  declared := by
    intro name kind _ hk _ hnone
    rw [hregistry, Registry.kind?_ofUnits, show firstNamed units name = none from hnone] at hk
    cases hk
  builtin := by
    intro name t ht hdecl
    obtain ⟨_, _, rfl⟩ := Option.map_eq_some_iff.mp ht
    cases hdecl
  library := by
    intro t hlibrary _ _ hdecl
    rw [hlibrary] at hdecl
    cases hdecl

/-- **Resolved units are self-contained**: a type that is declared is declared in one of them. -/
theorem selfContained_of_resolved {n : Names} {units : List SourceUnit}
    (hunits : dumps.mapM n.resolveUnit = .ok units) (hregistry : n.registry = .ofUnits units) :
    SelfContained units := by
  intro D hD a ha hdecl
  obtain ⟨d, _, hd⟩ := exists_of_mem_right (resolved_written hunits) hD
  cases d with
  | enum d => cases hd
  | type kind d =>
    obtain ⟨D', hD', h⟩ := bind_eq_ok.mp hd
    cases h
    have hown := everywhere_ownTypes (makes_declared hregistry) (fun _ => nofun) hD'
    exact hown _ (TypeDecl.type_mem_ownTypes ha) _ .self hdecl

/-- **Appending units is conservative**, for every catalog, all dumps and all further dumps whose
names are not new to them.

Where all of them load, the first ones load by themselves, and their units are the first units of
all, with the same transitive interfaces. Under every configuration, what is written for them is the
beginning of what is written for all; and where they are refused by themselves, nothing more is
written for all, with the same error. -/
theorem ofDumps_append {p : Project} (h : ofDumps catalog (dumps ++ more) = .ok p)
    (hnew : NothingNew catalog dumps more) :
    ∃ q rest, ofDumps catalog dumps = .ok q ∧
      (∀ sources later, readDumps sources = .ok dumps → readDumps later = .ok more →
        load catalog (sources ++ later) = .ok p ∧ load catalog sources = .ok q) ∧
      p.units = q.units ++ rest ∧ q.units.length = dumps.length ∧ rest.length = more.length ∧
      ∀ c, (∃ later, (emitUnits c p.units).text = (emitUnits c q.units).text ++ later) ∧
        ∀ r, (emitUnits c q.units).outcome = .error r →
          emitUnits c p.units = emitUnits c q.units := by
  obtain ⟨units, hunits, hlink⟩ := ofDumps_ok h
  obtain ⟨first, later, rfl, hfirst, hlater⟩ := mapM_append_eq_ok.mp hunits
  -- The first dumps are resolved alike against the names that they declare themselves.
  have halone : dumps.mapM (Names.mk (registryOf dumps) catalog).resolveUnit = .ok first := by
    rw [← hfirst]
    refine (mapM_congr fun u hu => ?_).symm
    refine Names.resolveUnit_congr (agreeOn_append hnew) fun d hd r hr k hk => ?_
    exact ⟨r, Or.inl ⟨d, List.mem_flatMap.mpr ⟨u, hu, hd⟩, hr⟩, k.2, hk⟩
  have hregistry := registryOf_eq_ofUnits halone
  obtain ⟨linked, rest, hall, hlinked, hrest⟩ :=
    link_append (selfContained_of_resolved halone hregistry) hlink
  have hq : ofDumps catalog dumps = .ok ⟨linked, registryOf dumps⟩ := by
    refine bind_eq_ok.mpr ⟨first, halone, bind_eq_ok.mpr ⟨linked, ?_, rfl⟩⟩
    rw [hregistry]
    exact hlinked
  have hlength : linked.length = dumps.length :=
    (link_ok hlinked).length_eq.symm.trans (mapM_eq_ok.mp halone).length_eq.symm
  have hlength' : rest.length = more.length := hrest.trans (mapM_eq_ok.mp hlater).length_eq.symm
  refine ⟨_, rest, hq, fun sources later hs hl => ⟨?_, ?_⟩, hall, hlength, hlength', fun c => ?_⟩
  · exact bind_eq_ok.mpr ⟨_, mapM_append_eq_ok.mpr ⟨_, _, rfl, hs, hl⟩, h⟩
  · exact bind_eq_ok.mpr ⟨_, hs, hq⟩
  · rw [hall, emitUnits, emitUnits, declarationsOf, List.flatMap_append]
    exact Emitter.write_prefix _ _ _

/-- One more unit: an outlet is a shop, and items are declared again, as an interface. -/
def outlets : List (String × Dump) :=
  [("outlets",
    ⟨[.type .classType { name := "Outlet", base := some (.simple "Shop") },
      .type .interfaceType { name := "Item", interfaces := [.simple "Outlet"] }]⟩)]

/-- The shops and the outlets, loaded. -/
def loadedOutlets : Project :=
  let outlet : TypeDecl :=
    { name := "Outlet", kind := .classType, base := some (.ofDeclared "Shop" .classType [])
      allInterfaces := [Emission.enumerable Emission.item] }
  let again : TypeDecl :=
    { name := "Item", kind := .interfaceType
      interfaces := [.ofDeclared "Outlet" .classType []]
      allInterfaces :=
        [.ofDeclared "Outlet" .classType [], Emission.enumerable Emission.item] }
  { units := Emission.loadedShops.units ++
      [{ name := "outlets", declarations := [.type outlet, .type again] }]
    registry := registryOf (Emission.shops ++ outlets) }

/-- The shops do not mention outlets, and items are declared among them. -/
theorem nothingNew_outlets : NothingNew bagCatalog Emission.shops outlets := by
  refine List.forall_mem_cons.mpr ⟨Or.inr ?_, List.forall_mem_singleton.mpr (Or.inl ?_)⟩
  · rintro ⟨r, hr, arity, hk⟩
    have hshops : ∀ d ∈ written Emission.shops, ∀ r ∈ d.references,
        ¬r.Mentions ("Outlet", arity) := by
      simp [written, Emission.shops, Dump.Declaration.references, Dump.TypeDecl.references]
    have hcatalog : ∀ e ∈ bagCatalog.entries, ∀ r ∈ e.interfaces,
        ¬r.Mentions ("Outlet", arity) := by
      simp [bagCatalog]
    rcases hr with ⟨d, hd, hr⟩ | ⟨e, he, hr⟩
    · exact hshops d hd r hr hk
    · exact hcatalog e he r hr hk
  · exact ⟨_, .head _, rfl⟩

theorem ofDumps_append_outlets :
    ofDumps bagCatalog (Emission.shops ++ outlets) = .ok loadedOutlets ∧
      NothingNew bagCatalog Emission.shops outlets ∧
      ∃ q rest later, ofDumps bagCatalog Emission.shops = .ok q ∧
        loadedOutlets.units = q.units ++ rest ∧
        (emitUnits {} loadedOutlets.units).text = (emitUnits {} q.units).text ++ later := by
  have h : ofDumps bagCatalog (Emission.shops ++ outlets) = .ok loadedOutlets := by cbv
  obtain ⟨q, rest, hq, -, hall, -, -, hwritten⟩ := ofDumps_append h nothingNew_outlets
  obtain ⟨later, hlater⟩ := (hwritten {}).1
  exact ⟨h, nothingNew_outlets, q, rest, later, hq, hall, hlater⟩

end Project

end DeclGen
