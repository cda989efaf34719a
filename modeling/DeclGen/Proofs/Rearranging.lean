import DeclGen.Proofs.Appending
import DeclGen.Proofs.Inheritance.Rearranging
import Mathlib

/-!
# Declarations in another arrangement

The declarations of a project can be written in any order and spread over units in any way. Where
their names are distinct, this makes no difference to any of them: each is loaded to the same
declaration and has the same block, and only the order of the blocks is that of the declarations
(`DeclGen.Project.ofDumps_perm`).

A declaration is resolved by itself, against names of which nothing counts but the kinds that they
are declared as; and distinct names have the same kinds in every arrangement. So each declaration is
resolved alike. That each is then linked alike is
`DeclGen.Inheritance.link_perm`, and a block is made from one declaration only.
-/

namespace DeclGen

namespace Project

variable {catalog : Catalog} {dumps dumps' : List (String × Dump)}

/-! ### Resolving -/

/-- Distinct names are declared as the same kinds in every arrangement, so no reference can tell the
arrangements apart. -/
theorem agreeOn_perm (hperm : (written dumps').Perm (written dumps))
    (hnames : ((written dumps).map (·.name)).Nodup) :
    Names.AgreeOn ⟨registryOf dumps, catalog⟩ ⟨registryOf dumps', catalog⟩ fun _ => True where
  kind k _ := by
    rw [kind?_registryOf_written, kind?_registryOf_written, find?_name_perm hperm hnames]
  entry _ _ _ := rfl
  closed _ _ _ _ _ _ _ _ _ := trivial

/-- **The arrangement does not matter to resolution**: declarations that can be resolved can be
resolved in every arrangement, and each is resolved to the same. -/
theorem resolveUnits_perm {n : Names} (hperm : (written dumps').Perm (written dumps))
    {units : List SourceUnit} (h : dumps.mapM n.resolveUnit = .ok units) :
    ∃ units', dumps'.mapM n.resolveUnit = .ok units' ∧
      (allDeclarations units').Perm (allDeclarations units) := by
  have hresolved : ∀ d ∈ written dumps', ∃ D, n.resolveDeclaration d = .ok D := by
    intro d hd
    obtain ⟨D, -, hD⟩ := exists_of_mem_left (resolved_written h) (hperm.mem_iff.mp hd)
    exact ⟨D, hD⟩
  have hunits : ∀ u ∈ dumps', ∃ unit, n.resolveUnit u = .ok unit := by
    intro u hu
    obtain ⟨ds, hds⟩ := exists_mapM_eq_ok fun d hd =>
      hresolved d (List.mem_flatMap.mpr ⟨u, hu, hd⟩)
    exact ⟨_, bind_eq_ok.mpr ⟨ds, hds, rfl⟩⟩
  obtain ⟨units', h'⟩ := exists_mapM_eq_ok hunits
  have hunique : Relator.RightUnique fun d D => n.resolveDeclaration d = .ok D :=
    fun _ _ _ h h' => Except.ok.inj (h.symm.trans h')
  exact ⟨units', h', perm_of_forall₂ hunique hperm (resolved_written h) (resolved_written h')⟩

/-! ### Loading -/

/-- The names of the loaded declarations are the written ones. -/
theorem map_name_loaded {n : Names} {units : List SourceUnit} {ds : List Dump.Declaration}
    {Ds : List Declaration} (h : List.Forall₂ (Loaded n units) ds Ds) :
    Ds.map (·.name) = ds.map (·.name) :=
  (map_eq_map_of_forall₂ h fun _ _ hd => hd.name_eq.symm).symm

theorem map_name_of_ofDumps {p : Project} (h : ofDumps catalog dumps = .ok p) :
    (allDeclarations p.units).map (·.name) = (written dumps).map (·.name) := by
  obtain ⟨units, hunits, hlink⟩ := ofDumps_ok h
  exact map_name_loaded (loaded_written hunits hlink)

/-- What loads in one arrangement loads in every other, to the same declarations. -/
theorem exists_ofDumps_perm (hperm : (written dumps').Perm (written dumps))
    (hnames : ((written dumps).map (·.name)).Nodup) {p : Project}
    (h : ofDumps catalog dumps = .ok p) :
    ∃ p', ofDumps catalog dumps' = .ok p' ∧
      (allDeclarations p'.units).Perm (allDeclarations p.units) := by
  obtain ⟨units, hunits, hlink⟩ := ofDumps_ok h
  obtain ⟨units', hunits', hresolved⟩ := resolveUnits_perm hperm hunits
  have hnames' : ((allDeclarations units).map (·.name)).Nodup := by
    have hsame : (allDeclarations units).map (·.name) = (written dumps).map (·.name) :=
      (map_eq_map_of_forall₂ (resolved_written hunits) fun _ _ hd =>
        (Names.resolveDeclaration_name_kind hd).1.symm).symm
    rwa [hsame]
  obtain ⟨linked, hlinked, hperm'⟩ := Inheritance.link_perm hresolved hnames' hlink
  -- The units were resolved against the other arrangement's names, which makes no difference.
  have hown : dumps'.mapM (Names.mk (registryOf dumps') catalog).resolveUnit = .ok units' := by
    rw [← hunits']
    exact mapM_congr fun u _ =>
      Names.resolveUnit_congr (agreeOn_perm hperm hnames) fun _ _ _ _ _ _ => trivial
  refine ⟨⟨linked, registryOf dumps'⟩,
    bind_eq_ok.mpr ⟨units', hown, bind_eq_ok.mpr ⟨linked, ?_, rfl⟩⟩,
    hperm'⟩
  rw [registryOf_eq_ofUnits hown]
  exact hlinked

/-! ### Writing -/

/-- What is written for units **are some blocks**: that of each declaration by itself, in order. -/
structure WritesBlocks (c : Config) (units : List SourceUnit) (blocks : List String) : Prop where
  each : List.Forall₂ (fun d block => d.blockText c = .ok block) (declarationsOf units) blocks
  output : emitUnits c units = { text := String.join blocks, outcome := .ok () }

/-- Where no enum is refused, the blocks of all declarations are written. -/
theorem writesBlocks_of_ofDumps {p : Project} (h : ofDumps catalog dumps = .ok p) {c : Config}
    (hc : c.refusesEnums = true → ∀ e, .enum e ∉ written dumps) :
    WritesBlocks c p.units ((declarationsOf p.units).map fun d => c.keyword ++ d.body) := by
  obtain ⟨units, hunits, hlink⟩ := ofDumps_ok h
  have haccepted := Emission.refusal?_eq_none_of_loaded (loaded_written hunits hlink) hc
  refine ⟨?_, Emission.emitUnits_of_accepted haccepted⟩
  refine List.forall₂_map_right_iff.mpr (List.forall₂_same.mpr fun d hd => ?_)
  rw [Declaration.blockText_eq, haccepted d hd]

/-! ### Any arrangement -/

/-- **The arrangement of declarations does not matter**, for every catalog and all declarations of
distinct names, in whatever order and in whatever units they are written.

They load in one arrangement exactly if they do in another. Then each name has the same loaded
declaration in both; and under every configuration that refuses none of them, the same blocks are
written, each declaration's own, in the order of the declarations. -/
theorem ofDumps_perm (hperm : (written dumps').Perm (written dumps))
    (hnames : ((written dumps).map (·.name)).Nodup) :
    ((∃ p, ofDumps catalog dumps = .ok p) ↔ ∃ p', ofDumps catalog dumps' = .ok p') ∧
      ∀ p p', ofDumps catalog dumps = .ok p → ofDumps catalog dumps' = .ok p' →
        (allDeclarations p.units).map (·.name) = (written dumps).map (·.name) ∧
        (allDeclarations p'.units).map (·.name) = (written dumps').map (·.name) ∧
        (∀ name, firstNamed p'.units name = firstNamed p.units name) ∧
        (allDeclarations p'.units).Perm (allDeclarations p.units) ∧
        ∀ c, (c.refusesEnums = true → ∀ e, .enum e ∉ written dumps) →
          ∃ blocks blocks', WritesBlocks c p.units blocks ∧ WritesBlocks c p'.units blocks' ∧
            blocks'.Perm blocks := by
  have hnames' : ((written dumps').map (·.name)).Nodup := (hperm.map _).nodup_iff.mpr hnames
  refine ⟨⟨?_, ?_⟩, fun p p' h h' => ?_⟩
  · rintro ⟨p, h⟩
    obtain ⟨p', h', -⟩ := exists_ofDumps_perm hperm hnames h
    exact ⟨p', h'⟩
  · rintro ⟨p', h'⟩
    obtain ⟨p, h, -⟩ := exists_ofDumps_perm hperm.symm hnames' h'
    exact ⟨p, h⟩
  · have hloaded : (allDeclarations p'.units).Perm (allDeclarations p.units) := by
      obtain ⟨q, hq, hperm'⟩ := exists_ofDumps_perm hperm hnames h
      rw [h'] at hq
      cases hq
      exact hperm'
    have hdistinct : ((allDeclarations p.units).map (·.name)).Nodup := by
      rwa [map_name_of_ofDumps h]
    refine ⟨map_name_of_ofDumps h, map_name_of_ofDumps h', fun name => ?_, hloaded, fun c hc => ?_⟩
    · exact Inheritance.firstNamed_perm hloaded hdistinct name
    · have hc' : c.refusesEnums = true → ∀ e, .enum e ∉ written dumps' :=
        fun hrefuses e he => hc hrefuses e (hperm.mem_iff.mp he)
      exact ⟨_, _, writesBlocks_of_ofDumps h hc, writesBlocks_of_ofDumps h' hc', hloaded.map _⟩

/-- The shops in two units, of which the first refers to the second. -/
def scatteredShops : List (String × Dump) :=
  [("sellers", ⟨(written Emission.shops).drop 1⟩), ("goods", ⟨(written Emission.shops).take 1⟩)]

/-- The scattered shops, loaded. -/
def loadedScatteredShops : Project :=
  { units :=
      [{ name := "sellers", declarations := [.type Emission.loadedShop] },
       { name := "goods", declarations := [.type { name := "Item", kind := .classType }] }]
    registry := registryOf scatteredShops }

theorem ofDumps_perm_shops :
    (written scatteredShops).Perm (written Emission.shops) ∧
      ((written Emission.shops).map (·.name)).Nodup ∧
      ofDumps bagCatalog scatteredShops = .ok loadedScatteredShops ∧
      firstNamed loadedScatteredShops.units "Shop" = firstNamed Emission.loadedShops.units "Shop" ∧
      ∃ blocks blocks', WritesBlocks {} Emission.loadedShops.units blocks ∧
        WritesBlocks {} loadedScatteredShops.units blocks' ∧ blocks'.Perm blocks := by
  have hperm : (written scatteredShops).Perm (written Emission.shops) := .swap _ _ _
  have hnames : ((written Emission.shops).map (·.name)).Nodup := by
    rw [show (written Emission.shops).map (·.name) = ["Item", "Shop"] from rfl]
    decide
  have h : ofDumps bagCatalog scatteredShops = .ok loadedScatteredShops := by cbv
  obtain ⟨-, hsame⟩ := @ofDumps_perm bagCatalog _ _ hperm hnames
  obtain ⟨-, -, hfind, -, hblocks⟩ := hsame _ _ Emission.ofDumps_shops h
  exact ⟨hperm, hnames, h, hfind "Shop", hblocks {} fun hc => absurd hc (by decide)⟩

end Project

end DeclGen
