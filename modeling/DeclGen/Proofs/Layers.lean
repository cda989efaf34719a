import DeclGen.Proofs.Appending
import Mathlib

/-!
# Layered catalogs

A project is loaded against catalogs that are laid one over the other. Of the layers only one thing
counts, the entry that the last of them has for a key (`DeclGen.Catalog.lastDefined?`), and of the
keys only those count that the dumps lead to. A key is **reachable** if it is mentioned in a dump,
or in an interface list of the entry that is last defined for a reachable key
(`DeclGen.Catalog.Reachable`). An entry that is overridden, or that nothing leads to, may hold
anything: an unknown type parameter, an interface that is a cycle. It is never looked at
(`DeclGen.Project.load_layered`).

That a lookup in the layers finds the last definition is a matter of lists. That resolution looks at
reachable keys only is `DeclGen.Names.resolution_congr`: the reachable keys are closed under what
their entries ask for.
-/

namespace DeclGen

open Catalog (Key Entry)

/-! ### Lookup in layers -/

namespace Catalog

/-- Catalogs that are laid one after the other over a first one. -/
def layered (base : Catalog) (layers : List Catalog) : Catalog :=
  layers.foldl extend base

/-- The entry of the **last layer that defines a key**, if one does. -/
def lastDefined? (layers : List Catalog) (k : Key) : Option Entry :=
  layers.reverse.findSome? (·.find? k)

/-- An upper catalog answers first. -/
theorem find?_extend (c upper : Catalog) (k : Key) :
    (c.extend upper).find? k = (upper.find? k).or (c.find? k) := by
  rw [find?, extend, List.find?_append, List.find?_filter]
  cases hupper : upper.find? k with
  | some e =>
    rw [show upper.entries.find? (·.key == k) = some e from hupper, Option.some_or, Option.some_or]
  | none =>
    -- No entry for the key is left out, since the upper catalog has none.
    have hkept : (fun e : Entry => decide ((!upper.contains e.key) = true ∧ (e.key == k) = true)) =
        fun e => e.key == k := by
      funext e
      by_cases he : e.key = k
      · simp [he, contains, hupper]
      · simp [he]
    rw [show upper.entries.find? (·.key == k) = none from hupper, hkept, Option.none_or,
      Option.none_or, find?]

/-- **A lookup in layers finds the last definition.** -/
theorem find?_layered (base : Catalog) (layers : List Catalog) (k : Key) :
    (base.layered layers).find? k = lastDefined? (base :: layers) k := by
  have hlast (base : Catalog) (layers : List Catalog) :
      lastDefined? (base :: layers) k = (lastDefined? layers k).or (base.find? k) := by
    rw [lastDefined?, List.reverse_cons, List.findSome?_append, List.findSome?_singleton]
    rfl
  induction layers generalizing base with
  | nil => rw [hlast]; rfl
  | cons layer layers ih =>
    rw [layered, List.foldl_cons, ← layered, ih, hlast, hlast, hlast, find?_extend, Option.or_assoc]

/-- The keys that are **reachable** from dumps through layers of catalogs: those that the dumps
mention, and those that are mentioned in an interface of the entry that is last defined for a
reachable key. -/
inductive Reachable (layers : List Catalog) (dumps : List (String × Dump)) : Key → Prop
  | written {d : Dump.Declaration} {r : Reference} {k : Key} : d ∈ Project.written dumps →
      r ∈ d.references → r.Mentions k → Reachable layers dumps k
  | listed {k k' : Key} {e : Entry} {i : Reference} : Reachable layers dumps k →
      lastDefined? layers k = some e → i ∈ e.interfaces → i.Mentions k' →
        Reachable layers dumps k'

end Catalog

/-! ### Loading against layers -/

namespace Project

open Catalog (Reachable lastDefined?)

variable {catalog catalog' : Catalog} {dumps : List (String × Dump)}

/-- **Dumps load alike** against two catalogs that agree on all that the dumps mention. -/
theorem ofDumps_congr {asked : Key → Prop}
    (h : Names.AgreeOn ⟨registryOf dumps, catalog⟩ ⟨registryOf dumps, catalog'⟩ asked)
    (hdumps : ∀ d ∈ written dumps, ∀ r ∈ d.references, ∀ k, r.Mentions k → asked k) :
    ofDumps catalog' dumps = ofDumps catalog dumps := by
  have hunits : dumps.mapM (Names.mk (registryOf dumps) catalog').resolveUnit =
      dumps.mapM (Names.mk (registryOf dumps) catalog).resolveUnit := by
    refine mapM_congr fun u hu => Names.resolveUnit_congr h fun d hd => ?_
    exact hdumps d (List.mem_flatMap.mpr ⟨u, hu, hd⟩)
  simp only [ofDumps, hunits]

/-- A catalog that holds the last definition of each reachable key **agrees** with the layers on
these keys. -/
theorem agreeOn_reachable_keys {base : Catalog} {layers : List Catalog}
    (h : ∀ k, Reachable (base :: layers) dumps k →
      catalog.find? k = lastDefined? (base :: layers) k) (R : Registry) :
    Names.AgreeOn ⟨R, base.layered layers⟩ ⟨R, catalog⟩ (Reachable (base :: layers) dumps) where
  kind _ _ := rfl
  entry k hk _ := (h k hk).trans (Catalog.find?_layered base layers k).symm
  closed k _ hk _ he _ hi _ hasks :=
    .listed hk ((Catalog.find?_layered base layers k).symm.trans he) hi hasks.mentions

/-- **Layers mean the last definition of each reachable key, and nothing else**, for every base, all
layers over it and every catalog that holds for each key that is reachable from the dumps the entry
of the last layer that defines it, or none if no layer does. Against this catalog the dumps give the
same project or the same error as against the layers, and so do their texts. -/
theorem load_layered (base : Catalog) (layers : List Catalog) (catalog : Catalog) :
    (∀ dumps : List (String × Dump),
      (∀ k, Reachable (base :: layers) dumps k →
        catalog.find? k = lastDefined? (base :: layers) k) →
          ofDumps catalog dumps = ofDumps (base.layered layers) dumps) ∧
    ∀ sources : List (String × String),
      (∀ dumps, readDumps sources = .ok dumps → ∀ k, Reachable (base :: layers) dumps k →
        catalog.find? k = lastDefined? (base :: layers) k) →
          load catalog sources = load (base.layered layers) sources := by
  have hdumps : ∀ dumps : List (String × Dump),
      (∀ k, Reachable (base :: layers) dumps k →
        catalog.find? k = lastDefined? (base :: layers) k) →
          ofDumps catalog dumps = ofDumps (base.layered layers) dumps := fun dumps h =>
    ofDumps_congr (agreeOn_reachable_keys h (registryOf dumps))
      fun d hd r hr k hk => .written hd hr hk
  refine ⟨hdumps, fun sources h => ?_⟩
  rw [load, load]
  cases hread : readDumps sources with
  | error e => show Except.error e = Except.error e; rfl
  | ok dumps =>
    rw [ok_bind, ok_bind]
    exact hdumps dumps (h dumps hread)

/-- A bag that is an enumerable of its elements themselves. -/
def plainBag : Entry :=
  { name := "Bag", parameters := ["E"]
    interfaces := [.named "IEnumerable" [.param "E"] none none none] }

/-- Two layers over the bags of arrays. The first one has a bag with an unknown parameter; the
second one replaces it, and has a type besides that is its own interface. -/
def bagLayers : List Catalog :=
  [{ entries := [{ name := "Bag", parameters := ["E"], interfaces := [.param "X"] }] },
   { entries := [{ name := "Loop", interfaces := [.simple "Loop"] }, plainBag] }]

/-- The catalog of plain bags, with another type that is its own interface. -/
def plainBags : Catalog :=
  { entries := [plainBag, { name := "Knot", interfaces := [.simple "Knot"] },
      { name := "IEnumerable", kind := .interfaceType, special := .genericEnumerable
        parameters := ["E"] }] }

/-- A unit with a bag of numbers. -/
def cellar : List (String × Dump) :=
  [("cellar", ⟨[.type .classType { name := "Cellar", members :=
    [{ name := "Stock", type := .named "Bag" [.simple "int"] none none none }] }]⟩)]

/-- Bags, numbers and enumerables are all that is reachable from the unit. -/
theorem mem_of_reachable_cellar {k : Key} (h : Reachable (bagCatalog :: bagLayers) cellar k) :
    k ∈ [("Bag", 1), ("int", 0), ("IEnumerable", 1)] := by
  induction h with
  | @written d r k hd hr hk =>
    cases List.mem_singleton.mp hd
    cases List.mem_singleton.mp hr
    simp only [Reference.mentions_named, Reference.mentions_simple, List.mem_singleton,
      exists_eq_left, Option.getD_none, List.not_mem_nil, false_and, exists_false,
      or_false] at hk
    rcases hk with rfl | rfl
    · exact .head _
    · exact .tail _ (.head _)
  | @listed k k' e i _ he hi hk ih =>
    simp only [List.mem_cons, List.not_mem_nil, or_false] at ih
    rcases ih with rfl | rfl | rfl
    · cases he
      cases List.mem_singleton.mp hi
      simp only [Reference.mentions_named, Reference.not_mentions_param, List.mem_singleton,
        exists_eq_left, Option.getD_none, List.not_mem_nil, false_and, exists_false,
        or_false] at hk
      rw [hk]
      exact .tail _ (.tail _ (.head _))
    · cases he
    · cases he
      cases hi

theorem load_layered_cellar :
    (bagCatalog.layered bagLayers).contains ("Loop", 0) ∧ ¬plainBags.contains ("Loop", 0) ∧
      ∃ p, ofDumps (bagCatalog.layered bagLayers) cellar = .ok p ∧
        (emitUnits {} p.units).text =
          "export interface Cellar \x7b\n  Stock?: number[];\n\x7d\n\n" := by
  have hsame : ofDumps plainBags cellar = ofDumps (bagCatalog.layered bagLayers) cellar := by
    refine (load_layered bagCatalog bagLayers plainBags).1 cellar fun k hk => ?_
    have hkeys : ∀ k ∈ [("Bag", 1), ("int", 0), ("IEnumerable", 1)],
        plainBags.find? k = lastDefined? (bagCatalog :: bagLayers) k := by
      refine List.forall_mem_cons.mpr ⟨rfl, List.forall_mem_cons.mpr ⟨rfl, ?_⟩⟩
      exact List.forall_mem_singleton.mpr rfl
    exact hkeys k (mem_of_reachable_cellar hk)
  let bag : NamedType :=
    { name := "Bag", kind := .classType, args := [.builtin "int"]
      interfaces := [.named { name := "IEnumerable", kind := .interfaceType
                              special := .genericEnumerable, args := [.builtin "int"] }] }
  have hload : ofDumps plainBags cellar = .ok
      { units := [{ name := "cellar", declarations := [.type
          { name := "Cellar", kind := .classType
            members := [{ name := "Stock", type := .named bag }] }] }]
        registry := registryOf cellar } := by cbv
  exact ⟨by decide, by decide, _, hsame ▸ hload, by cbv⟩

end Project

end DeclGen
