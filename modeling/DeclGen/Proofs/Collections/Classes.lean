import DeclGen.Proofs.Collections.Heads
import Mathlib

/-!
# Collections and dictionaries

A library type shows a collection or a dictionary for one of two reasons: it plays the role itself,
as an interface does, or it is a class whose first interface plays it. The index signature of a
declaration that derives from such a class is found otherwise, by looking through the whole list for
a dictionary and then for an enumerable.

Both are read off the entry of the class. The entry of a class **presents** its first interface
(`DeclGen.Catalog.Entry.Presents`) if it plays no role and the interface has the parameters of the
class as its arguments. If this is a dictionary, then it is also the first one that is found for an
index signature. If it is a collection, the index signature rests on the rest of the list: there
must be no dictionary in it, but an enumerable, and each enumerable must be one of the class's own
elements (`DeclGen.Catalog.Entry.ListsElements`).
-/

namespace DeclGen

open Catalog (Entry)
open IndexSignature (ofInterfaces? dictionaryArgs? enumerableArg?)

namespace NamedTypeOf

variable {t : NamedType}

/-! ### Shapes by role -/

/-- A collection of one type of elements. -/
theorem shape_of_collection (hrole : t.special.isCollection = true) {a : SourceType}
    (hargs : t.args = [a]) : t.shape = .collection a.shape := by
  have hspecial : Shape.ofSpecial? t.special = none ∧ t.special ≠ .genericDictionary := by
    cases h : t.special <;> simp [h, Special.isCollection] at hrole <;> decide
  rw [shape_eq, ownShape?, if_neg hspecial.2, hspecial.1, if_pos hrole, hargs]
  rfl

/-- A dictionary whose keys can be index keys. -/
theorem shape_of_dictionary (hrole : t.special = .genericDictionary) {key value : SourceType}
    (hargs : t.args = [key, value]) {k : IndexKey} (hk : IndexKey.ofType? key = some k) :
    t.shape = .dictionary k value.shape := by
  rw [shape_eq, ownShape?, if_pos hrole, hargs, SourceType.dictionaryShape, hk]
  rfl

/-- A library type without a role shows its first interface, unless that shows nothing. -/
theorem shape_of_first (hrole : t.special = .ordinary) (hlibrary : t.declared = false)
    {j : NamedType} {rest : List SourceType} (hinterfaces : t.interfaces = .named j :: rest)
    (hany : j.shape.isAny = false) : t.shape = j.shape := by
  rw [shape_eq, ownShape?, hrole, hlibrary, hinterfaces, SourceType.interfaceShape]
  -- The search goes on behind the first interface only if that one shows nothing.
  change (if j.shape.isAny then _ else j.shape) = _
  rw [hany]
  rfl

end NamedTypeOf

/-- Only enumerables have elements for an index signature. -/
theorem IndexSignature.special_of_enumerableArg? {t : NamedType} (h : (enumerableArg? t).isSome) :
    t.special = .genericEnumerable := by
  unfold enumerableArg? at h
  split at h
  · assumption
  · cases h

/-! ### Parameters of an entry -/

/-- Each parameter is bound to the argument beside it, if no parameter stands twice. -/
theorem Scope.lookup_bind {ps : List String} (hps : ps.Nodup) {args : List SourceType}
    (hlen : args.length = ps.length) {p : String} {a : SourceType} (h : (p, a) ∈ ps.zip args) :
    (Scope.bind ps args).lookup p = some a := by
  have hnodup : ((Scope.bind ps args).map Prod.fst).Nodup := by
    rw [bind, List.map_reverse, List.map_fst_zip hlen.ge]
    exact List.nodup_reverse.mpr hps
  obtain ⟨front, back, hsplit⟩ := List.append_of_mem (List.mem_reverse.mpr h)
  change Scope.bind ps args = _ at hsplit
  rw [hsplit] at hnodup ⊢
  -- What stands before the parameter in the scope has other names.
  refine List.lookup_eq_some_iff.mpr ⟨front, back, rfl, fun e he => ?_⟩
  rw [List.map_append, List.map_cons, List.nodup_append] at hnodup
  exact bne_iff_ne.mpr (hnodup.2.2 e.1 (List.mem_map_of_mem he) p (.head _)).symm

namespace Names

variable {n : Names} {pending : List Catalog.Key}

/-- **The parameters of an entry resolve to the arguments** that they are bound to. -/
theorem resolveAll_parameters {ps : List String} (hps : ps.Nodup) {args : List SourceType}
    (hlen : args.length = ps.length) :
    n.resolveAll pending (.bind ps args) (ps.map .param) = .ok args := by
  rw [resolveAll_eq_mapM, mapM_eq_ok, List.forall₂_map_left_iff, List.forall₂_iff_zip]
  exact ⟨hlen.symm, fun h => resolve_param_eq_ok.mpr (Scope.lookup_bind hps hlen h)⟩

end Names

/-! ### Classes -/

namespace Catalog

/-- The entry of a class **presents** an interface: the class plays no role, and the interface comes
first and has the parameters of the class as its arguments. -/
structure Entry.Presents (c : Catalog) (e : Entry) (first : Reference) : Prop where
  special : e.special = .ordinary
  parameters : e.parameters.Nodup
  listed : ∀ r ∈ e.interfaces, r.IsListed c e.parameters
  head : e.interfaces.head? = some first
  args : first.args = e.parameters.map .param

/-- The entry of a class **lists its elements**: there is no dictionary among the interfaces, but an
enumerable, and every enumerable has the parameters of the class as its arguments. -/
structure Entry.ListsElements (c : Catalog) (e : Entry) : Prop where
  noDictionary : ∀ r ∈ e.interfaces, c.roleOf r ≠ .genericDictionary
  enumerable : ∃ r ∈ e.interfaces, c.roleOf r = .genericEnumerable
  elements : ∀ r ∈ e.interfaces, c.roleOf r = .genericEnumerable →
    r.args = e.parameters.map .param

end Catalog

namespace Names

section Classes

variable {n : Names} {name : String} {args : List SourceType} {e : Entry} {l : NamedType}

/-- What has the parameters of an entry as its arguments has the arguments of the type. -/
theorem HeadOf.args_eq {pending : List Catalog.Key} {r : Reference} {j : NamedType}
    (h : n.HeadOf pending (.bind e.parameters args) r j) (hparameters : e.parameters.Nodup)
    (he : n.catalog.find? (name, args.length) = some e) (hr : r.args = e.parameters.map .param) :
    j.args = args := by
  have hlen : args.length = e.parameters.length :=
    (congrArg Prod.snd (Catalog.key_of_find? he)).symm
  have hargs := h.args
  rw [hr, resolveAll_parameters hparameters hlen] at hargs
  cases hargs
  rfl

variable (hundeclared : n.Undeclared) (he : n.catalog.find? (name, args.length) = some e)
  (hl : n.libraryType [] name args = .ok l)

include hundeclared he hl

/-- **The interface that a class presents** is the first one of each of its types, and has the same
arguments. -/
theorem exists_presented {first : Reference} (hfirst : e.Presents n.catalog first) :
    ∃ j js, l.namedInterfaces = j :: js ∧ j.special = n.catalog.roleOf first ∧ j.args = args ∧
      (j.shape.isAny = false → l.shape = j.shape) := by
  obtain ⟨hspecial, hinterfaces, hheads⟩ := heads_of_libraryType hundeclared he hfirst.listed hl
  obtain ⟨rest, hrest⟩ := List.head?_eq_some_iff.mp hfirst.head
  rw [hrest] at hheads
  cases hnamed : l.namedInterfaces with
  | nil =>
    rw [hnamed] at hheads
    cases hheads
  | cons j js =>
    rw [hnamed] at hheads hinterfaces
    obtain ⟨hj, -⟩ := List.forall₂_cons.mp hheads
    refine ⟨j, js, rfl, hj.special, hj.args_eq hfirst.parameters he hfirst.args, fun hany => ?_⟩
    exact NamedTypeOf.shape_of_first (hspecial.trans hfirst.special) (args_of_libraryType hl).2
      hinterfaces hany

/-- **A class that presents a collection** shows it. -/
theorem shape_of_collectionClass {first : Reference} (hfirst : e.Presents n.catalog first)
    (hrole : (n.catalog.roleOf first).isCollection = true) {a : SourceType} (hargs : args = [a]) :
    l.shape = .collection a.shape := by
  obtain ⟨j, _, -, hspecial, hj, hshape⟩ := exists_presented hundeclared he hl hfirst
  have hcollection : j.shape = .collection a.shape :=
    NamedTypeOf.shape_of_collection (hspecial ▸ hrole) (hj.trans hargs)
  rw [← hcollection]
  exact hshape (by rw [hcollection]; rfl)

/-- **A class that lists its elements** calls for the index signature of a list of them. -/
theorem signature_of_collectionClass {first : Reference} (hfirst : e.Presents n.catalog first)
    (helements : e.ListsElements n.catalog) {a : SourceType} (hargs : args = [a]) :
    ofInterfaces? l.namedInterfaces = some (.indexed a.shape) := by
  obtain ⟨-, -, hheads⟩ := heads_of_libraryType hundeclared he hfirst.listed hl
  have hdictionary : ∀ j ∈ l.namedInterfaces, dictionaryArgs? j = none := by
    intro j hj
    obtain ⟨r, hr, hhead⟩ := exists_of_mem_right hheads hj
    have hspecial : j.special ≠ .genericDictionary :=
      hhead.special ▸ helements.noDictionary r hr
    unfold dictionaryArgs?
    split
    · next hs _ => exact absurd hs hspecial
    · rfl
  -- Whatever enumerable is found, it is one of these elements.
  have hsame : ∀ j ∈ l.namedInterfaces, j.special = .genericEnumerable →
      enumerableArg? j = some a := by
    intro j hj hs
    obtain ⟨r, hr, hhead⟩ := exists_of_mem_right hheads hj
    have hr' := helements.elements r hr (hhead.special ▸ hs)
    have hj' : j.args = [a] := (hhead.args_eq hfirst.parameters he hr').trans hargs
    simp only [enumerableArg?, hs, hj']
  obtain ⟨r, hr, hrole⟩ := helements.enumerable
  obtain ⟨j, hj, hhead⟩ := exists_of_mem_left hheads hr
  have hone : l.ListsOne enumerableArg? := fun i hi i' hi' hsome hsome' => by
    rw [hsame i hi (IndexSignature.special_of_enumerableArg? hsome),
      hsame i' hi' (IndexSignature.special_of_enumerableArg? hsome')]
  have hfound : l.namedInterfaces.findSome? enumerableArg? = some a :=
    NamedTypeOf.findSome?_of_listsOne hone hj (hsame j hj (hhead.special.trans hrole))
  simp only [ofInterfaces?, List.findSome?_eq_none_iff.mpr hdictionary, hfound, Option.map_some]

/-- **A class that presents a dictionary** shows it, and calls for its index signature. -/
theorem of_dictionaryClass {first : Reference} (hfirst : e.Presents n.catalog first)
    (hrole : n.catalog.roleOf first = .genericDictionary) {key value : SourceType}
    (hargs : args = [key, value]) {k : IndexKey} (hk : IndexKey.ofType? key = some k) :
    l.shape = .dictionary k value.shape ∧
      ofInterfaces? l.namedInterfaces = some (.keyed k value.shape) := by
  obtain ⟨j, js, hnamed, hspecial, hj, hshape⟩ := exists_presented hundeclared he hl hfirst
  have hdictionary : j.shape = .dictionary k value.shape :=
    NamedTypeOf.shape_of_dictionary (hspecial.trans hrole) (hj.trans hargs) hk
  refine ⟨?_, ?_⟩
  · rw [← hdictionary]
    exact hshape (by rw [hdictionary]; rfl)
  · have hfound : dictionaryArgs? j = some (key, value) := by
      simp only [dictionaryArgs?, hspecial, hrole, hj, hargs]
    rw [hnamed, ofInterfaces?, List.findSome?_cons, hfound]
    simp only [hk, Option.map_some]

end Classes

end Names

end DeclGen
