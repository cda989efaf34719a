import DeclGen.Proofs.Inheritance.Signatures
import DeclGen.Proofs.OwnShape
import Mathlib

/-!
# Deriving from a library type

A library type can be used in two ways: as the type of a member, which shows its *shape*, and as the
base of a declaration, which shows an *index signature*. Both come from the interfaces of the
library type, but not by the same search. A shape is looked for through interfaces of interfaces,
and the first one that is found counts. An index signature is looked for in the one list that the
library type has, and there only dictionaries and enumerables count.

The two agree where the list is what it is meant to be, the list of all interfaces
(`DeclGen.NamedTypeOf.ListsTransitively`), and where the dictionaries in it, or the enumerables, are
alike (`DeclGen.Inheritance.derived_signature`). Where the list has the most derived interface only,
there may be a shape and no index signature (`DeclGen.Inheritance.signature_not_derived`).
-/

namespace DeclGen

/-! ### Own shapes that an index signature shows -/

/-- The index signature that shows the same as a shape, if there is one. -/
def Shape.signature? : Shape → Option IndexSignature
  | .dictionary key value => some (.keyed key value)
  | .collection element => some (.indexed element)
  | _ => none

namespace NamedTypeOf

/-- A role makes no shape that an index signature shows. -/
theorem signature?_ofSpecial? {special : Special} {s : Shape}
    (h : Shape.ofSpecial? special = some s) :
    s.signature? = none := by
  unfold Shape.ofSpecial? at h
  split at h
  · cases h
    rfl
  · obtain ⟨p, _, rfl⟩ := Option.map_eq_some_iff.mp h
    rfl

variable {t : NamedType}

/-- A shape of its own that an index signature shows comes from the role of a dictionary or of a
collection. -/
theorem role_of_ownShape? {s : Shape} {sig : IndexSignature} (h : t.ownShape? = some s)
    (hs : s.signature? = some sig) :
    (t.special = .genericDictionary ∧ SourceType.dictionaryShape t.args = some s) ∨
      t.special.isCollection = true ∧ SourceType.collectionShape t.args = some s := by
  rcases Option.or_eq_some_iff.mp h with hdictionary | ⟨-, h⟩
  · split at hdictionary
    · next hrole => exact Or.inl ⟨hrole, hdictionary⟩
    · cases hdictionary
  · rcases Option.or_eq_some_iff.mp h with hspecial | ⟨-, hcollection⟩
    · rw [signature?_ofSpecial? hspecial] at hs
      cases hs
    · split at hcollection
      · next hrole => exact Or.inr ⟨hrole, hcollection⟩
      · cases hcollection

/-- **A dictionary by itself** has two arguments, of which the first is an index key. -/
theorem dictionaryArgs?_of_ownShape? {k : IndexKey} {v : Shape}
    (h : t.ownShape? = some (.dictionary k v)) :
    ∃ key value, IndexSignature.dictionaryArgs? t = some (key, value) ∧
      IndexKey.ofType? key = some k ∧ value.shape = v := by
  rcases role_of_ownShape? h rfl with ⟨hrole, hshape⟩ | ⟨-, hshape⟩
  · obtain ⟨key, value, hargs, k', hk', heq⟩ := SourceType.args_of_dictionaryShape hshape
    cases heq
    exact ⟨key, value, by simp only [IndexSignature.dictionaryArgs?, hrole, hargs], hk', rfl⟩
  · obtain ⟨_, -, heq⟩ := SourceType.args_of_collectionShape hshape
    cases heq

/-- **A collection by itself** has one argument. -/
theorem args_of_ownShape? {e : Shape} (h : t.ownShape? = some (.collection e)) :
    t.special.isCollection = true ∧ ∃ element, t.args = [element] ∧ element.shape = e := by
  rcases role_of_ownShape? h rfl with ⟨-, hshape⟩ | ⟨hrole, hshape⟩
  · obtain ⟨_, _, -, _, -, heq⟩ := SourceType.args_of_dictionaryShape hshape
    cases heq
  · obtain ⟨element, hargs, heq⟩ := SourceType.args_of_collectionShape hshape
    cases heq
    exact ⟨hrole, element, hargs, rfl⟩

/-! ### What a library type lists -/

/-- A library type **lists its interfaces transitively**: those of an interface that it lists are
listed too. -/
def ListsTransitively (t : NamedType) : Prop :=
  ∀ j ∈ t.namedInterfaces, ∀ s ∈ j.interfaces, s ∈ t.interfaces

/-- Whatever is **found** in the interfaces that a type lists, it is always the same. -/
def ListsOne {α : Type} (find : NamedType → Option α) (t : NamedType) : Prop :=
  ∀ j ∈ t.namedInterfaces, ∀ j' ∈ t.namedInterfaces, (find j).isSome → (find j').isSome →
    find j = find j'

/-- Each collection of one element type is listed **with the enumerable** of its elements. -/
def ListsEnumerables (t : NamedType) : Prop :=
  ∀ j ∈ t.namedInterfaces, j.special.isCollection = true → j.args.length = 1 →
    ∃ j' ∈ t.namedInterfaces, j'.special = .genericEnumerable ∧ j'.args = j.args

instance : Decidable t.ListsTransitively :=
  inferInstanceAs (Decidable (∀ j ∈ t.namedInterfaces, ∀ s ∈ j.interfaces, s ∈ t.interfaces))

instance {α : Type} [DecidableEq α] (find : NamedType → Option α) : Decidable (t.ListsOne find) :=
  inferInstanceAs (Decidable (∀ j ∈ t.namedInterfaces, ∀ j' ∈ t.namedInterfaces,
    (find j).isSome → (find j').isSome → find j = find j'))

instance : Decidable t.ListsEnumerables :=
  inferInstanceAs (Decidable (∀ j ∈ t.namedInterfaces, j.special.isCollection = true →
    j.args.length = 1 →
      ∃ j' ∈ t.namedInterfaces, j'.special = .genericEnumerable ∧ j'.args = j.args))

theorem mem_namedInterfaces {j : NamedType} : j ∈ t.namedInterfaces ↔ .named j ∈ t.interfaces := by
  unfold namedInterfaces
  rw [List.mem_filterMap]
  constructor
  · rintro ⟨s, hs, h⟩
    cases s with
    | array _ => cases h
    | named j' =>
      cases h
      exact hs
  · exact fun h => ⟨_, h, rfl⟩

/-- What is found in one listed interface is found first among them, if always the same is found. -/
theorem findSome?_of_listsOne {α : Type} {find : NamedType → Option α} (h : t.ListsOne find)
    {j : NamedType} (hj : j ∈ t.namedInterfaces) {a : α} (ha : find j = some a) :
    t.namedInterfaces.findSome? find = some a := by
  cases hfirst : t.namedInterfaces.findSome? find with
  | none =>
    rw [List.findSome?_eq_none_iff.mp hfirst j hj] at ha
    cases ha
  | some a' =>
    obtain ⟨j', hj', ha'⟩ := List.exists_of_findSome?_eq_some hfirst
    have hsame : find j' = find j := h j' hj' j hj (by simp [ha']) (by simp [ha])
    rw [← ha, ← hsame, ha']

end NamedTypeOf

/-! ### Where a shape comes from -/

namespace SourceType

variable {listed : List SourceType} {s : Shape} {sig : IndexSignature}

mutual

/-- **A shape that an index signature shows is some type's own**: that of the type, or of an
interface that it leads to. Where the interfaces of listed types are listed, so is the one that has
it. -/
theorem exists_ownShape? (hlisted : ∀ j, .named j ∈ listed → ∀ i ∈ j.interfaces, i ∈ listed)
    (hs : s.signature? = some sig) :
    ∀ t : SourceType, t ∈ listed → t.shape = s → ∃ j, .named j ∈ listed ∧ j.ownShape? = some s
  | .array element, _, h => by
    rw [← h, shape] at hs
    cases hs
  | .named ⟨name, kind, special, args, declared, interfaces⟩, ht, h => by
    have heq := NamedTypeOf.shape_eq ⟨name, kind, special, args, declared, interfaces⟩
    rw [NamedTypeOf.shape, h] at heq
    cases hown : NamedTypeOf.ownShape? ⟨name, kind, special, args, declared, interfaces⟩ with
    | some s' =>
      rw [hown, Option.getD_some] at heq
      exact ⟨_, ht, heq ▸ hown⟩
    | none =>
      rw [hown, Option.getD_none] at heq
      cases declared with
      | true =>
        rw [heq] at hs
        cases hs
      | false =>
        exact exists_ownShape?_of_interfaceShape hlisted hs interfaces (hlisted _ ht) heq.symm

theorem exists_ownShape?_of_interfaceShape
    (hlisted : ∀ j, .named j ∈ listed → ∀ i ∈ j.interfaces, i ∈ listed)
    (hs : s.signature? = some sig) :
    ∀ interfaces : List SourceType, (∀ i ∈ interfaces, i ∈ listed) → interfaceShape interfaces = s →
      ∃ j, .named j ∈ listed ∧ j.ownShape? = some s
  | [], _, h => by
    rw [← h, interfaceShape] at hs
    cases hs
  | t :: rest, hmem, h => by
    obtain ⟨ht, hrest⟩ := List.forall_mem_cons.mp hmem
    rw [interfaceShape] at h
    split at h
    · exact exists_ownShape?_of_interfaceShape hlisted hs rest hrest h
    · exact exists_ownShape? hlisted hs t ht h

end

end SourceType

/-! ### Deriving -/

namespace Inheritance

open IndexSignature (ofInterfaces? dictionaryArgs? enumerableArg?)

/-- **A declaration that has nothing but a library base** inherits what the base lists. -/
theorem allInterfaces_of_library_base {units linked : List SourceUnit}
    (hlink : link (.ofUnits units) units = .ok linked) {D : TypeDecl}
    (hD : .type D ∈ allDeclarations linked) (hinterfaces : D.interfaces = []) {B : NamedType}
    (hbase : D.base = some B) (hlibrary : B.declared = false) :
    D.allInterfaces = B.namedInterfaces.eraseDups := by
  obtain ⟨l, hl, hall⟩ := exists_listing_linked hlink hD
  obtain ⟨first, m, rfl, hfirst, hm⟩ := exists_of_listing_base hbase hl
  rw [hinterfaces] at hfirst
  cases hfirst
  rw [hall, List.nil_append, hm.unique (.library hlibrary)]

/-- **A dictionary among interfaces is their index signature**, where a type lists its interfaces
transitively and all dictionaries in the list are alike. -/
theorem ofInterfaces?_of_dictionary {B : NamedType} (htransitive : B.ListsTransitively)
    (hone : B.ListsOne dictionaryArgs?) {k : IndexKey} {v : Shape}
    (h : SourceType.interfaceShape B.interfaces = .dictionary k v) :
    ofInterfaces? B.namedInterfaces = some (.keyed k v) := by
  obtain ⟨j, hj, hown⟩ := SourceType.exists_ownShape?_of_interfaceShape
    (fun j hj => htransitive j (NamedTypeOf.mem_namedInterfaces.mpr hj)) rfl _ (fun _ hi => hi) h
  obtain ⟨key, value, hargs, hkey, rfl⟩ := NamedTypeOf.dictionaryArgs?_of_ownShape? hown
  have hfirst :=
    NamedTypeOf.findSome?_of_listsOne hone (NamedTypeOf.mem_namedInterfaces.mpr hj) hargs
  simp only [ofInterfaces?, hfirst, hkey, Option.map_some]

/-- **A collection among interfaces is their index signature**, where a type lists its interfaces
transitively and with the enumerables of all collections, where all these are alike, and where there
is no dictionary in the list. -/
theorem ofInterfaces?_of_collection {B : NamedType} (htransitive : B.ListsTransitively)
    (henumerables : B.ListsEnumerables) (hone : B.ListsOne enumerableArg?)
    (hdictionary : ∀ j ∈ B.namedInterfaces, dictionaryArgs? j = none) {e : Shape}
    (h : SourceType.interfaceShape B.interfaces = .collection e) :
    ofInterfaces? B.namedInterfaces = some (.indexed e) := by
  obtain ⟨j, hj, hown⟩ := SourceType.exists_ownShape?_of_interfaceShape
    (fun j hj => htransitive j (NamedTypeOf.mem_namedInterfaces.mpr hj)) rfl _ (fun _ hi => hi) h
  obtain ⟨hrole, element, hargs, rfl⟩ := NamedTypeOf.args_of_ownShape? hown
  obtain ⟨j', hj', hrole', hargs'⟩ :=
    henumerables j (NamedTypeOf.mem_namedInterfaces.mpr hj) hrole (by rw [hargs]; rfl)
  have harg : enumerableArg? j' = some element := by
    simp only [enumerableArg?, hrole', hargs', hargs]
  have hfirst := NamedTypeOf.findSome?_of_listsOne hone hj' harg
  simp only [ofInterfaces?, List.findSome?_eq_none_iff.mpr hdictionary, hfirst, Option.map_some]

/-- **Deriving from a library type**, for every loaded project and every declaration `D` in it that
names no interfaces and has a library type `B` as its base.

The block of `D` names no parent, and its index signature is the one that the list of `B` calls for.
If `B` lists its interfaces transitively and has its shape from them, this is what a member of type
`B` shows: a dictionary, if all dictionaries in the list are alike; a collection, if there is no
dictionary in the list, each collection is listed with its enumerable, and all enumerables are
alike. -/
theorem derived_signature {catalog : Catalog} {dumps : List (String × Dump)} {p : Project}
    (h : Project.ofDumps catalog dumps = .ok p) {D : TypeDecl}
    (hD : .type D ∈ allDeclarations p.units) (hinterfaces : D.interfaces = []) {B : NamedType}
    (hbase : D.base = some B) (hlibrary : B.declared = false) :
    D.parent? = none ∧ D.indexSignature? = ofInterfaces? B.namedInterfaces ∧
      (B.ListsTransitively → B.shape = SourceType.interfaceShape B.interfaces →
        (∀ k v, B.shape = .dictionary k v → B.ListsOne dictionaryArgs? →
          D.indexSignature? = some (.keyed k v)) ∧
        ∀ e, B.shape = .collection e → (∀ j ∈ B.namedInterfaces, dictionaryArgs? j = none) →
          B.ListsEnumerables → B.ListsOne enumerableArg? →
            D.indexSignature? = some (.indexed e)) := by
  obtain ⟨units, _, hlink⟩ := Project.ofDumps_ok h
  have hparent : D.parent? = none := by
    rw [TypeDecl.parent?, hbase, Option.filter_some, hlibrary]
    rfl
  have hsignature : D.indexSignature? = ofInterfaces? B.namedInterfaces := by
    have hundeclared : D.hasDeclaredBase = false := by
      rw [TypeDecl.hasDeclaredBase, hbase, Option.any_some, hlibrary]
    rw [TypeDecl.indexSignature?, TypeDecl.signatureInterfaces, hundeclared,
      ← ofInterfaces?_eraseDups B.namedInterfaces,
      ← allInterfaces_of_library_base hlink hD hinterfaces hbase hlibrary]
    rfl
  refine ⟨hparent, hsignature, fun htransitive hshape => ⟨?dictionary, ?collection⟩⟩
  case dictionary =>
    intro k v hkv hone
    rw [hsignature]
    exact ofInterfaces?_of_dictionary htransitive hone (hshape.symm.trans hkv)
  case collection =>
    intro e he hdictionary henumerables hone
    rw [hsignature]
    exact ofInterfaces?_of_collection htransitive henumerables hone hdictionary
      (hshape.symm.trans he)

/-- A catalog in which bags list all their interfaces, and sacks only the most derived one. -/
def sackCatalog : Catalog :=
  let elements : Reference := .named "IEnumerable" [.param "T"] none none none
  let list : Reference := .named "IList" [.param "T"] none none none
  { entries :=
      [{ name := "Bag", parameters := ["T"], interfaces := [list, elements] },
       { name := "Sack", parameters := ["T"], interfaces := [list] },
       { name := "IList", kind := .interfaceType, special := .genericList, parameters := ["T"]
         interfaces := [elements] },
       { name := "IEnumerable", kind := .interfaceType, special := .genericEnumerable
         parameters := ["T"] }] }

/-- A dictionary with numbers as its values, whose role is written in place. -/
def writtenDictionary (key : String) : Reference :=
  .named "IDictionary" [.simple key, .simple "int"] (some .interfaceType)
    (some "generic_dictionary") none

/-- One unit with five classes, each of which has a library type as its base: a bag and a sack of
numbers, a type with a dictionary, one with two of which the first has no index key, and one that is
a dictionary itself. -/
def holders : List (String × Dump) :=
  let derived (name : String) (base : Reference) : Dump.Declaration :=
    .type .classType { name, base := some base }
  [("holders",
    ⟨[derived "Names" (.named "Bag" [.simple "int"] none none none),
      derived "Letters" (.named "Sack" [.simple "int"] none none none),
      derived "Ages" (.named "Table" [] none none (some [writtenDictionary "int"])),
      derived "Codes" (.named "Register" [] none none
        (some [writtenDictionary "bool", writtenDictionary "int"])),
      derived "Scores" (.named "Map" [.simple "int", .simple "int"] none
        (some "generic_dictionary") none)]⟩)]

/-- Numbers, resolved. -/
def numbers : SourceType := .builtin "int"

/-- The list of numbers. -/
def listOfNumbers : NamedType :=
  { name := "IList", kind := .interfaceType, special := .genericList, args := [numbers]
    interfaces := [.named (Project.enumerableOf numbers)] }

/-- A dictionary with numbers as its values. -/
def dictionaryOf (key : SourceType) : NamedType :=
  { name := "IDictionary", kind := .interfaceType, special := .genericDictionary
    args := [key, numbers] }

/-- The bag of numbers. -/
def bagOfNumbers : NamedType :=
  { name := "Bag", kind := .classType, args := [numbers]
    interfaces := [.named listOfNumbers, .named (Project.enumerableOf numbers)] }

/-- The sack of numbers. -/
def sackOfNumbers : NamedType :=
  { name := "Sack", kind := .classType, args := [numbers], interfaces := [.named listOfNumbers] }

/-- The table, which has one dictionary. -/
def table : NamedType :=
  { name := "Table", kind := .classType, interfaces := [.named (dictionaryOf numbers)] }

/-- The register, which has two dictionaries. -/
def register : NamedType :=
  { name := "Register", kind := .classType
    interfaces := [.named (dictionaryOf (.builtin "bool")), .named (dictionaryOf numbers)] }

/-- The map from numbers to numbers, which has its role itself. -/
def mapOfNumbers : NamedType :=
  { name := "Map", kind := .classType, special := .genericDictionary, args := [numbers, numbers] }

/-- A class with nothing but a library base, loaded. -/
def derivedFrom (B : NamedType) (name : String) : TypeDecl :=
  { name, kind := .classType, base := some B, allInterfaces := B.namedInterfaces }

/-- The five classes, loaded. -/
def loadedHolders : Project :=
  { units := [{ name := "holders", declarations :=
      [.type (derivedFrom bagOfNumbers "Names"), .type (derivedFrom sackOfNumbers "Letters"),
       .type (derivedFrom table "Ages"), .type (derivedFrom register "Codes"),
       .type (derivedFrom mapOfNumbers "Scores")] }]
    registry := Project.registryOf holders }

theorem ofDumps_holders : Project.ofDumps sackCatalog holders = .ok loadedHolders := by cbv

theorem derived_signature_holders :
    Project.ofDumps sackCatalog holders = .ok loadedHolders ∧
      bagOfNumbers.shape = .collection (.primitive .number) ∧
      (derivedFrom bagOfNumbers "Names").indexSignature? =
        some (.indexed (.primitive .number)) ∧
      table.shape = .dictionary .number (.primitive .number) ∧
      (derivedFrom table "Ages").indexSignature? =
        some (.keyed .number (.primitive .number)) := by
  obtain ⟨-, -, hbag⟩ := derived_signature ofDumps_holders (.head _) rfl rfl rfl
  obtain ⟨-, -, htable⟩ :=
    derived_signature ofDumps_holders (.tail _ (.tail _ (.head _))) rfl rfl rfl
  refine ⟨ofDumps_holders, by cbv, ?_, by cbv, ?_⟩
  · exact (hbag (by decide) (by cbv)).2 _ (by cbv) (by decide) (by decide) (by decide)
  · exact (htable (by decide) (by cbv)).1 _ _ (by cbv) (by decide)

/-- No part of a sack of numbers is a dictionary. -/
theorem everywhere_sackOfNumbers :
    (SourceType.named sackOfNumbers).Everywhere fun q => dictionaryArgs? q = none := by
  have hnumbers : ∀ t ∈ [numbers], t.Everywhere fun q => dictionaryArgs? q = none :=
    List.forall_mem_singleton.mpr (.named rfl nofun nofun)
  have helements : (SourceType.named (Project.enumerableOf numbers)).Everywhere
      fun q => dictionaryArgs? q = none := .named rfl hnumbers nofun
  have hlist : (SourceType.named listOfNumbers).Everywhere fun q => dictionaryArgs? q = none :=
    .named rfl hnumbers (List.forall_mem_singleton.mpr helements)
  exact .named rfl hnumbers (List.forall_mem_singleton.mpr hlist)

/-- **A shape is not always derived**: a class that derives from a sack of numbers, from a register
or from a map has no index signature, while members of these types show a collection and
dictionaries. The list of the sack has no enumerable; in that of the register the dictionary that is
found first has no index key; and what the map is itself is not inherited. -/
theorem signature_not_derived :
    ∃ p, Project.ofDumps sackCatalog holders = .ok p ∧
      (∀ B ∈ [sackOfNumbers, register, mapOfNumbers], B.declared = false ∧
        ∃ D, .type D ∈ allDeclarations p.units ∧ D.interfaces = [] ∧ D.base = some B ∧
          D.indexSignature? = none) ∧
      sackOfNumbers.shape = .collection (.primitive .number) ∧
      (∀ q, SourceType.HasPart q (.named sackOfNumbers) → dictionaryArgs? q = none) ∧
      register.shape = .dictionary .number (.primitive .number) ∧
      mapOfNumbers.shape = .dictionary .number (.primitive .number) := by
  refine ⟨loadedHolders, ofDumps_holders, ?_, by cbv, everywhere_sackOfNumbers, by cbv, by cbv⟩
  have hsack : .type (derivedFrom sackOfNumbers "Letters") ∈ allDeclarations loadedHolders.units :=
    .tail _ (.head _)
  have hregister : .type (derivedFrom register "Codes") ∈ allDeclarations loadedHolders.units :=
    .tail _ (.tail _ (.tail _ (.head _)))
  have hmap : .type (derivedFrom mapOfNumbers "Scores") ∈ allDeclarations loadedHolders.units :=
    .tail _ (.tail _ (.tail _ (.tail _ (.head _))))
  refine List.forall_mem_cons.mpr ⟨⟨rfl, _, hsack, rfl, rfl, by cbv⟩,
    List.forall_mem_cons.mpr ⟨⟨rfl, _, hregister, rfl, rfl, by cbv⟩,
      List.forall_mem_singleton.mpr ⟨rfl, _, hmap, rfl, rfl, by cbv⟩⟩⟩

end Inheritance

end DeclGen
