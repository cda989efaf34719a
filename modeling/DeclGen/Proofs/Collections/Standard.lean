import DeclGen.Proofs.Collections.Classes
import DeclGen.Proofs.Loaded
import Mathlib

/-!
# The collections and dictionaries of the standard catalog

In the standard catalog there are six interfaces for collections, which play their roles themselves,
and four classes, which are classified by the first interface that they list; there are two
interfaces and a class for dictionaries. As long as no declaration takes a name of the catalog, all
of them show what they should for whatever types they are applied to: a collection is written as its
elements with `[]` behind (`DeclGen.Names.renders_nested`), a dictionary as an index signature in
braces (`DeclGen.Names.renders_dictionary`).

A declaration that derives from one of the classes inherits the whole list of its interfaces, and
shows the index signature that is found there. It is the same that a member of the type shows, so
the two positions agree (`DeclGen.Project.collections_in_both_positions`).
-/

namespace DeclGen

open Catalog (Entry applied standard)
open IndexSignature (ofInterfaces?)

/-! ### The entries -/

namespace Catalog

/-- The interfaces with one type of elements. -/
def collectionInterfaceNames : List String :=
  ["IEnumerable", "ICollection", "IReadOnlyCollection", "IList", "IReadOnlyList", "ISet"]

/-- The classes with one type of elements. -/
def collectionClassNames : List String := ["List", "HashSet", "Collection", "ReadOnlyCollection"]

/-- The interfaces with a type of keys and a type of values. -/
def dictionaryInterfaceNames : List String := ["IDictionary", "IReadOnlyDictionary"]

theorem isCollection_of_interface : ∀ name ∈ collectionInterfaceNames,
    (standard.find? (name, 1)).any (·.special.isCollection) = true := by
  decide

theorem special_of_dictionaryInterface : ∀ name ∈ dictionaryInterfaceNames,
    (standard.find? (name, 2)).any (·.special = .genericDictionary) = true := by
  decide

/-- A list presents itself as a list that can be changed. -/
theorem presents_list (name : String) :
    Entry.Presents standard { name, parameters := ["T"], interfaces := listInterfaces }
      (applied "IList" [t]) where
  special := rfl
  parameters := List.nodup_singleton "T"
  listed := (by decide : ∀ r ∈ listInterfaces, r.IsListed standard ["T"])
  head := rfl
  args := rfl

theorem listsElements_list (name : String) :
    Entry.ListsElements standard
      { name, parameters := ["T"], interfaces := listInterfaces } where
  noDictionary := (by decide : ∀ r ∈ listInterfaces, standard.roleOf r ≠ .genericDictionary)
  enumerable := ⟨applied "IEnumerable" [t], .tail _ (.tail _ (.head _)), rfl⟩
  elements := by
    have henumerable : standard.roleOf enumerable ≠ .genericEnumerable := by decide
    simp only [listInterfaces, List.forall_mem_cons]
    exact ⟨fun _ => rfl, fun _ => rfl, fun _ => rfl, fun h => absurd h henumerable, fun _ => rfl,
      fun _ => rfl, List.forall_mem_nil _⟩

/-- The class of sets. -/
def hashSet : Entry :=
  { name := "HashSet", parameters := ["T"]
    interfaces :=
      [applied "ISet" [t], applied "ICollection" [t], applied "IEnumerable" [t], enumerable,
       applied "IReadOnlyCollection" [t]] }

theorem presents_hashSet : hashSet.Presents standard (applied "ISet" [t]) where
  special := rfl
  parameters := List.nodup_singleton "T"
  listed := by decide
  head := rfl
  args := rfl

theorem listsElements_hashSet : hashSet.ListsElements standard where
  noDictionary := by decide
  enumerable := ⟨applied "IEnumerable" [t], .tail _ (.tail _ (.head _)), rfl⟩
  elements := by
    have henumerable : standard.roleOf enumerable ≠ .genericEnumerable := by decide
    simp only [hashSet, List.forall_mem_cons]
    exact ⟨fun _ => rfl, fun _ => rfl, fun _ => rfl, fun h => absurd h henumerable, fun _ => rfl,
      List.forall_mem_nil _⟩

/-- **The classes of collections** present collections and list their elements. -/
theorem exists_collectionClass : ∀ name ∈ collectionClassNames, ∃ e first,
    standard.find? (name, 1) = some e ∧ e.Presents standard first ∧
      (standard.roleOf first).isCollection = true ∧ e.ListsElements standard := by
  simp only [collectionClassNames, List.forall_mem_cons]
  refine ⟨?_, ?_, ?_, ?_, List.forall_mem_nil _⟩
  · exact ⟨_, _, rfl, presents_list "List", rfl, listsElements_list "List"⟩
  · exact ⟨_, _, rfl, presents_hashSet, rfl, listsElements_hashSet⟩
  · exact ⟨_, _, rfl, presents_list "Collection", rfl, listsElements_list "Collection"⟩
  · exact ⟨_, _, rfl, presents_list "ReadOnlyCollection", rfl,
      listsElements_list "ReadOnlyCollection"⟩

/-- **The class of dictionaries** presents a dictionary. -/
theorem exists_dictionaryClass : ∃ e first, standard.find? ("Dictionary", 2) = some e ∧
    e.Presents standard first ∧ standard.roleOf first = .genericDictionary := by
  refine ⟨_, applied "IDictionary" [.param "TKey", .param "TValue"], rfl, ?_, rfl⟩
  exact { special := rfl, parameters := by decide, listed := by decide, head := rfl, args := rfl }

theorem contains_collection : ∀ name ∈ collectionInterfaceNames ++ collectionClassNames,
    standard.contains (name, 1) = true := by
  decide

theorem contains_dictionary : ∀ name ∈ "Dictionary" :: dictionaryInterfaceNames,
    standard.contains (name, 2) = true := by
  decide

end Catalog

open Catalog (collectionInterfaceNames collectionClassNames dictionaryInterfaceNames)

/-! ### What the types show -/

namespace Names

/-- A reference **renders** as a text: it resolves, and the text is that of the type's shape. -/
def Renders (n : Names) (scope : Scope) (r : Reference) (text : String) : Prop :=
  ∃ t, n.resolve [] scope r = .ok t ∧ t.shape.text = text

/-- A reference resolves to a text or a number, which can be **keys** of a dictionary. -/
def ResolvesToKey (n : Names) (scope : Scope) (r : Reference) (k : IndexKey) : Prop :=
  ∃ t : NamedType, n.resolve [] scope r = .ok (.named t) ∧
    match k with
    | .string => t.special = .string
    | .number => t.special.isNumeric = true

end Names

/-- Arrays and collections are **nested** `k` times around a reference. -/
inductive Reference.Nested (inner : Reference) : Nat → Reference → Prop
  | self : Nested inner 0 inner
  | array {k : Nat} {r : Reference} : Nested inner k r → Nested inner (k + 1) (.array r)
  | collection {k : Nat} {r : Reference} {name : String} :
      name ∈ collectionInterfaceNames ++ collectionClassNames → Nested inner k r →
        Nested inner (k + 1) (applied name [r])

namespace Names

variable {R : Registry} {scope : Scope}

theorem ResolvesToKey.exists_ofType? {n : Names} {r : Reference} {k : IndexKey}
    (h : n.ResolvesToKey scope r k) :
    ∃ t, n.resolve [] scope r = .ok t ∧ IndexKey.ofType? t = some k := by
  obtain ⟨t, ht, hk⟩ := h
  refine ⟨_, ht, ?_⟩
  cases k with
  | string => rw [IndexKey.ofType?, if_pos hk]
  | number =>
    have hstring : t.special ≠ .string := by
      intro h
      rw [h] at hk
      cases hk
    rw [IndexKey.ofType?, if_neg hstring, if_pos hk]

variable (hundeclared : (Names.mk R standard).Undeclared)

include hundeclared

section Library

variable {l : NamedType}

/-- **A collection of the standard catalog shows its elements.** -/
theorem shape_of_collectionName {name : String}
    (hname : name ∈ collectionInterfaceNames ++ collectionClassNames) {a : SourceType}
    (hl : (Names.mk R standard).libraryType [] name [a] = .ok l) :
    l.shape = .collection a.shape := by
  rcases List.mem_append.mp hname with hname | hname
  · obtain ⟨e, he, hrole⟩ := (Option.any_eq_true _ _).mp
      (Catalog.isCollection_of_interface name hname)
    have hspecial : l.special = e.special := special_of_find? hl he
    exact NamedTypeOf.shape_of_collection (hspecial ▸ hrole) (args_of_libraryType hl).1
  · obtain ⟨e, first, he, hfirst, hrole, -⟩ := Catalog.exists_collectionClass name hname
    exact shape_of_collectionClass hundeclared he hl hfirst hrole rfl

/-- **A dictionary of the standard catalog shows its keys and values.** -/
theorem shape_of_dictionaryName {name : String}
    (hname : name ∈ "Dictionary" :: dictionaryInterfaceNames) {key value : SourceType}
    {k : IndexKey} (hk : IndexKey.ofType? key = some k)
    (hl : (Names.mk R standard).libraryType [] name [key, value] = .ok l) :
    l.shape = .dictionary k value.shape := by
  rcases List.mem_cons.mp hname with rfl | hname
  · obtain ⟨e, first, he, hfirst, hrole⟩ := Catalog.exists_dictionaryClass
    exact (of_dictionaryClass hundeclared he hl hfirst hrole rfl hk).1
  · obtain ⟨e, he, hrole⟩ :=
      (Option.any_eq_true _ _).mp (Catalog.special_of_dictionaryInterface name hname)
    have hspecial : l.special = e.special := special_of_find? hl he
    exact NamedTypeOf.shape_of_dictionary (hspecial.trans (of_decide_eq_true hrole))
      (args_of_libraryType hl).1 hk

end Library

/-- **A library type of the standard catalog** resolves as soon as its arguments do. -/
theorem exists_resolve_applied {name : String} {args : List Reference} {as : List SourceType}
    (has : (Names.mk R standard).resolveAll [] scope args = .ok as)
    (hname : standard.contains (name, args.length)) (hargs : args.length ≠ 0) :
    ∃ l, (Names.mk R standard).libraryType [] name as = .ok l ∧
      (Names.mk R standard).resolve [] scope (applied name args) = .ok (.named l) := by
  obtain ⟨l, hl⟩ := exists_libraryType_of_ranked (Catalog.ranked_standard R) name as
  exact ⟨l, hl, (resolve_applied_eq_ok hargs (hundeclared.kind? hname)).mpr ⟨as, l, has, hl, rfl⟩⟩

theorem renders_collection {name : String}
    (hname : name ∈ collectionInterfaceNames ++ collectionClassNames) {r : Reference}
    {x : String} (h : (Names.mk R standard).Renders scope r x) :
    (Names.mk R standard).Renders scope (applied name [r]) (x ++ "[]") := by
  obtain ⟨a, ha, rfl⟩ := h
  have has : (Names.mk R standard).resolveAll [] scope [r] = .ok [a] := by
    rw [resolveAll_cons, ha, resolveAll_nil]
    rfl
  obtain ⟨l, hl, hresolve⟩ := exists_resolve_applied hundeclared has
    (Catalog.contains_collection name hname) Nat.one_ne_zero
  refine ⟨.named l, hresolve, ?_⟩
  change l.shape.text = _
  rw [shape_of_collectionName hundeclared hname hl]
  rfl

/-- **Nested collections** are written as what is inside with as many `[]` behind. -/
theorem renders_nested {inner : Reference} {x : String}
    (h : (Names.mk R standard).Renders scope inner x) {k : Nat} {r : Reference}
    (hnested : Reference.Nested inner k r) :
    (Names.mk R standard).Renders scope r (x ++ String.join (List.replicate k "[]")) := by
  have hsucc : ∀ k, x ++ String.join (List.replicate (k + 1) "[]") =
      x ++ String.join (List.replicate k "[]") ++ "[]" := by
    intro k
    rw [List.replicate_succ', String.join_append, String.append_assoc]
    rfl
  induction hnested with
  | self => simpa using h
  | array _ ih =>
    obtain ⟨t, ht, htext⟩ := ih
    rw [hsucc, ← htext]
    exact ⟨.array t, resolve_array_eq_ok.mpr ⟨t, ht, rfl⟩, rfl⟩
  | collection hname _ ih =>
    rw [hsucc]
    exact renders_collection hundeclared hname ih

/-- **Dictionaries** with texts or numbers as keys are written as index signatures. -/
theorem renders_dictionary {name : String}
    (hname : name ∈ "Dictionary" :: dictionaryInterfaceNames) {key value : Reference}
    {k : IndexKey} {x : String} (hkey : (Names.mk R standard).ResolvesToKey scope key k)
    (hvalue : (Names.mk R standard).Renders scope value x) :
    (Names.mk R standard).Renders scope (applied name [key, value])
      ("\x7b [key: " ++ k.text ++ "]: " ++ x ++ "; \x7d") := by
  obtain ⟨a, ha, hk⟩ := hkey.exists_ofType?
  obtain ⟨b, hb, rfl⟩ := hvalue
  have has : (Names.mk R standard).resolveAll [] scope [key, value] = .ok [a, b] := by
    rw [resolveAll_cons, ha, resolveAll_cons, hb, resolveAll_nil]
    rfl
  obtain ⟨l, hl, hresolve⟩ := exists_resolve_applied hundeclared has
    (Catalog.contains_dictionary name hname) (Nat.succ_ne_zero 1)
  refine ⟨.named l, hresolve, ?_⟩
  change l.shape.text = _
  rw [shape_of_dictionaryName hundeclared hname hk hl]
  rfl

end Names

end DeclGen
