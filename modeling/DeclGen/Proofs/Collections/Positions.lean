import DeclGen.Proofs.Collections.Standard
import DeclGen.Proofs.Inheritance.Cycle
import Mathlib

/-!
# Collections as members and as bases

A reference to a library type can stand in two positions. A member shows the shape of the type. A
declaration that has it as its base shows the index signature that the type's list of interfaces
calls for, and names no parent, since a library type has no block.

For the collections and dictionaries of the standard catalog both positions show the same types of
elements, keys and values, whatever these are, as long as no declaration takes a name of the catalog
(`DeclGen.Project.collections_in_both_positions`).
-/

namespace DeclGen

open Catalog (applied standard collectionInterfaceNames collectionClassNames
  dictionaryInterfaceNames)
open IndexSignature (ofInterfaces?)

/-! ### Library bases -/

namespace Names

variable {R : Registry} {scope : Scope} (hundeclared : (Names.mk R standard).Undeclared)

include hundeclared

/-- What a class of collections lists calls for an index signature of its elements. -/
theorem signature_of_collectionName {name : String} (hname : name ∈ collectionClassNames)
    {element : Reference} {B : NamedType}
    (hB : (Names.mk R standard).resolve [] scope (applied name [element]) = .ok (.named B)) :
    ∃ x, (Names.mk R standard).Renders scope element x ∧ B.declared = false ∧
      (ofInterfaces? B.namedInterfaces).map IndexSignature.text =
        some ("[index: number]: " ++ x ++ ";") := by
  have hcontains := Catalog.contains_collection name (List.mem_append_right _ hname)
  have hargs : [element].length ≠ 0 := Nat.one_ne_zero
  obtain ⟨as, l, has, hl, heq⟩ :=
    (resolve_applied_eq_ok hargs (hundeclared.kind? hcontains)).mp hB
  cases heq
  rw [resolveAll_cons, resolveAll_nil] at has
  obtain ⟨a, _, ha, hnil, rfl⟩ := cons_eq_ok.mp has
  cases hnil
  obtain ⟨e, first, he, hfirst, -, helements⟩ := Catalog.exists_collectionClass name hname
  refine ⟨a.shape.text, ⟨a, ha, rfl⟩, (args_of_libraryType hl).2, ?_⟩
  rw [signature_of_collectionClass hundeclared he hl hfirst helements rfl]
  rfl

/-- What the class of dictionaries lists calls for an index signature of its keys and values. -/
theorem signature_of_dictionaryName {key value : Reference} {k : IndexKey}
    (hkey : (Names.mk R standard).ResolvesToKey scope key k) {B : NamedType}
    (hB : (Names.mk R standard).resolve [] scope (applied "Dictionary" [key, value]) =
      .ok (.named B)) :
    ∃ x, (Names.mk R standard).Renders scope value x ∧ B.declared = false ∧
      (ofInterfaces? B.namedInterfaces).map IndexSignature.text =
        some ("[key: " ++ k.text ++ "]: " ++ x ++ ";") := by
  have hcontains := Catalog.contains_dictionary "Dictionary" (.head _)
  have hargs : [key, value].length ≠ 0 := Nat.succ_ne_zero 1
  obtain ⟨as, l, has, hl, heq⟩ :=
    (resolve_applied_eq_ok hargs (hundeclared.kind? hcontains)).mp hB
  cases heq
  obtain ⟨a, ha, hk⟩ := hkey.exists_ofType?
  rw [resolveAll_cons, ha, ok_bind, resolveAll_cons, resolveAll_nil] at has
  obtain ⟨_, hbs, has⟩ := bind_eq_ok.mp has
  obtain ⟨b, _, hb, hnil, rfl⟩ := cons_eq_ok.mp hbs
  cases hnil
  cases has
  obtain ⟨e, first, he, hfirst, hrole⟩ := Catalog.exists_dictionaryClass
  refine ⟨b.shape.text, ⟨b, hb, rfl⟩, (args_of_libraryType hl).2, ?_⟩
  rw [(of_dictionaryClass hundeclared he hl hfirst hrole rfl hk).2]
  rfl

end Names

namespace Inheritance

variable {units linked : List SourceUnit}

/-- **A library base** gives a declaration that names no interfaces its index signature, and no
parent. -/
theorem signature_of_library_base (hlink : link (.ofUnits units) units = .ok linked) {D : TypeDecl}
    (hD : .type D ∈ allDeclarations linked) (hinterfaces : D.interfaces = []) {B : NamedType}
    (hbase : D.base = some B) (hlibrary : B.declared = false) :
    D.parent? = none ∧ D.indexSignature? = ofInterfaces? B.namedInterfaces := by
  have hsignature : D.signatureInterfaces = B.namedInterfaces.eraseDups := by
    rw [← allInterfaces_of_library_base hlink hD hinterfaces hbase hlibrary,
      TypeDecl.signatureInterfaces, TypeDecl.hasDeclaredBase, hbase, Option.any_some, hlibrary]
    rfl
  constructor
  · rw [TypeDecl.parent?, hbase, Option.filter_some, hlibrary]
    rfl
  · rw [TypeDecl.indexSignature?, hsignature, ofInterfaces?_eraseDups]

/-- **Library types make no cycle**: what inherits from nothing else can be linked. -/
theorem exists_link_of_library
    (hlibrary : ∀ D, .type D ∈ allDeclarations units → ∀ a ∈ D.ancestors, a.type.declared = false) :
    ∃ linked, link (.ofUnits units) units = .ok linked := by
  cases h : link (.ofUnits units) units with
  | ok linked => exact ⟨linked, rfl⟩
  | error e =>
    -- An error is a cycle, and its first step is to a declared type.
    obtain ⟨n, -, hcycle⟩ := cycle_of_link_error h
    obtain ⟨m, ⟨d, hd, t, ht, hdeclared, -⟩, -⟩ := Relation.TransGen.head'_iff.mp hcycle
    obtain ⟨a, ha, rfl⟩ := exists_ancestor_iff.mpr ht
    rw [hlibrary d (mem_of_firstType? hd) a ha] at hdeclared
    cases hdeclared

end Inheritance

namespace Project

open Inheritance

variable {dumps : List (String × Dump)}

/-- What the references of dumps are looked up in, against the standard catalog alone. -/
def standardNames (dumps : List (String × Dump)) : Names :=
  { registry := registryOf dumps, catalog := .standard }

/-- No name of a catalog is declared if no written declaration has one. -/
theorem undeclared_of_written {catalog : Catalog}
    (h : ∀ d ∈ written dumps, ∀ e ∈ catalog.entries, d.name ≠ e.name) :
    (Names.mk (registryOf dumps) catalog).Undeclared := by
  intro e he
  rw [kind?_registryOf_written, Option.map_eq_none_iff, List.find?_eq_none]
  intro d hd hname
  exact h d hd e he (beq_iff_eq.mp hname)

/-- **A project loads** if each of its declarations resolves and inherits from library types
only. -/
theorem exists_ofDumps {catalog : Catalog}
    (h : ∀ d ∈ written dumps, ∃ D,
      (Names.mk (registryOf dumps) catalog).resolveDeclaration d = .ok D ∧
        ∀ X, D = .type X → ∀ a ∈ X.ancestors, a.type.declared = false) :
    ∃ p, ofDumps catalog dumps = .ok p := by
  have hresolve : ∀ u ∈ dumps, ∃ unit,
      (Names.mk (registryOf dumps) catalog).resolveUnit u = .ok unit := by
    intro u hu
    obtain ⟨Ds, hDs⟩ := exists_mapM_eq_ok fun d hd =>
      (h d (List.mem_flatMap.mpr ⟨u, hu, hd⟩)).imp fun _ hD => hD.1
    exact ⟨_, bind_eq_ok.mpr ⟨Ds, hDs, rfl⟩⟩
  obtain ⟨units, hunits⟩ := exists_mapM_eq_ok hresolve
  have hlibrary : ∀ X, .type X ∈ allDeclarations units → ∀ a ∈ X.ancestors,
      a.type.declared = false := by
    intro X hX
    obtain ⟨d, hd, hdX⟩ := exists_of_mem_right (resolved_written hunits) hX
    obtain ⟨D, hD, hancestors⟩ := h d hd
    rw [hdX] at hD
    cases hD
    exact hancestors X rfl
  obtain ⟨linked, hlink⟩ := exists_link_of_library hlibrary
  rw [← registryOf_eq_ofUnits hunits] at hlink
  exact ⟨_, bind_eq_ok.mpr ⟨units, hunits, bind_eq_ok.mpr ⟨linked, hlink, rfl⟩⟩⟩

section Loaded

variable {n : Names} {units : List SourceUnit} {kind : DeclKind} {d : Dump.TypeDecl} {D : TypeDecl}
  (h : Loaded n units (.type kind d) (.type D))

include h

/-- A member of a loaded declaration shows what its reference renders as. -/
theorem Loaded.renders_members :
    List.Forall₂ (fun w m => n.Renders (.ofParameters d.parameters) w.type m.type.shape.text)
      d.members D.members := by
  obtain ⟨_, _, D₀, types, heq, hresolved, rfl⟩ := h.exists_type
  cases heq
  obtain ⟨-, -, -, -, hmembers⟩ := Names.resolveType_ok hresolved
  refine hmembers.imp fun w m hm => ?_
  obtain ⟨t, ht, heq⟩ := bind_eq_ok.mp hm
  cases heq
  exact ⟨t, ht, rfl⟩

/-- The base of a loaded declaration is what the reference resolves to. -/
theorem Loaded.exists_base {r : Reference} (hr : d.base = some r) :
    ∃ B, D.base = some B ∧ n.resolve [] (.ofParameters d.parameters) r = .ok (.named B) := by
  obtain ⟨_, _, D₀, types, heq, hresolved, rfl⟩ := h.exists_type
  cases heq
  obtain ⟨-, -, hbase, -⟩ := Names.resolveType_ok hresolved
  rw [Names.resolveBase, hr] at hbase
  obtain ⟨B, hB, heq⟩ := bind_eq_ok.mp hbase
  injection heq with heq
  exact ⟨B, heq.symm, Names.resolveNamed_eq_ok.mp hB⟩

/-- A loaded declaration names interfaces only where the written one does. -/
theorem Loaded.interfaces_eq_nil (hinterfaces : d.interfaces = []) : D.interfaces = [] := by
  obtain ⟨_, _, D₀, types, heq, hresolved, rfl⟩ := h.exists_type
  cases heq
  obtain ⟨-, -, -, hlist, -⟩ := Names.resolveType_ok hresolved
  rw [hinterfaces] at hlist
  exact List.forall₂_nil_left_iff.mp hlist

end Loaded

/-- **Collections and dictionaries in both positions**, for all dumps of which no declaration has a
name of the standard catalog, loaded against this catalog alone.

A reference with arrays and collections nested `k` times around another one renders as the other
with `[]` behind it `k` times; a dictionary whose keys resolve to texts or numbers renders as an
index signature of its values in braces. This is what members show, in the scope of their
declaration. A declaration that names no interfaces and has a class of collections as its base shows
the index signature of its elements, and one that has a class of dictionaries as its base that of
its keys and values; and neither has a parent. -/
theorem collections_in_both_positions
    (hnames : ∀ d ∈ written dumps, ∀ e ∈ standard.entries, d.name ≠ e.name) :
    (∀ scope inner x k r, (standardNames dumps).Renders scope inner x →
      Reference.Nested inner k r →
        (standardNames dumps).Renders scope r (x ++ String.join (List.replicate k "[]"))) ∧
    (∀ scope key k value x, (standardNames dumps).ResolvesToKey scope key k →
      (standardNames dumps).Renders scope value x →
        ∀ name ∈ "Dictionary" :: dictionaryInterfaceNames,
          (standardNames dumps).Renders scope (applied name [key, value])
            ("\x7b [key: " ++ k.text ++ "]: " ++ x ++ "; \x7d")) ∧
    ∀ p, ofDumps standard dumps = .ok p → ∀ kind d D,
      (.type kind d, .type D) ∈ (written dumps).zip (allDeclarations p.units) →
        List.Forall₂ (fun w m => (standardNames dumps).Renders (.ofParameters d.parameters)
          w.type m.type.shape.text) d.members D.members ∧
        (d.interfaces = [] →
          (∀ name ∈ collectionClassNames, ∀ element, d.base = some (applied name [element]) →
            ∃ x, (standardNames dumps).Renders (.ofParameters d.parameters) element x ∧
              D.parent? = none ∧ D.indexSignature?.map IndexSignature.text =
                some ("[index: number]: " ++ x ++ ";")) ∧
          ∀ key k value, d.base = some (applied "Dictionary" [key, value]) →
            (standardNames dumps).ResolvesToKey (.ofParameters d.parameters) key k →
            ∃ x, (standardNames dumps).Renders (.ofParameters d.parameters) value x ∧
              D.parent? = none ∧ D.indexSignature?.map IndexSignature.text =
                some ("[key: " ++ k.text ++ "]: " ++ x ++ ";")) := by
  have hundeclared : (Names.mk (registryOf dumps) standard).Undeclared :=
    undeclared_of_written hnames
  refine ⟨fun scope inner x k r hinner hnested => ?nested,
    fun scope key k value x hkey hvalue name hname => ?dictionary,
    fun p h kind d D hD => ⟨?members, fun hinterfaces => ?bases⟩⟩
  case nested => exact Names.renders_nested hundeclared hinner hnested
  case dictionary => exact Names.renders_dictionary hundeclared hname hkey hvalue
  case members =>
    obtain ⟨units, hunits, hlink⟩ := ofDumps_ok h
    exact (List.forall₂_zip (loaded_written hunits hlink) hD).renders_members
  case bases =>
    obtain ⟨units, hunits, hlink⟩ := ofDumps_ok h
    have hloaded := List.forall₂_zip (loaded_written hunits hlink) hD
    have hlibrary : ∀ B, D.base = some B → B.declared = false →
        D.parent? = none ∧ D.indexSignature? = ofInterfaces? B.namedInterfaces := fun B =>
      signature_of_library_base hlink (List.of_mem_zip hD).2 (hloaded.interfaces_eq_nil hinterfaces)
    refine ⟨fun name hname element hbase => ?_, fun key k value hbase hkey => ?_⟩
    · obtain ⟨B, hD₀, hB⟩ := hloaded.exists_base hbase
      obtain ⟨x, hx, hdeclared, htext⟩ := Names.signature_of_collectionName hundeclared hname hB
      obtain ⟨hparent, hsignature⟩ := hlibrary B hD₀ hdeclared
      exact ⟨x, hx, hparent, hsignature ▸ htext⟩
    · obtain ⟨B, hD₀, hB⟩ := hloaded.exists_base hbase
      obtain ⟨x, hx, hdeclared, htext⟩ := Names.signature_of_dictionaryName hundeclared hkey hB
      obtain ⟨hparent, hsignature⟩ := hlibrary B hD₀ hdeclared
      exact ⟨x, hx, hparent, hsignature ▸ htext⟩

/-! ### A class with a dictionary as its base -/

/-- The dictionary that the basket is. -/
def counts : Reference := applied "Dictionary" [.simple "string", .simple "int"]

/-- The member of the basket. -/
def sizes : Dump.Member := { name := "Sizes", type := applied "List" [.array (.simple "int")] }

/-- A class that is a dictionary and has a member of nested collections. -/
def basket : Dump.TypeDecl := { name := "Basket", base := some counts, members := [sizes] }

/-- The unit of the class. -/
def baskets : List (String × Dump) := [("baskets", ⟨[.type .classType basket]⟩)]

theorem resolveDeclaration_basket {n : Names} {B : NamedType} {t : SourceType}
    (hB : n.resolve [] [] counts = .ok (.named B)) (ht : n.resolve [] [] sizes.type = .ok t) :
    n.resolveDeclaration (.type .classType basket) =
      .ok (.type { name := "Basket", kind := .classType, base := some B
                   members := [{ name := "Sizes", type := t }] }) := by
  have hbase : n.resolveBase [] basket = .ok (some B) := by
    change (n.resolveNamed [] .base "Basket" counts >>= fun B => .ok (some B)) = _
    rw [Names.resolveNamed_eq_ok.mpr hB]
    rfl
  have hmember : n.resolveMember [] sizes = .ok { name := "Sizes", type := t } := by
    rw [Names.resolveMember, ht]
    rfl
  have hmembers : [sizes].mapM (n.resolveMember []) = .ok [{ name := "Sizes", type := t }] :=
    mapM_eq_ok.mpr (.cons hmember .nil)
  refine bind_eq_ok.mpr ⟨_, bind_eq_ok.mpr ⟨some B, hbase, ?_⟩, rfl⟩
  exact bind_eq_ok.mpr ⟨[], rfl, bind_eq_ok.mpr ⟨_, hmembers, rfl⟩⟩

theorem resolve_builtin {n : Names} {name : String} {b : NamedType}
    (hb : NamedTypeOf.builtin? name = some b) :
    n.resolve [] [] (.simple name) = .ok (.named b) := by
  refine Names.resolve_simple_eq_ok.mpr (Or.inl ?_)
  rw [Names.known?, hb]
  rfl

theorem collections_in_both_positions_basket :
    (∀ d ∈ written baskets, ∀ e ∈ standard.entries, d.name ≠ e.name) ∧
      ∃ p D, ofDumps standard baskets = .ok p ∧
        (.type .classType basket, .type D) ∈ (written baskets).zip (allDeclarations p.units) ∧
        D.members.map (·.type.shape.text) = ["number[][]"] ∧ D.parent? = none ∧
        D.indexSignature?.map IndexSignature.text = some "[key: string]: number;" := by
  have hnames : ∀ d ∈ written baskets, ∀ e ∈ standard.entries, d.name ≠ e.name := by decide
  obtain ⟨hnested, -, hproject⟩ := collections_in_both_positions hnames
  have hint : (standardNames baskets).resolve [] [] (.simple "int") = .ok (.builtin "int") :=
    resolve_builtin rfl
  have hstring : (standardNames baskets).resolve [] [] (.simple "string") =
      .ok (.builtin "string") := resolve_builtin rfl
  have hlist : "List" ∈ collectionInterfaceNames ++ collectionClassNames := by decide
  obtain ⟨t, ht, htext⟩ := hnested [] (.simple "int") "number" 2 sizes.type ⟨_, hint, rfl⟩
    (.collection hlist (.array .self))
  have hargs : (standardNames baskets).resolveAll [] [] [.simple "string", .simple "int"] =
      .ok [.builtin "string", .builtin "int"] := by
    rw [Names.resolveAll_eq_mapM]
    exact mapM_eq_ok.mpr (.cons hstring (.cons hint .nil))
  obtain ⟨B, hl, hB⟩ := Names.exists_resolve_applied (undeclared_of_written hnames) hargs
    (Catalog.contains_dictionary "Dictionary" (.head _)) (Nat.succ_ne_zero 1)
  have hbasket := resolveDeclaration_basket hB ht
  obtain ⟨p, hp⟩ : ∃ p, ofDumps standard baskets = .ok p := by
    refine exists_ofDumps (List.forall_mem_singleton.mpr ⟨_, hbasket, ?_⟩)
    rintro _ ⟨⟩ a ha
    rw [List.mem_singleton.mp ha]
    exact (Names.args_of_libraryType hl).2
  obtain ⟨D, hall, hmembers⟩ : ∃ D : TypeDecl, allDeclarations p.units = [.type D] ∧
      D.members = [{ name := "Sizes", type := t }] := by
    obtain ⟨units, hunits, hlink⟩ := ofDumps_ok hp
    obtain ⟨_, _, ⟨D₀, hD₀, hlinked⟩, hrest, hall⟩ :=
      List.forall₂_cons_left_iff.mp (loaded_written hunits hlink)
    cases List.forall₂_nil_left_iff.mp hrest
    cases Except.ok.inj (hbasket.symm.trans hD₀)
    obtain ⟨l, -, rfl⟩ := exists_of_linked hlinked
    exact ⟨_, hall, rfl⟩
  have hmem : (.type .classType basket, .type D) ∈
      (written baskets).zip (allDeclarations p.units) := by
    rw [hall]
    exact .head _
  obtain ⟨-, hbases⟩ := hproject p hp _ _ _ hmem
  obtain ⟨x, ⟨s, hs, rfl⟩, hparent, hsignature⟩ :=
    (hbases rfl).2 _ .string _ rfl ⟨_, hstring, rfl⟩
  cases Except.ok.inj (hint.symm.trans hs)
  refine ⟨hnames, p, D, hp, hmem, ?_, hparent, hsignature⟩
  rw [hmembers]
  exact congrArg (fun text => [text]) htext

end Project

end DeclGen
