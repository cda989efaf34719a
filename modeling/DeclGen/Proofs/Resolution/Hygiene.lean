import DeclGen.Block
import DeclGen.Proofs.Loading
import DeclGen.Proofs.Resolution.Asked
import DeclGen.Proofs.WellFormed
import Mathlib

/-!
# Declared names inside library types

The interface lists of a catalog are written references, and their names are looked up as any others
are: declared names go before the catalog. So a library type is not made from the catalog and its
arguments alone. A declaration of a name that an interface list asks for takes the place of the
catalog's own type there, and with it everything that this type would have brought
(`DeclGen.Names.interface_captured`).

Other declarations make no difference. A key **asks on** for those that the interfaces of its entry
ask for, as long as its own name is not declared (`DeclGen.Names.AsksOn`). Two registries that agree
on all names that are asked for from a key, through however many entries, make the same library type
of it (`DeclGen.Names.library_type_hygienic`); and the kind and the role of a library type are
always its own entry's.
-/

namespace DeclGen

open Catalog (Key)
open Relation (ReflTransGen TransGen)

namespace Names

variable {n : Names}

/-- The key of an undeclared name **asks on** for another: an interface of its entry asks for it. -/
def AsksOn (n : Names) (k k' : Key) : Prop :=
  n.registry.kind? k.1 = none ∧
    ∃ e, n.catalog.find? k = some e ∧ ∃ i ∈ e.interfaces, i.Asks e.binds k'

/-- **Registries agree on all that is asked for** from some keys, if they do on each such name. -/
theorem agreeOn_reachable {R : Registry} {starts : Key → Prop}
    (h : ∀ k k', starts k → ReflTransGen n.AsksOn k k' → R.kind? k'.1 = n.registry.kind? k'.1) :
    n.AgreeOn ⟨R, n.catalog⟩ fun k' => ∃ k, starts k ∧ ReflTransGen n.AsksOn k k' where
  kind _ := fun ⟨k, hk, hreach⟩ => h k _ hk hreach
  entry _ _ _ := rfl
  closed _ e := fun ⟨k, hk, hreach⟩ hnone he i hi _ hasks =>
    ⟨k, hk, hreach.tail ⟨hnone, e, he, i, hi, hasks⟩⟩

/-- **What a library type has from its own entry**: its kind and its role. Without an entry it is a
class of which nothing is known. -/
theorem kind_special_of_libraryType {pending : List Key} {name : String} {args : List SourceType}
    {l : NamedType} (h : n.libraryType pending name args = .ok l) :
    l.kind = ((n.catalog.find? (name, args.length)).map (·.kind.toKind)).getD .classType ∧
      l.special = ((n.catalog.find? (name, args.length)).map (·.special)).getD .ordinary := by
  cases he : n.catalog.find? (name, args.length) with
  | none =>
    rw [libraryType_unlisted he] at h
    cases h
    exact ⟨rfl, rfl⟩
  | some e =>
    by_cases hk : (name, args.length) ∈ pending
    · rw [libraryType_pending he hk] at h
      cases h
      exact ⟨rfl, rfl⟩
    · rw [libraryType_open he hk] at h
      obtain ⟨_, _, h⟩ := bind_eq_ok.mp h
      cases h
      exact ⟨rfl, rfl⟩

/-- One more declaration changes no name but its own. -/
theorem kind?_registryOf_of_ne {dumps dumps' : List (String × Dump)}
    {before after : List Dump.Declaration} {d : Dump.Declaration}
    (hdumps : Project.written dumps = before ++ after)
    (hdumps' : Project.written dumps' = before ++ d :: after) {name : String} (h : name ≠ d.name) :
    (Project.registryOf dumps').kind? name = (Project.registryOf dumps).kind? name := by
  have hd : (d.name == name) = false := by simpa using h.symm
  rw [Project.kind?_registryOf_written, Project.kind?_registryOf_written, hdumps, hdumps',
    List.find?_append, List.find?_append, List.find?_cons, hd]

/-- **Library types are made alike**, for every catalog, as far as the names that are asked for are
declared alike.

The kind and the role of a library type are the same whatever is declared. The type as a whole, with
its interfaces at every depth, or the error that there is instead of it, is the same where two
registries agree on each name that is asked for from its key. And a member is resolved alike when a
declaration is added whose name is not asked for from the member's type. -/
theorem library_type_hygienic (catalog : Catalog) :
    (∀ (R R' : Registry) (pending : List Key) (name : String) (args : List SourceType) (l l'),
      (Names.mk R catalog).libraryType pending name args = .ok l →
        (Names.mk R' catalog).libraryType pending name args = .ok l' →
          l'.kind = l.kind ∧ l'.special = l.special) ∧
    (∀ (R R' : Registry) (k : Key), R.kind? k.1 = none → R'.kind? k.1 = none →
      (∀ k', TransGen (Names.mk R catalog).AsksOn k k' → R'.kind? k'.1 = R.kind? k'.1) →
        ∀ (pending : List Key) (args : List SourceType), args.length = k.2 →
          (Names.mk R' catalog).libraryType pending k.1 args =
            (Names.mk R catalog).libraryType pending k.1 args) ∧
    ∀ (dumps dumps' : List (String × Dump)) (before after : List Dump.Declaration)
      (d : Dump.Declaration), Project.written dumps = before ++ after →
        Project.written dumps' = before ++ d :: after →
          ∀ (scope : Scope) (w : Dump.Member),
            (∀ k k', w.type.Asks scope.binds k →
              ReflTransGen (Names.mk (Project.registryOf dumps) catalog).AsksOn k k' →
                k'.1 ≠ d.name) →
              (Names.mk (Project.registryOf dumps') catalog).resolveMember scope w =
                (Names.mk (Project.registryOf dumps) catalog).resolveMember scope w := by
  refine ⟨fun R R' pending name args l l' h h' => ?_,
    fun R R' k hk hk' hsame pending args hargs => ?_,
    fun dumps dumps' before after d hdumps hdumps' scope w hw => ?_⟩
  · obtain ⟨hkind, hspecial⟩ := kind_special_of_libraryType h
    obtain ⟨hkind', hspecial'⟩ := kind_special_of_libraryType h'
    exact ⟨hkind'.trans hkind.symm, hspecial'.trans hspecial.symm⟩
  · have hagree : (Names.mk R catalog).AgreeOn ⟨R', catalog⟩ fun k' =>
        ∃ start, start = k ∧ ReflTransGen (Names.mk R catalog).AsksOn start k' := by
      refine agreeOn_reachable fun start k' hstart hreach => ?_
      subst hstart
      rcases Relation.reflTransGen_iff_eq_or_transGen.mp hreach with rfl | hreach
      · exact hk'.trans hk.symm
      · exact hsame k' hreach
    have hkey : (k.1, args.length) = k := by rw [hargs]
    exact libraryType_congr hagree ⟨k, rfl, hkey ▸ .refl⟩ hk
  · have hagree := agreeOn_reachable (n := ⟨Project.registryOf dumps, catalog⟩)
      fun k k' hk hreach => kind?_registryOf_of_ne hdumps hdumps' (hw k k' hk hreach)
    rw [resolveMember, resolveMember, resolve_congr hagree fun k hk => ⟨k, hk, .refl⟩]

/-- A member that holds a bag of numbers. -/
def bagMember : Dump.Member :=
  { name := "Stock", type := .named "Bag" [.simple "int"] none none none }

/-- The unit of the member. -/
def stockroom : List (String × Dump) :=
  [("stockroom", ⟨[.type .classType { name := "Stockroom", members := [bagMember] }]⟩)]

/-- The unit of the member, and one more that declares an interface. -/
def stockroomWith (name : String) : List (String × Dump) :=
  stockroom ++ [("more", ⟨[.type .interfaceType { name }]⟩)]

/-- The keys that are asked for from the member's type. -/
def bagKeys : List Key := [("Bag", 1), ("int", 0), ("IEnumerable", 1)]

/-- No other keys are asked for from these. -/
theorem mem_bagKeys_of_asksOn {R : Registry} {k k' : Key} (hk : k ∈ bagKeys)
    (h : ReflTransGen (Names.mk R Project.bagCatalog).AsksOn k k') : k' ∈ bagKeys := by
  induction h with
  | refl => exact hk
  | tail _ hstep ih =>
    obtain ⟨-, e, he, i, hi, hasks⟩ := hstep
    simp only [bagKeys, List.mem_cons, List.not_mem_nil, or_false] at ih
    rcases ih with rfl | rfl | rfl
    · cases he
      cases List.mem_singleton.mp hi
      have hmentions := hasks.mentions
      simp only [Reference.mentions_named, Reference.mentions_array, Reference.not_mentions_param,
        List.mem_singleton, exists_eq_left, Option.getD_none, List.not_mem_nil, false_and,
        exists_false, or_false] at hmentions
      simp [hmentions, bagKeys]
    · cases he
    · cases he
      cases hi

theorem library_type_hygienic_bag :
    (Names.mk (Project.registryOf (stockroomWith "IBox")) Project.bagCatalog).libraryType []
        "Bag" [.builtin "int"] =
      (Names.mk (Project.registryOf stockroom) Project.bagCatalog).libraryType []
        "Bag" [.builtin "int"] ∧
    (Names.mk (Project.registryOf (stockroomWith "IBox")) Project.bagCatalog).resolveMember []
        bagMember =
      (Names.mk (Project.registryOf stockroom) Project.bagCatalog).resolveMember [] bagMember := by
  obtain ⟨-, hlibrary, hmember⟩ := library_type_hygienic Project.bagCatalog
  have hkeys : ∀ k ∈ bagKeys, k.1 ≠ "IBox" := by decide
  constructor
  · refine hlibrary _ _ ("Bag", 1) (by cbv) (by cbv) (fun k' hk' => ?_) [] _ rfl
    have hmem := mem_bagKeys_of_asksOn (.head _) hk'.to_reflTransGen
    exact kind?_registryOf_of_ne (d := .type .interfaceType { name := "IBox" })
      (List.append_nil _).symm rfl (hkeys k' hmem)
  · refine hmember _ _ (Project.written stockroom) [] (.type .interfaceType { name := "IBox" })
      (List.append_nil _).symm rfl [] bagMember
      fun k k' hk hreach => hkeys k' (mem_bagKeys_of_asksOn ?_ hreach)
    have hmentions := hk.mentions
    simp only [bagMember, Reference.mentions_named, Reference.mentions_simple, List.mem_singleton,
      exists_eq_left, Option.getD_none, List.not_mem_nil, false_and, exists_false,
      or_false] at hmentions
    rcases hmentions with rfl | rfl
    · exact .head _
    · exact .tail _ (.head _)

/-- A bag of numbers with some interface. -/
def bagOfNumbers (interface : NamedType) : NamedType :=
  { name := "Bag", kind := .classType, args := [.builtin "int"], interfaces := [.named interface] }

/-- **A declaration captures a name in a library type**: a bag is an enumerable, until an interface
of that name is declared. No dump mentions the interface, and neither registry declares bags; but
the interface lists of the two bags differ, and the member shows the declared name in place of its
elements. -/
theorem interface_captured :
    (Project.registryOf stockroom).kind? "Bag" = none ∧
      (Project.registryOf (stockroomWith "IEnumerable")).kind? "Bag" = none ∧
      (∀ d ∈ Project.written (stockroomWith "IEnumerable"), ∀ r ∈ d.references, ∀ arity,
        ¬r.Mentions ("IEnumerable", arity)) ∧
      (∃ l l',
        (Names.mk (Project.registryOf stockroom) Project.bagCatalog).libraryType []
          "Bag" [.builtin "int"] = .ok l ∧
        (Names.mk (Project.registryOf (stockroomWith "IEnumerable")) Project.bagCatalog).libraryType
          [] "Bag" [.builtin "int"] = .ok l' ∧
        l.interfaces.map (·.shape.text) = ["number[][]"] ∧
        l'.interfaces.map (·.shape.text) = ["IEnumerable"]) ∧
      ∃ m m',
        (Names.mk (Project.registryOf stockroom) Project.bagCatalog).resolveMember [] bagMember =
          .ok m ∧
        (Names.mk (Project.registryOf (stockroomWith "IEnumerable"))
          Project.bagCatalog).resolveMember [] bagMember = .ok m' ∧
        m.line.text = "Stock?: number[][];" ∧ m'.line.text = "Stock?: IEnumerable;" := by
  have hmentions : ∀ d ∈ Project.written (stockroomWith "IEnumerable"), ∀ r ∈ d.references,
      ∀ arity, ¬r.Mentions ("IEnumerable", arity) := by
    simp [Project.written, stockroomWith, stockroom, bagMember, Dump.Declaration.references,
      Dump.TypeDecl.references]
  let arrays : List SourceType := [.array (.builtin "int")]
  let listed : NamedType :=
    { name := "IEnumerable", kind := .interfaceType, special := .genericEnumerable, args := arrays }
  let captured : NamedType := .ofDeclared "IEnumerable" .interfaceType arrays
  refine ⟨by cbv, by cbv, hmentions, ⟨bagOfNumbers listed, bagOfNumbers captured, ?_⟩,
    { name := "Stock", type := .named (bagOfNumbers listed) },
    { name := "Stock", type := .named (bagOfNumbers captured) }, ?_⟩
  · exact ⟨by cbv, by cbv, by cbv, by cbv⟩
  · exact ⟨by cbv, by cbv, by cbv, by cbv⟩

end Names

end DeclGen
