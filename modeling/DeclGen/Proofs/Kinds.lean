import DeclGen.Proofs.Emission.Mirror
import DeclGen.Proofs.Inheritance.Kinds
import DeclGen.Proofs.Resolution.Translation
import Mathlib

/-!
# What the kind of a declaration has influence on

Whether a type is declared as a class, a struct or an interface makes a difference in one place of
the output: a member whose type is the declared type itself is optional or not. Dumps that differ in
nothing but these kinds load alike, and their blocks are alike but for this
(`DeclGen.Project.kinds_only_optional`).

The kinds that two lists of dumps declare a name as can be *exchanged*
(`DeclGen.Project.exchange`), and this is what relates the two runs. The types of one are the types
of the other with kinds exchanged at every depth. Resolution commutes with that, as with every
translation of types (`DeclGen.Names.resolve_translate`); linking compares types, but an exchange
confuses none (`DeclGen.Inheritance.link_rekind`); and shapes do not depend on kinds at all.
-/

namespace DeclGen

/-- The **same written declaration but for its kind**, where it declares a type. -/
inductive Dump.Declaration.SameButKind : Dump.Declaration → Dump.Declaration → Prop
  | type (kind kind' : DeclKind) (d : Dump.TypeDecl) : SameButKind (.type kind d) (.type kind' d)
  /-- An enum stays an enum. -/
  | enum (d : EnumDecl) : SameButKind (.enum d) (.enum d)

theorem Dump.Declaration.SameButKind.name_eq {d d' : Dump.Declaration} (h : d.SameButKind d') :
    d'.name = d.name := by
  cases h <;> rfl

namespace Names

variable {n n' : Names} {κ : String → Kind → Kind}

/-- Type parameters stand for themselves whatever kinds are exchanged. -/
theorem translate_ofParameters (κ : String → Kind → Kind) (parameters : List String) :
    (Scope.ofParameters parameters).translate (SourceType.rekind κ) =
      Scope.ofParameters parameters := by
  rw [Scope.translate, Scope.ofParameters, List.map_map]
  rfl

section Declarations

variable (h : n.Translates n' (SourceType.rekind κ))

include h

/-- A reference of a declaration resolves to a type of other kinds, or fails alike. -/
theorem resolve_rekind (parameters : List String) (r : Reference) :
    EndsAlike (fun t t' => t' = t.rekind κ) (n.resolve [] (.ofParameters parameters) r)
      (n'.resolve [] (.ofParameters parameters) r) := by
  have hsame := resolve_translate h [] (.ofParameters parameters) r
  rw [translate_ofParameters] at hsame
  rw [hsame]
  cases n.resolve [] (.ofParameters parameters) r with
  | error e => exact .error e
  | ok t => exact .ok rfl

theorem resolveNamed_rekind (parameters : List String) (place : NamedPlace) (declaration : String)
    (r : Reference) :
    EndsAlike (fun t t' => t' = NamedTypeOf.rekind κ t)
      (n.resolveNamed (.ofParameters parameters) place declaration r)
      (n'.resolveNamed (.ofParameters parameters) place declaration r) := by
  refine (resolve_rekind h parameters r).bind ?_
  rintro t _ rfl
  cases t with
  | array t => exact .error _
  | named t =>
    rw [NamedTypeOf.named_rekind]
    exact .ok rfl

theorem resolveBase_rekind (parameters : List String) (d : Dump.TypeDecl) :
    EndsAlike (fun b b' => b' = b.map (NamedTypeOf.rekind κ))
      (n.resolveBase (.ofParameters parameters) d)
      (n'.resolveBase (.ofParameters parameters) d) := by
  unfold resolveBase
  cases d.base with
  | none => exact .ok rfl
  | some r =>
    refine (resolveNamed_rekind h parameters .base d.name r).bind ?_
    rintro t _ rfl
    exact .ok rfl

theorem resolveMember_rekind (parameters : List String) (m : Dump.Member) :
    EndsAlike (fun m m' => m' = { m with type := m.type.rekind κ })
      (n.resolveMember (.ofParameters parameters) m)
      (n'.resolveMember (.ofParameters parameters) m) := by
  refine (resolve_rekind h parameters m.type).bind ?_
  rintro t _ rfl
  exact .ok rfl

/-- **A declaration resolves alike but for kinds**, whatever it is declared as itself. -/
theorem resolveType_rekind (kind kind' : Kind) (d : Dump.TypeDecl) :
    EndsAlike (fun D D' => D' = D.rekind κ kind') (n.resolveType kind d)
      (n'.resolveType kind' d) := by
  unfold resolveType
  refine (resolveBase_rekind h d.parameters d).bind ?_
  rintro base _ rfl
  refine (EndsAlike.mapM_map (resolveNamed_rekind h d.parameters .interface d.name)
    d.interfaces).bind ?_
  rintro interfaces _ rfl
  refine (EndsAlike.mapM_map (resolveMember_rekind h d.parameters) d.members).bind ?_
  rintro members _ rfl
  exact .ok rfl

theorem resolveDeclaration_rekind {d d' : Dump.Declaration} (hd : d.SameButKind d') :
    EndsAlike (Declaration.Rekinded κ) (n.resolveDeclaration d) (n'.resolveDeclaration d') := by
  cases hd with
  | enum d => exact .ok (.enum d)
  | type kind kind' d =>
    refine (resolveType_rekind h kind.toKind kind'.toKind d).bind ?_
    rintro D _ rfl
    exact .ok (.type _ D)

end Declarations

end Names

namespace Project

variable {dumps dumps' : List (String × Dump)}

/-! ### Exchanged kinds -/

/-- Two lists of dumps **differ in kinds** only: they have the same units with the same declarations
at the same places, but what is a class in one may be a struct or an interface in the other. -/
def DifferInKinds (dumps dumps' : List (String × Dump)) : Prop :=
  List.Forall₂ (fun u u' => u'.1 = u.1 ∧
    List.Forall₂ Dump.Declaration.SameButKind u.2.declarations u'.2.declarations) dumps dumps'

/-- The kind of the first declaration of a name is **exchanged** for another one. -/
def KindExchanged (dumps dumps' : List (String × Dump)) (name : String) : Prop :=
  ∃ d d', (written dumps).find? (·.name == name) = some d ∧
    (written dumps').find? (·.name == name) = some d' ∧ d.kind ≠ d'.kind

/-- Exchanges the kinds that two lists of dumps declare a name as. -/
def exchange (dumps dumps' : List (String × Dump)) (name : String) : Kind → Kind :=
  match (registryOf dumps).kind? name, (registryOf dumps').kind? name with
  | some kind, some kind' => Equiv.swap kind kind'
  | _, _ => id

theorem exchange_involutive (dumps dumps' : List (String × Dump)) (name : String) :
    Function.Involutive (exchange dumps dumps' name) := by
  unfold exchange
  split
  · next kind kind' _ _ => exact fun k => DFunLike.congr_fun (Equiv.swap_swap kind kind') k
  · exact fun _ => rfl

/-- Where an exchange makes a difference, the kind of the first declaration is exchanged. -/
theorem kindExchanged_of_exchange_ne {name : String} {kind : Kind}
    (h : exchange dumps dumps' name kind ≠ kind) : KindExchanged dumps dumps' name := by
  rw [exchange] at h
  cases hk : (registryOf dumps).kind? name with
  | none =>
    rw [hk] at h
    exact absurd rfl h
  | some k =>
    cases hk' : (registryOf dumps').kind? name with
    | none =>
      rw [hk, hk'] at h
      exact absurd rfl h
    | some k' =>
      rw [hk, hk'] at h
      rw [kind?_registryOf_written, Option.map_eq_some_iff] at hk hk'
      obtain ⟨d, hd, rfl⟩ := hk
      obtain ⟨d', hd', rfl⟩ := hk'
      refine ⟨d, d', hd, hd', fun heq => h ?_⟩
      rw [heq]
      exact DFunLike.congr_fun (Equiv.swap_self d'.kind) kind

theorem written_differInKinds (h : DifferInKinds dumps dumps') :
    List.Forall₂ Dump.Declaration.SameButKind (written dumps) (written dumps') :=
  List.rel_flatMap h fun _ _ hu => hu.2

/-- **Exchanging kinds is a translation** from the names that one list of dumps declares to those
that the other does. -/
theorem translates_exchange (catalog : Catalog) (h : DifferInKinds dumps dumps') :
    Names.Translates ⟨registryOf dumps, catalog⟩ ⟨registryOf dumps', catalog⟩
      (SourceType.rekind (exchange dumps dumps')) where
  catalog := rfl
  array _ := rfl
  library t hdecl _ := by
    rw [NamedTypeOf.named_rekind, NamedTypeOf.rekind, NamedTypeOf.mapParts, hdecl]
    rfl
  declared name args := by
    have hname : ∀ d d' : Dump.Declaration, d.SameButKind d' →
        (d.name == name) = (d'.name == name) := fun d d' hd => by rw [hd.name_eq]
    have hfirst := find?_of_forall₂ (written_differInKinds h) hname
    have hkind := kind?_registryOf_written dumps name
    have hkind' := kind?_registryOf_written dumps' name
    unfold Names.declared?
    -- The name is declared in both or in neither, and the exchange takes the one kind to the other.
    generalize (written dumps).find? (·.name == name) = found at hfirst hkind
    generalize (written dumps').find? (·.name == name) = found' at hfirst hkind'
    cases hfirst with
    | none =>
      rw [hkind, hkind']
      rfl
    | @some d d' _ =>
      have hexchange : exchange dumps dumps' name d.kind = d'.kind := by
        rw [exchange, hkind, hkind']
        exact Equiv.swap_apply_left _ _
      rw [hkind, hkind', Option.map_some, Option.map_some, Option.map_some, Option.map_some,
        Option.map_some, NamedTypeOf.named_rekind, NamedTypeOf.rekind]
      simp only [NamedTypeOf.ofDeclared, if_true, hexchange, List.map_nil]

theorem resolveUnits_rekind (catalog : Catalog) (h : DifferInKinds dumps dumps') :
    EndsAlike (List.Forall₂ (SourceUnit.Rekinded (exchange dumps dumps')))
      (dumps.mapM (Names.mk (registryOf dumps) catalog).resolveUnit)
      (dumps'.mapM (Names.mk (registryOf dumps') catalog).resolveUnit) := by
  have htranslates := translates_exchange catalog h
  refine EndsAlike.mapM h fun u u' hu => ?_
  refine (EndsAlike.mapM hu.2 fun d d' hd => Names.resolveDeclaration_rekind htranslates hd).bind ?_
  exact fun _ _ hdeclarations => .ok ⟨hu.1, hdeclarations⟩

/-- **Dumps that differ in kinds load alike**: to units that differ in kinds, or with the same
error. -/
theorem ofDumps_rekind (catalog : Catalog) (h : DifferInKinds dumps dumps') :
    EndsAlike (fun p p' => List.Forall₂ (SourceUnit.Rekinded (exchange dumps dumps'))
        p.units p'.units)
      (ofDumps catalog dumps) (ofDumps catalog dumps') := by
  have hunits := resolveUnits_rekind catalog h
  unfold ofDumps
  dsimp only
  cases hx : dumps.mapM (Names.mk (registryOf dumps) catalog).resolveUnit with
  | error e =>
    cases hy : dumps'.mapM (Names.mk (registryOf dumps') catalog).resolveUnit with
    | error e' =>
      rw [hx, hy] at hunits
      cases hunits
      exact .error e
    | ok units' =>
      rw [hx, hy] at hunits
      cases hunits
  | ok units =>
    cases hy : dumps'.mapM (Names.mk (registryOf dumps') catalog).resolveUnit with
    | error e' =>
      rw [hx, hy] at hunits
      cases hunits
    | ok units' =>
      rw [hx, hy] at hunits
      cases hunits with
      | ok hunits =>
        rw [ok_bind, ok_bind, registryOf_eq_ofUnits hx, registryOf_eq_ofUnits hy]
        have hlink := Inheritance.link_rekind (exchange_involutive dumps dumps') hunits
        exact hlink.bind fun linked linked' hlinked => .ok hlinked

end Project

/-! ### Blocks -/

/-- Two members have **lines that are alike**: the same name and the same type are written, and
where one is optional and the other is not, their type is itself a declared one whose kind is
exchanged. -/
structure Member.LinesAlike (exchanged : String → Prop) (m m' : Member) : Prop where
  name : m'.line.name = m.line.name
  shape : m'.line.shape = m.line.shape
  optional : m'.line.isOptional ≠ m.line.isOptional →
    ∃ t : NamedType, m.type = .named t ∧ t.declared = true ∧ exchanged t.name

/-- Two declarations have **blocks that are alike**: those of types have the same name, the same
parent and the same index signature, and lines that are alike; those of enums are the same. -/
inductive Declaration.BlocksAlike (exchanged : String → Prop) : Declaration → Declaration → Prop
  | enum (d : EnumDecl) : BlocksAlike exchanged (.enum d) (.enum d)
  | type {d d' : TypeDecl} : d'.name = d.name → d'.parent? = d.parent? →
      d'.indexSignature? = d.indexSignature? →
      List.Forall₂ (Member.LinesAlike exchanged) d.members d'.members →
      BlocksAlike exchanged (.type d) (.type d')

theorem Declaration.Rekinded.refusal?_eq {κ : String → Kind → Kind} {d d' : Declaration}
    (h : d.Rekinded κ d') (c : Config) : d'.refusal? c = d.refusal? c := by
  cases h <;> rfl

/-- **Blocks do not depend on kinds**, except that a member may be optional or not. -/
theorem Declaration.Rekinded.blocksAlike {κ : String → Kind → Kind} {exchanged : String → Prop}
    (hκ : ∀ name kind, κ name kind ≠ kind → exchanged name) {d d' : Declaration}
    (h : d.Rekinded κ d') : d.BlocksAlike exchanged d' := by
  cases h with
  | enum d => exact .enum d
  | type kind d =>
    refine .type rfl (d.parent?_rekind κ kind) (d.indexSignature?_rekind κ kind) ?_
    refine List.forall₂_map_right_iff.mpr
      (List.forall₂_same.mpr fun m _ => ⟨rfl, ?_, fun hne => ?_⟩)
    · exact SourceType.shape_rekind m.type
    · obtain ⟨t, ht, hdecl, hkind⟩ := SourceType.exists_of_isReference_rekind_ne hne
      exact ⟨t, ht, hdecl, hκ _ _ hkind⟩

/-- **Runs over declarations that are refused alike** end alike, after as many blocks. -/
theorem Emitter.write_alike {c : Config} {ds ds' : List Declaration}
    (h : List.Forall₂ (fun d d' => d'.refusal? c = d.refusal? c) ds ds') :
    ∀ buffer buffer', ∃ count outcome,
      (Emitter.mk c buffer).write ds = { text := blocks c (ds.take count), outcome } ∧
        (Emitter.mk c buffer').write ds' = { text := blocks c (ds'.take count), outcome } := by
  induction h with
  | nil => exact fun _ _ => ⟨0, .ok (), rfl, rfl⟩
  | @cons d d' ds ds' hd _ ih =>
    intro buffer buffer'
    cases hrefusal : d.refusal? c with
    | some r =>
      rw [hrefusal] at hd
      exact ⟨0, .error r, write_of_refused _ hrefusal _, write_of_refused _ hd _⟩
    | none =>
      rw [hrefusal] at hd
      obtain ⟨count, outcome, hlater, hlater'⟩ :=
        ih (c.keyword ++ d.body) (c.keyword ++ d'.body)
      refine ⟨count + 1, outcome, ?_, ?_⟩
      · rw [write, emit, Declaration.blockText_eq, hrefusal]
        simp only [hlater, blocks, List.take_succ_cons, List.map_cons, String.join_cons]
      · rw [write, emit, Declaration.blockText_eq, hd]
        simp only [hlater', blocks, List.take_succ_cons, List.map_cons, String.join_cons]

namespace Project

variable {dumps dumps' : List (String × Dump)}

/-! ### Loading and writing -/

/-- **The kinds of types have influence on what is optional only**, for every catalog and all dumps
that differ in kinds.

They load alike, or fail with the same error. Then their declarations have blocks that are alike,
one by one: only a member whose type is itself a declared one, and not an array of it, can be
optional in one and not in the other, and only if the kind of the first declaration of that name is
exchanged. Under every configuration, as many of these blocks are written for the one as for the
other, and the runs end alike. -/
theorem kinds_only_optional (catalog : Catalog) (h : DifferInKinds dumps dumps') :
    EndsAlike (fun p p' =>
        List.Forall₂ (Declaration.BlocksAlike (KindExchanged dumps dumps'))
            (declarationsOf p.units) (declarationsOf p'.units) ∧
          ∀ c, (emitUnits c p'.units).outcome = (emitUnits c p.units).outcome ∧
            ∃ count,
              (emitUnits c p.units).text = String.join
                (((declarationsOf p.units).take count).map fun d => d.block.text c.keyword) ∧
              (emitUnits c p'.units).text = String.join
                (((declarationsOf p'.units).take count).map fun d => d.block.text c.keyword))
      (ofDumps catalog dumps) (ofDumps catalog dumps') := by
  refine (ofDumps_rekind catalog h).mono fun p p' hunits => ?_
  have hdeclarations : List.Forall₂ (Declaration.Rekinded (exchange dumps dumps'))
      (declarationsOf p.units) (declarationsOf p'.units) :=
    List.rel_flatMap hunits fun _ _ hu => hu.2
  have hkind : ∀ name kind, exchange dumps dumps' name kind ≠ kind →
      KindExchanged dumps dumps' name := fun _ _ => kindExchanged_of_exchange_ne
  refine ⟨hdeclarations.imp fun _ _ hd => hd.blocksAlike hkind, fun c => ?_⟩
  obtain ⟨count, outcome, hrun, hrun'⟩ :=
    Emitter.write_alike (hdeclarations.imp fun _ _ hd => hd.refusal?_eq c) "" ""
  have hwrite : emitUnits c p.units =
      { text := Emitter.blocks c ((declarationsOf p.units).take count), outcome } := hrun
  have hwrite' : emitUnits c p'.units =
      { text := Emitter.blocks c ((declarationsOf p'.units).take count), outcome } := hrun'
  rw [hwrite, hwrite']
  refine ⟨rfl, count, ?_, ?_⟩ <;> simp only [Emitter.blocks, Declaration.text_block]

/-- A unit with an item, which is a class or a struct, and a shop that has a best item and many
others. -/
def kiosks (kind : DeclKind) : List (String × Dump) :=
  [("kiosks",
    ⟨[.type kind { name := "Item" },
      .type .classType
        { name := "Kiosk"
          members := [{ name := "Best", type := .simple "Item" },
            { name := "Others", type := .array (.simple "Item") }] }]⟩)]

/-- The kiosks, loaded. -/
def loadedKiosks (kind : DeclKind) : Project :=
  let item := SourceType.named (.ofDeclared "Item" kind.toKind [])
  { units := [{ name := "kiosks", declarations :=
      [.type { name := "Item", kind := kind.toKind },
        .type
          { name := "Kiosk", kind := .classType
            members :=
              [{ name := "Best", type := item }, { name := "Others", type := .array item }] }] }]
    registry := registryOf (kiosks kind) }

theorem kinds_only_optional_kiosks :
    DifferInKinds (kiosks .classType) (kiosks .structType) ∧
      ofDumps { entries := [] } (kiosks .classType) = .ok (loadedKiosks .classType) ∧
      ofDumps { entries := [] } (kiosks .structType) = .ok (loadedKiosks .structType) ∧
      List.Forall₂ (Declaration.BlocksAlike
          (KindExchanged (kiosks .classType) (kiosks .structType)))
        (declarationsOf (loadedKiosks .classType).units)
        (declarationsOf (loadedKiosks .structType).units) ∧
      (emitUnits {} (loadedKiosks .classType).units).text =
        "export interface Item \x7b\n\x7d\n\n" ++
          "export interface Kiosk \x7b\n  Best?: Item;\n  Others?: Item[];\n\x7d\n\n" ∧
      (emitUnits {} (loadedKiosks .structType).units).text =
        "export interface Item \x7b\n\x7d\n\n" ++
          "export interface Kiosk \x7b\n  Best: Item;\n  Others?: Item[];\n\x7d\n\n" := by
  have hdiffer : DifferInKinds (kiosks .classType) (kiosks .structType) :=
    .cons ⟨rfl, .cons (.type _ _ _) (.cons (.type _ _ _) .nil)⟩ .nil
  have h : ofDumps { entries := [] } (kiosks .classType) = .ok (loadedKiosks .classType) := by cbv
  have h' : ofDumps { entries := [] } (kiosks .structType) = .ok (loadedKiosks .structType) := by
    cbv
  have hsame := kinds_only_optional { entries := [] } hdiffer
  rw [h, h'] at hsame
  cases hsame with
  | ok hblocks => exact ⟨hdiffer, h, h', hblocks.1, by cbv, by cbv⟩

end Project

end DeclGen
