import DeclGen.Proofs.Resolution.Everywhere

/-!
# Resolution commutes with translations of types

Resolution builds types and never looks into them. The types that stand in scope are handed on, they
become type arguments, and of a list of arguments nothing counts but its length. So if the types in
scope are translated, what a reference resolves to is translated with them
(`DeclGen.Names.resolve_translate`).

What has to be asked of a translation is in `DeclGen.Names.Translates`: it goes through arrays and
library types part by part, and it takes declared types to declared types of the same name, which
may be of another kind if the registry is another one. Type parameters it may take to anything. That
is why substitution is a translation, and so is a change of the kinds that names are declared as.
-/

namespace DeclGen

/-- Translates the arguments and the interfaces of a named type. -/
def NamedTypeOf.mapParts (φ : SourceType → SourceType) (t : NamedType) : NamedType :=
  { t with args := t.args.map φ, interfaces := t.interfaces.map φ }

namespace Scope

variable (φ : SourceType → SourceType)

/-- Translates the types in scope. -/
def translate (scope : Scope) : Scope :=
  scope.map fun e => (e.1, φ e.2)

/-- A scope is **another one translated** as far as names can tell: what a name finds is what it
finds in the other one, translated. -/
def Translated (scope scope' : Scope) : Prop :=
  ∀ name, scope'.lookup name = (scope.lookup name).map φ

theorem translated_translate (scope : Scope) : Translated φ scope (scope.translate φ) :=
  lookup_map_snd φ scope

/-- Parameters are bound to translated arguments. -/
theorem translated_bind (parameters : List String) (args : List SourceType) :
    Translated φ (bind parameters args) (bind parameters (args.map φ)) := by
  have htranslate : bind parameters (args.map φ) = (bind parameters args).translate φ := by
    rw [bind, bind, translate, List.map_reverse, List.zip_map_right]
    rfl
  rw [htranslate]
  exact translated_translate φ _

end Scope

namespace Names

/-- **A translation of types** from one way to look names up to another. -/
structure Translates (n n' : Names) (φ : SourceType → SourceType) : Prop where
  catalog : n'.catalog = n.catalog
  array : ∀ t, φ (.array t) = .array (φ t)
  library : ∀ t : NamedType, t.declared = false → t.kind ≠ .parameter →
    φ (.named t) = .named (t.mapParts φ)
  declared : ∀ name args, n'.declared? name (args.map φ) = (n.declared? name args).map φ

variable {n n' : Names} {φ : SourceType → SourceType}

/-- A library type is not declared, and no type parameter. -/
theorem declared_kind_of_libraryType {pending : List Catalog.Key} {name : String}
    {args : List SourceType} {l : NamedType} (h : n.libraryType pending name args = .ok l) :
    l.declared = false ∧ l.kind ≠ .parameter := by
  cases he : n.catalog.find? (name, args.length) with
  | none =>
    rw [libraryType_unlisted he] at h
    cases h
    exact ⟨rfl, nofun⟩
  | some e =>
    by_cases hk : (name, args.length) ∈ pending
    · rw [libraryType_pending he hk] at h
      cases h
      exact ⟨rfl, e.kind.toKind_ne_parameter⟩
    · rw [libraryType_open he hk] at h
      obtain ⟨_, _, h⟩ := bind_eq_ok.mp h
      cases h
      exact ⟨rfl, e.kind.toKind_ne_parameter⟩

/-- A name that needs no catalog stands for the translated type. -/
theorem known?_translate (h : n.Translates n' φ) {scope scope' : Scope}
    (hscope : scope.Translated φ scope') (isBare : Bool) (name : String) (args : List SourceType) :
    n'.known? scope' isBare name (args.map φ) = (n.known? scope isBare name args).map φ := by
  have hbuiltin : ∀ t, NamedTypeOf.builtin? name = some t → φ (.named t) = .named t := by
    intro t ht
    obtain ⟨hkind, -, -⟩ := NamedTypeOf.kind_builtin_ne_parameter ht
    obtain ⟨b, -, rfl⟩ := Option.map_eq_some_iff.mp ht
    exact h.library b.type rfl hkind
  unfold known?
  rw [List.isEmpty_map]
  split
  · rw [hscope, h.declared]
    cases scope.lookup name with
    | some t => rfl
    | none =>
      cases hb : NamedTypeOf.builtin? name with
      | none => rfl
      | some t => exact congrArg some (hbuiltin t hb).symm
  · exact h.declared name args

/-- **Resolution commutes with a translation**, for references, for library types and for the
interfaces of catalog entries; and where it fails, it fails alike. -/
theorem resolution_translate (h : n.Translates n' φ) :
    (∀ (pending : List Catalog.Key) (scope : Scope) (r : Reference) (scope' : Scope),
      scope.Translated φ scope' →
        n'.resolve pending scope' r = (n.resolve pending scope r).map φ) ∧
    (∀ (pending : List Catalog.Key) (scope : Scope) (rs : List Reference) (scope' : Scope),
      scope.Translated φ scope' →
        n'.resolveAll pending scope' rs = (n.resolveAll pending scope rs).map (List.map φ)) ∧
    (∀ (pending : List Catalog.Key) (name : String) (args : List SourceType),
      n'.libraryType pending name (args.map φ) =
        (n.libraryType pending name args).map (NamedTypeOf.mapParts φ)) ∧
    ∀ (pending : List Catalog.Key) (scope : Scope) (rs : List Reference) (scope' : Scope),
      scope.Translated φ scope' →
        n'.resolveInterfaces pending scope' rs =
          (n.resolveInterfaces pending scope rs).map (List.map φ) := by
  refine resolve.mutual_induct n _ _ _ _ ?known ?unknown ?array ?param ?noParam ?named
    ?allNil ?allCons ?unlisted ?pending ?opened ?nil ?cycle ?cons
  case known =>
    intro pending scope name t hknown scope' hscope
    have hknown' := known?_translate h hscope true name []
    rw [hknown, List.map_nil] at hknown'
    rw [resolve_simple, resolve_simple, hknown, hknown']
    rfl
  case unknown =>
    intro pending scope name hnone ih scope' hscope
    have hnone' := known?_translate h hscope true name []
    rw [hnone, List.map_nil] at hnone'
    rw [List.map_nil] at ih
    rw [resolve_simple, resolve_simple, hnone, hnone', Option.map_none, ih]
    cases hl : n.libraryType pending name [] with
    | error e => rfl
    | ok l =>
      obtain ⟨hdecl, hkind⟩ := declared_kind_of_libraryType hl
      exact congrArg Except.ok (h.library l hdecl hkind).symm
  case array =>
    intro pending scope element ih scope' hscope
    rw [resolve_array, resolve_array, ih scope' hscope]
    cases n.resolve pending scope element with
    | error e => rfl
    | ok t => exact congrArg Except.ok (h.array t).symm
  case param =>
    intro pending scope name t ht scope' hscope
    rw [resolve, resolve, hscope, ht]
    rfl
  case noParam =>
    intro pending scope name hnone scope' hscope
    rw [resolve, resolve, hscope, hnone]
    rfl
  case named =>
    intro pending scope name args kind special interfaces iha ihl ihi scope' hscope
    rw [resolve_named, resolve_named, iha scope' hscope]
    cases n.resolveAll pending scope args with
    | error e => rfl
    | ok as =>
      have hknown := known?_translate h hscope (isPlain kind special interfaces) name as
      rw [ok_bind, Except.map, ok_bind, hknown]
      cases n.known? scope (isPlain kind special interfaces) name as with
      | some t => rfl
      | none =>
        rw [Option.map_none]
        dsimp only
        rw [ihl]
        cases hl : n.libraryType pending name as with
        | error e => rfl
        | ok l =>
          obtain ⟨hdecl, hkind⟩ := declared_kind_of_libraryType hl
          rw [ok_bind, Except.map, ok_bind, NamedTypeOf.mapParts]
          cases specialOr name special l.special with
          | error e => rfl
          | ok s =>
            have his : n'.interfacesOr pending scope' interfaces (l.interfaces.map φ) =
                (n.interfacesOr pending scope interfaces l.interfaces).map (List.map φ) := by
              cases interfaces with
              | none => rfl
              | some written => exact ihi scope' hscope
            rw [ok_bind, ok_bind, his]
            cases n.interfacesOr pending scope interfaces l.interfaces with
            | error e => rfl
            | ok is =>
              -- What is written in place is a keyword's kind, so this is a library type still.
              refine congrArg Except.ok (h.library { l with
                kind := (kind.map DeclKind.toKind).getD l.kind
                special := s, interfaces := is } hdecl ?_).symm
              cases kind with
              | none => exact hkind
              | some k => exact k.toKind_ne_parameter
  case allNil =>
    intro pending scope _ _
    rw [resolveAll_nil, resolveAll_nil]
    rfl
  case allCons =>
    intro pending scope r rest ihr ihrest scope' hscope
    rw [resolveAll_cons, resolveAll_cons, ihr scope' hscope, ihrest scope' hscope]
    cases n.resolve pending scope r with
    | error e => rfl
    | ok t => cases n.resolveAll pending scope rest <;> rfl
  case unlisted =>
    intro pending name args hnone
    have hnone' : n'.catalog.find? (name, (args.map φ).length) = none := by
      rw [h.catalog, List.length_map, hnone]
    rw [libraryType_unlisted hnone, libraryType_unlisted hnone']
    rfl
  case pending =>
    intro pending name args e he hk
    have he' : n'.catalog.find? (name, (args.map φ).length) = some e := by
      rw [h.catalog, List.length_map, he]
    rw [libraryType_pending he hk, libraryType_pending he' (by rwa [List.length_map])]
    rfl
  case opened =>
    intro pending name args e he hk _ ih
    have he' : n'.catalog.find? (name, (args.map φ).length) = some e := by
      rw [h.catalog, List.length_map, he]
    rw [libraryType_open he hk, libraryType_open he' (by rwa [List.length_map]), List.length_map,
      ih _ (Scope.translated_bind φ e.parameters args)]
    cases n.resolveInterfaces ((name, args.length) :: pending) (Scope.bind e.parameters args)
      e.interfaces <;> rfl
  case nil =>
    intro pending scope _ _
    rw [resolveInterfaces_nil, resolveInterfaces_nil]
    rfl
  case cycle =>
    intro pending scope r rest name k hsome scope' _
    obtain ⟨hhead, hmem⟩ := Option.filter_eq_some_iff.mp hsome
    have hpending : (name, k) ∈ pending := by simpa using hmem
    rw [resolveInterfaces_cycle hhead hpending, resolveInterfaces_cycle hhead hpending]
    rfl
  case cons =>
    intro pending scope r rest hnone ihr ihrest scope' hscope
    have hhead := head?_filter_eq_none_iff.mp hnone
    rw [resolveInterfaces_step hhead, resolveInterfaces_step hhead, ihr scope' hscope,
      ihrest scope' hscope]
    cases n.resolve pending scope r with
    | error e => rfl
    | ok t => cases n.resolveInterfaces pending scope rest <;> rfl

/-- **What a reference resolves to is translated** with the types in scope. -/
theorem resolve_translate (h : n.Translates n' φ) (pending : List Catalog.Key) (scope : Scope)
    (r : Reference) :
    n'.resolve pending (scope.translate φ) r = (n.resolve pending scope r).map φ :=
  (resolution_translate h).1 pending scope r _ (Scope.translated_translate φ scope)

end Names

end DeclGen
