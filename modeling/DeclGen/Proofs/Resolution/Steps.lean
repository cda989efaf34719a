import DeclGen.Proofs.Outcome
import DeclGen.Resolution

/-!
# The steps of resolution

What resolving one reference can do, given its outcome. For every form of a reference there is a
lemma that says when it resolves to a type and one that says when it fails, both in terms of the
references in it; for the name of a library type there is one for each of the three things that can
happen: the catalog has no entry, the entry is pending, the entry is opened.

Everything that is proved about resolution goes through these lemmas, and none of it opens the
definition.
-/

namespace DeclGen

namespace Names

variable {n : Names} {pending : List Catalog.Key} {scope : Scope}

/-! ### References -/

/-- A name alone is looked up in the catalog, unless it needs none. -/
theorem resolve_simple {name : String} :
    n.resolve pending scope (.simple name) =
      match n.known? scope true name [] with
      | some t => .ok t
      | none => n.libraryType pending name [] >>= fun l => .ok (.named l) := by
  cases h : n.known? scope true name [] <;> simp only [resolve, h]

theorem resolve_array {element : Reference} :
    n.resolve pending scope (.array element) =
      (n.resolve pending scope element >>= fun s => .ok (.array s)) := by
  rw [resolve]

theorem resolve_simple_eq_ok {name : String} {t : SourceType} :
    n.resolve pending scope (.simple name) = .ok t ↔
      n.known? scope true name [] = some t ∨
        n.known? scope true name [] = none ∧
          ∃ l, n.libraryType pending name [] = .ok l ∧ .named l = t := by
  rw [resolve]
  cases n.known? scope true name [] with
  | some s => simp
  | none => simp [bind_eq_ok]

theorem resolve_simple_eq_error {name : String} {e : LoadError} :
    n.resolve pending scope (.simple name) = .error e ↔
      n.known? scope true name [] = none ∧ n.libraryType pending name [] = .error e := by
  rw [resolve]
  cases n.known? scope true name [] with
  | some s => simp
  | none => simp [bind_eq_error]

theorem resolve_array_eq_ok {element : Reference} {t : SourceType} :
    n.resolve pending scope (.array element) = .ok t ↔
      ∃ s, n.resolve pending scope element = .ok s ∧ .array s = t := by
  rw [resolve]
  simp [bind_eq_ok]

theorem resolve_array_eq_error {element : Reference} {e : LoadError} :
    n.resolve pending scope (.array element) = .error e ↔
      n.resolve pending scope element = .error e := by
  rw [resolve]
  simp [bind_eq_error]

theorem resolve_param_eq_ok {name : String} {t : SourceType} :
    n.resolve pending scope (.param name) = .ok t ↔ scope.lookup name = some t := by
  rw [resolve]
  cases scope.lookup name with
  | some s => simp
  | none => simp

theorem resolve_param_eq_error {name : String} {e : LoadError} :
    n.resolve pending scope (.param name) = .error e ↔
      scope.lookup name = none ∧ e = .unknownParameter name := by
  rw [resolve]
  cases scope.lookup name with
  | some s => simp
  | none => simp [eq_comm]

/-- The interfaces that a reference writes in place of the type's own. -/
def interfacesOr (n : Names) (pending : List Catalog.Key) (scope : Scope)
    (written : Option (List Reference)) (own : List SourceType) :
    Except LoadError (List SourceType) :=
  match written with
  | none => .ok own
  | some rs => n.resolveAll pending scope rs

theorem specialOr_eq_error {name : String} {written : Option String} {special : Special}
    {e : LoadError} :
    specialOr name written special = .error e ↔
      ∃ tag, written = some tag ∧ Special.ofTag? tag = none ∧ .unknownSpecial tag name = e := by
  cases written with
  | none => simp [specialOr]
  | some tag =>
    cases htag : Special.ofTag? tag <;> simp [specialOr, htag]

section Named

variable {name : String} {args : List Reference} {kind : Option DeclKind} {special : Option String}
  {interfaces : Option (List Reference)}

/-- A named type is resolved in four steps, unless its name needs no catalog. -/
theorem resolve_named :
    n.resolve pending scope (.named name args kind special interfaces) =
      (n.resolveAll pending scope args >>= fun as =>
        match n.known? scope (isPlain kind special interfaces) name as with
        | some t => .ok t
        | none =>
          n.libraryType pending name as >>= fun l =>
            specialOr name special l.special >>= fun s =>
              n.interfacesOr pending scope interfaces l.interfaces >>= fun is =>
                .ok (.named { l with
                  kind := (kind.map DeclKind.toKind).getD l.kind
                  special := s, interfaces := is })) := by
  rw [resolve]
  cases interfaces <;> rfl

/-- **A named type resolves** in two ways: its name needs no catalog, or what is written in place
goes before what the catalog says. -/
theorem resolve_named_eq_ok {t : SourceType} :
    n.resolve pending scope (.named name args kind special interfaces) = .ok t ↔
      ∃ as, n.resolveAll pending scope args = .ok as ∧
        (n.known? scope (isPlain kind special interfaces) name as = some t ∨
          n.known? scope (isPlain kind special interfaces) name as = none ∧
            ∃ l, n.libraryType pending name as = .ok l ∧
              ∃ s, specialOr name special l.special = .ok s ∧
                ∃ is, n.interfacesOr pending scope interfaces l.interfaces = .ok is ∧
                  .named { l with
                    kind := (kind.map DeclKind.toKind).getD l.kind
                    special := s, interfaces := is } = t) := by
  rw [resolve_named, bind_eq_ok]
  refine exists_congr fun as => and_congr_right fun _ => ?_
  cases n.known? scope (isPlain kind special interfaces) name as with
  | some s => simp
  | none => simp [bind_eq_ok]

/-- **A named type fails** in its arguments, in the catalog, in the role or in the interfaces that
are written in place. -/
theorem resolve_named_eq_error {e : LoadError} :
    n.resolve pending scope (.named name args kind special interfaces) = .error e ↔
      n.resolveAll pending scope args = .error e ∨
        ∃ as, n.resolveAll pending scope args = .ok as ∧
          n.known? scope (isPlain kind special interfaces) name as = none ∧
            (n.libraryType pending name as = .error e ∨
              ∃ l, n.libraryType pending name as = .ok l ∧
                (specialOr name special l.special = .error e ∨
                  ∃ s, specialOr name special l.special = .ok s ∧
                    n.interfacesOr pending scope interfaces l.interfaces = .error e)) := by
  rw [resolve_named, bind_eq_error]
  refine or_congr_right (exists_congr fun as => and_congr_right fun _ => ?_)
  cases n.known? scope (isPlain kind special interfaces) name as with
  | some s => simp
  | none => simp [bind_eq_error]

end Named

theorem resolveAll_nil : n.resolveAll pending scope [] = .ok [] := by
  rw [resolveAll]

theorem resolveAll_cons {r : Reference} {rest : List Reference} :
    n.resolveAll pending scope (r :: rest) =
      (n.resolve pending scope r >>= fun t =>
        n.resolveAll pending scope rest >>= fun ts => .ok (t :: ts)) := by
  rw [resolveAll]

/-- A list of references is resolved reference by reference. -/
theorem resolveAll_eq_mapM (rs : List Reference) :
    n.resolveAll pending scope rs = rs.mapM (n.resolve pending scope) := by
  induction rs with
  | nil =>
    rw [resolveAll_nil, List.mapM_nil]
    rfl
  | cons r rest ih =>
    rw [resolveAll_cons, List.mapM_cons, ih]
    rfl

/-! ### Library types -/

section Library

variable {name : String} {args : List SourceType} {e : Catalog.Entry}

theorem libraryType_unlisted (h : n.catalog.find? (name, args.length) = none) :
    n.libraryType pending name args = .ok { NamedTypeOf.external name .classType with args } := by
  rw [libraryType]
  split
  · rfl
  · next h' => simp [h] at h'

/-- What a catalog entry says of a type without its interfaces. -/
def shallowType (e : Catalog.Entry) (name : String) (args : List SourceType) : NamedType :=
  { name, kind := e.kind.toKind, special := e.special, args }

theorem libraryType_pending (h : n.catalog.find? (name, args.length) = some e)
    (hk : (name, args.length) ∈ pending) :
    n.libraryType pending name args = .ok (shallowType e name args) := by
  rw [libraryType]
  split
  · next h' => simp [h] at h'
  · next h' =>
    rw [h] at h'
    cases h'
    rw [dif_pos hk]
    rfl

theorem libraryType_open (h : n.catalog.find? (name, args.length) = some e)
    (hk : (name, args.length) ∉ pending) :
    n.libraryType pending name args =
      (n.resolveInterfaces ((name, args.length) :: pending) (.bind e.parameters args)
        e.interfaces >>= fun interfaces => .ok { shallowType e name args with interfaces }) := by
  rw [libraryType]
  split
  · next h' => simp [h] at h'
  · next h' =>
    rw [h] at h'
    cases h'
    rw [dif_neg hk]
    rfl

theorem resolveInterfaces_nil : n.resolveInterfaces pending scope [] = .ok [] := by
  rw [resolveInterfaces]

/-- An interface whose entry is pending is a cycle. -/
theorem resolveInterfaces_cycle {r : Reference} {rest : List Reference} {k : Nat}
    (h : r.head? = some (name, k)) (hk : (name, k) ∈ pending) :
    n.resolveInterfaces pending scope (r :: rest) = .error (.cyclicInheritance name) := by
  have hsome : r.head?.filter (· ∈ pending) = some (name, k) := by
    rw [h, Option.filter_some, if_pos (by simpa using hk)]
  rw [resolveInterfaces, hsome]

/-- No head of an interface is pending if none is found to be. -/
theorem head?_filter_eq_none_iff {r : Reference} :
    r.head?.filter (· ∈ pending) = none ↔ ∀ key, r.head? = some key → key ∉ pending := by
  simp [Option.filter_eq_none_iff]

theorem resolveInterfaces_step {r : Reference} {rest : List Reference}
    (h : ∀ key, r.head? = some key → key ∉ pending) :
    n.resolveInterfaces pending scope (r :: rest) =
      (n.resolve pending scope r >>= fun t =>
        n.resolveInterfaces pending scope rest >>= fun ts => .ok (t :: ts)) := by
  rw [resolveInterfaces, head?_filter_eq_none_iff.mpr h]

end Library

end Names

end DeclGen
