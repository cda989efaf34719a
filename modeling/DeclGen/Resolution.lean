import DeclGen.Catalog.Basic
import DeclGen.Dump.Basic
import DeclGen.LoadError
import DeclGen.Registry
import DeclGen.SourceType.Builtin

/-!
# Resolving references

Resolution turns a written reference into a type. A name is looked up in this order.

* If nothing but the name is written: among the type parameters in scope, then among the built-in
  types.
* Among the declared names.
* In the catalog, by the name and the number of arguments. The entry gives kind, role and
  interfaces, and the interfaces are resolved in turn with the entry's parameters bound to the
  arguments. What is written in place goes before what the entry says.
* A name that is found nowhere is a library class of which nothing is known.

A catalog entry may lead back to itself. Resolution carries the *pending* keys, those of the
entries whose interfaces are being resolved. A pending entry that is met again among type arguments
is left shallow, without interfaces. One that stands in an interface list is a cycle, which is an
error. So the pending keys are all different, and resolution ends because each time an entry is
opened one key fewer is left to open.
-/

namespace DeclGen

/-- What the names in references are looked up in. -/
structure Names where
  registry : Registry
  catalog : Catalog

/-- The type parameters in scope, each with the type it stands for. The first entry of a name
counts. -/
abbrev Scope := List (String × SourceType)

namespace Scope

/-- Binds parameters to arguments, in order. Of two parameters of one name the later counts, and
parameters without an argument are not bound. -/
def bind (parameters : List String) (args : List SourceType) : Scope :=
  (parameters.zip args).reverse

/-- The scope of a generic declaration, whose parameters stand for themselves. -/
def ofParameters (parameters : List String) : Scope :=
  parameters.map fun p => (p, .named (.external p .parameter))

end Scope

/-- The key that a reference is looked up by in a catalog, if it is a named type. -/
def Reference.head? : Reference → Option Catalog.Key
  | .simple name => some (name, 0)
  | .named name args _ _ _ => some (name, args.length)
  | .array _ | .param _ => none

/-- The number of entries that are not pending. -/
def Catalog.unopened (c : Catalog) (pending : List Catalog.Key) : Nat :=
  (c.entries.filter fun e => e.key ∉ pending).length

/-- One entry fewer is left to open after an entry has been opened. -/
theorem Catalog.unopened_cons_lt {c : Catalog} {pending : List Key} {key : Key} {e : Entry}
    (he : c.find? key = some e) (hk : key ∉ pending) :
    c.unopened (key :: pending) < c.unopened pending := by
  have hmem := List.mem_of_find?_eq_some he
  have hkey : e.key = key := by simpa using List.find?_some he
  have h : c.entries.filter (fun e => e.key ∉ key :: pending)
      = (c.entries.filter fun e => e.key ∉ pending).filter fun e => e.key ≠ key := by
    rw [List.filter_filter]
    congr 1
    funext e
    simp
  unfold unopened
  rw [h]
  refine List.length_filter_lt_length_iff_exists.mpr ⟨e, ?_, by simp [hkey]⟩
  simp [hmem, hkey, hk]

namespace Names

/-- The declared type of a name with arguments, if the name is declared. -/
def declared? (n : Names) (name : String) (args : List SourceType) : Option SourceType :=
  (n.registry.kind? name).map fun kind => .named (.ofDeclared name kind args)

/-- The type of a name that needs no catalog. A name is bare if nothing but the name is
written. -/
def known? (n : Names) (scope : Scope) (isBare : Bool) (name : String)
    (args : List SourceType) : Option SourceType :=
  if isBare && args.isEmpty then
    scope.lookup name <|> (NamedTypeOf.builtin? name).map .named <|> n.declared? name args
  else n.declared? name args

/-- Whether nothing but the name and the arguments of a named type is written. -/
def isPlain (kind : Option DeclKind) (special : Option String)
    (interfaces : Option (List Reference)) : Bool :=
  kind.isNone && special.isNone && interfaces.isNone

/-- The role that a reference writes in place of the type's own. -/
def specialOr (name : String) (written : Option String) (special : Special) :
    Except LoadError Special :=
  match written with
  | none => .ok special
  | some tag =>
    match Special.ofTag? tag with
    | some s => .ok s
    | none => .error (.unknownSpecial tag name)

mutual

/-- Resolves a reference. -/
def resolve (n : Names) (pending : List Catalog.Key) (scope : Scope) :
    Reference → Except LoadError SourceType
  | .simple name =>
    match n.known? scope true name [] with
    | some t => .ok t
    | none => do .ok (.named (← n.libraryType pending name []))
  | .array element => do .ok (.array (← n.resolve pending scope element))
  | .param name =>
    match scope.lookup name with
    | some t => .ok t
    | none => .error (.unknownParameter name)
  | .named name args kind special interfaces => do
    let args ← n.resolveAll pending scope args
    match n.known? scope (isPlain kind special interfaces) name args with
    | some t => .ok t
    | none => do
      let t ← n.libraryType pending name args
      let special ← specialOr name special t.special
      let t := { t with kind := (kind.map DeclKind.toKind).getD t.kind, special }
      match interfaces with
      | none => .ok (.named t)
      | some written => do
        let interfaces ← n.resolveAll pending scope written
        .ok (.named { t with interfaces })
termination_by r => (n.catalog.unopened pending, sizeOf r)

/-- Resolves a list of references in order. -/
def resolveAll (n : Names) (pending : List Catalog.Key) (scope : Scope) :
    List Reference → Except LoadError (List SourceType)
  | [] => .ok []
  | r :: rest => do
    let t ← n.resolve pending scope r
    let ts ← n.resolveAll pending scope rest
    .ok (t :: ts)
termination_by rs => (n.catalog.unopened pending, sizeOf rs)

/-- The type of a name that is looked up in the catalog. -/
def libraryType (n : Names) (pending : List Catalog.Key) (name : String)
    (args : List SourceType) : Except LoadError NamedType :=
  match h : n.catalog.find? (name, args.length) with
  | none => .ok { NamedTypeOf.external name .classType with args }
  | some e =>
    let shallow : NamedType := { name, kind := e.kind.toKind, special := e.special, args }
    if hk : (name, args.length) ∈ pending then .ok shallow
    else do
      have := Catalog.unopened_cons_lt h hk
      let interfaces ← n.resolveInterfaces ((name, args.length) :: pending)
        (.bind e.parameters args) e.interfaces
      .ok { shallow with interfaces }
termination_by (n.catalog.unopened pending, 0)
decreasing_by exact Prod.Lex.left _ _ this

/-- Resolves the interfaces of a catalog entry in order. A pending entry among them is a cycle. -/
def resolveInterfaces (n : Names) (pending : List Catalog.Key) (scope : Scope) :
    List Reference → Except LoadError (List SourceType)
  | [] => .ok []
  | r :: rest =>
    match r.head?.filter (· ∈ pending) with
    | some (name, _) => .error (.cyclicInheritance name)
    | none => do
      let t ← n.resolve pending scope r
      let ts ← n.resolveInterfaces pending scope rest
      .ok (t :: ts)
termination_by rs => (n.catalog.unopened pending, sizeOf rs)

end

/-! ### Declarations -/

/-- Resolves a reference in a place where only a named type may stand. -/
def resolveNamed (n : Names) (scope : Scope) (place : NamedPlace) (declaration : String)
    (r : Reference) : Except LoadError NamedType := do
  match ← n.resolve [] scope r with
  | .named t => .ok t
  | .array _ => .error (.notNamed place declaration)

/-- Resolves the type of a member. -/
def resolveMember (n : Names) (scope : Scope) (m : Dump.Member) : Except LoadError Member := do
  let type ← n.resolve [] scope m.type
  .ok { name := m.name, type, attributes := m.attributes }

/-- Resolves the base of a declaration, if it has one. -/
def resolveBase (n : Names) (scope : Scope) (d : Dump.TypeDecl) :
    Except LoadError (Option NamedType) :=
  match d.base with
  | none => .ok none
  | some r => do .ok (some (← n.resolveNamed scope .base d.name r))

/-- Resolves a type declaration: its base, its interfaces, its members. -/
def resolveType (n : Names) (kind : Kind) (d : Dump.TypeDecl) : Except LoadError TypeDecl := do
  let scope := Scope.ofParameters d.parameters
  let base ← n.resolveBase scope d
  let interfaces ← d.interfaces.mapM (n.resolveNamed scope .interface d.name)
  let members ← d.members.mapM (n.resolveMember scope)
  .ok { name := d.name, kind, base, interfaces, members }

/-- Resolves a declaration. -/
def resolveDeclaration (n : Names) : Dump.Declaration → Except LoadError Declaration
  | .type kind d => do .ok (.type (← n.resolveType kind.toKind d))
  | .enum d => .ok (.enum d)

/-- Resolves the declarations of a unit. -/
def resolveUnit (n : Names) (unit : String × Dump) : Except LoadError SourceUnit := do
  let declarations ← unit.2.declarations.mapM n.resolveDeclaration
  .ok { name := unit.1, declarations }

end Names

end DeclGen
