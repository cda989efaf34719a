import DeclGen.LoadError
import DeclGen.Registry

/-!
# Linking inheritance

Linking gives every type declaration its transitive interfaces: each interface that it names,
followed by what that interface inherits, and then what the base inherits. Of equal types the first
stays.

What a *declared* type inherits are the transitive interfaces of its declaration, which is found by
name; a name that is not declared, or declares an enum, inherits nothing. What a *library* type
inherits are the named types in its own interface list.

A declaration that inherits from itself is an error. The walk carries the *path* of the names that
it is inside of, and ends because each name on it is declared and stands there once. The lists that
have been found are kept, so that every name is walked only once however many ways lead to it.
-/

namespace DeclGen

/-- A type that a declaration inherits from. -/
inductive Ancestor where
  /-- An interface is inherited itself, and then what it inherits. -/
  | interface (type : NamedType)
  /-- Of a base only what it inherits counts. -/
  | base (type : NamedType)

namespace Ancestor

/-- The type that is inherited from. -/
def type : Ancestor → NamedType
  | .interface t => t
  | .base t => t

/-- The ancestor itself, if it is an interface. -/
def itself : Ancestor → List NamedType
  | .interface t => [t]
  | .base _ => []

end Ancestor

/-- What a declaration inherits from: its interfaces in order, then its base. -/
def TypeDecl.ancestors (d : TypeDecl) : List Ancestor :=
  d.interfaces.map .interface ++ (d.base.map Ancestor.base).toList

/-- The named types among the interfaces of a library type. -/
def NamedTypeOf.namedInterfaces (t : NamedType) : List NamedType :=
  t.interfaces.filterMap SourceType.asNamed?

/-- A declaration with its transitive interfaces written to it. An enum has no place for them. -/
def Declaration.withInterfaces : Declaration → List NamedType → Declaration
  | .type d, types => .type { d with allInterfaces := types }
  | .enum d, _ => .enum d

/-- A unit with the transitive interfaces of its declarations written to them. -/
def SourceUnit.withInterfaces (u : SourceUnit) (found : List (List NamedType)) : SourceUnit :=
  { u with declarations := List.zipWith Declaration.withInterfaces u.declarations found }

namespace Inheritance

/-- Adds the types of a list at the end, each unless it is there already. -/
def addNew (types : List NamedType) : List NamedType → List NamedType
  | [] => types
  | t :: rest => addNew (if t ∈ types then types else types ++ [t]) rest

/-- The transitive interfaces found so far, by name. -/
abbrev Memo := List (String × List NamedType)

/-- The number of declared names that are not on a path. -/
def namesOff (r : Registry) (path : List String) : Nat :=
  (r.names.filter (· ∉ path)).length

theorem mem_names_of_lookup {slots : List (String × Slot)} {name : String} {slot : Slot}
    (h : slots.lookup name = some slot) : name ∈ slots.map (·.1) := by
  induction slots with
  | nil => cases h
  | cons e rest ih =>
    by_cases he : name = e.1
    · simp [he]
    · have hb : (name == e.1) = false := by simpa using he
      rw [List.lookup_cons, hb] at h
      exact List.mem_cons_of_mem _ (ih h)

/-- A name that finds a type declaration is declared. -/
theorem mem_names_of_findType? {r : Registry} {units : List SourceUnit} {name : String}
    {d : TypeDecl} (h : r.findType? units name = some d) : name ∈ r.names := by
  cases hs : r.slot? name with
  | none => simp [Registry.findType?, Registry.find?, hs] at h
  | some slot => exact mem_names_of_lookup hs

/-- One declared name fewer is left off the path after a step to one. -/
theorem namesOff_cons_lt {r : Registry} {path : List String} {name : String}
    (hn : name ∈ r.names) (hp : name ∉ path) :
    namesOff r (name :: path) < namesOff r path := by
  have h : r.names.filter (· ∉ name :: path)
      = (r.names.filter (· ∉ path)).filter (· ≠ name) := by
    rw [List.filter_filter]
    congr 1
    funext m
    simp
  unfold namesOff
  rw [h]
  exact List.length_filter_lt_length_iff_exists.mpr ⟨name, by simp [hn, hp], by simp⟩

mutual

/-- What the declared type of a name inherits: the transitive interfaces of its declaration. -/
def inheritedByName (r : Registry) (units : List SourceUnit) (path : List String)
    (name : String) (memo : Memo) : Except LoadError (List NamedType × Memo) :=
  match memo.lookup name with
  | some done => .ok (done, memo)
  | none =>
    if hp : name ∈ path then .error (.cyclicInheritance name)
    else
      match hd : r.findType? units name with
      | none => .ok ([], memo)
      | some d => do
        have := namesOff_cons_lt (mem_names_of_findType? hd) hp
        let (types, memo) ← collect r units (name :: path) [] d.ancestors memo
        .ok (types, (name, types) :: memo)
termination_by (namesOff r path, 0)
decreasing_by exact Prod.Lex.left _ _ this

/-- Adds to `types` what is inherited from a list of ancestors. -/
def collect (r : Registry) (units : List SourceUnit) (path : List String)
    (types : List NamedType) : List Ancestor → Memo → Except LoadError (List NamedType × Memo)
  | [], memo => .ok (types, memo)
  | a :: rest, memo => do
    let (inherited, memo) ←
      if a.type.declared then inheritedByName r units path a.type.name memo
      else .ok (a.type.namedInterfaces, memo)
    collect r units path (addNew types (a.itself ++ inherited)) rest memo
termination_by ancestors => (namesOff r path, ancestors.length + 1)

end

/-- The transitive interfaces of the declaration at a place. A later declaration of a name is
walked from itself, since its name finds the first one. -/
def allInterfaces (r : Registry) (units : List SourceUnit) (unit index : Nat) (d : TypeDecl)
    (memo : Memo) : Except LoadError (List NamedType × Memo) :=
  if (r.slot? d.name).any fun slot => slot.unit = unit ∧ slot.index = index then
    inheritedByName r units [] d.name memo
  else collect r units [] [] d.ancestors memo

/-- Finds the transitive interfaces of a declaration. An enum has none. -/
def findDeclaration (r : Registry) (units : List SourceUnit) (unit index : Nat) :
    Declaration → Memo → Except LoadError (List NamedType × Memo)
  | .enum _, memo => .ok ([], memo)
  | .type d, memo => allInterfaces r units unit index d memo

/-- Finds the transitive interfaces of the declarations of one unit, the first of which stands at
position `index`. -/
def findDeclarations (r : Registry) (units : List SourceUnit) (unit index : Nat) :
    List Declaration → Memo → Except LoadError (List (List NamedType) × Memo)
  | [], memo => .ok ([], memo)
  | d :: rest, memo => do
    let (types, memo) ← findDeclaration r units unit index d memo
    let (found, memo) ← findDeclarations r units unit (index + 1) rest memo
    .ok (types :: found, memo)

/-- Finds the transitive interfaces of units, the first of which has position `unit`, as parts of
all the units. -/
def findFrom (r : Registry) (units : List SourceUnit) (unit : Nat) :
    List SourceUnit → Memo → Except LoadError (List (List (List NamedType)))
  | [], _ => .ok []
  | u :: rest, memo => do
    let (found, memo) ← findDeclarations r units unit 0 u.declarations memo
    let later ← findFrom r units (unit + 1) rest memo
    .ok (found :: later)

/-- Links all units: finds the transitive interfaces of every declaration, and then writes them. -/
def link (r : Registry) (units : List SourceUnit) : Except LoadError (List SourceUnit) := do
  let found ← findFrom r units 0 units []
  .ok (List.zipWith SourceUnit.withInterfaces units found)

end Inheritance

end DeclGen
