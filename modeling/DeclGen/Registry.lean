import DeclGen.Declaration

/-!
# Declared names

A `Registry` knows the declared names: for each the kind and the place of its *first* declaration,
given by the position of the unit and the position in it. Later declarations of a name are not
found by name.
-/

namespace DeclGen

/-- Where a name is declared, and as what. -/
structure Slot where
  kind : Kind
  unit : Nat
  index : Nat
  deriving DecidableEq

/-- The declared names, each with its first declaration, in order of registration. -/
structure Registry where
  slots : List (String × Slot) := []

namespace Registry

/-- What is known of a name. -/
def slot? (r : Registry) (name : String) : Option Slot :=
  r.slots.lookup name

/-- Whether a name is declared. -/
def contains (r : Registry) (name : String) : Bool :=
  (r.slot? name).isSome

/-- The kind of the first declaration of a name. -/
def kind? (r : Registry) (name : String) : Option Kind :=
  (r.slot? name).map (·.kind)

/-- The declared names in order of registration. -/
def names (r : Registry) : List String :=
  r.slots.map (·.1)

/-- The number of declared names. -/
def size (r : Registry) : Nat :=
  r.slots.length

/-- Registers a declaration, unless its name is declared already. -/
def insert (r : Registry) (name : String) (slot : Slot) : Registry :=
  if r.contains name then r else { slots := r.slots ++ [(name, slot)] }

/-- Registers the declarations of one unit, the first of which stands at position `index`. -/
def insertUnit (r : Registry) (unit index : Nat) : List (String × Kind) → Registry
  | [] => r
  | (name, kind) :: rest => (r.insert name ⟨kind, unit, index⟩).insertUnit unit (index + 1) rest

/-- Registers the declarations of several units, the first of which has position `unit`. -/
def insertUnits (r : Registry) (unit : Nat) : List (List (String × Kind)) → Registry
  | [] => r
  | declarations :: rest => (r.insertUnit unit 0 declarations).insertUnits (unit + 1) rest

/-- The registry of the given names and kinds, listed by unit. -/
def ofNames (units : List (List (String × Kind))) : Registry :=
  ({} : Registry).insertUnits 0 units

/-- The names in a list that stand in it, or in `seen`, before. -/
def repeatedFrom (seen : List String) : List String → List String
  | [] => []
  | name :: rest =>
    if name ∈ seen then name :: repeatedFrom seen rest else repeatedFrom (name :: seen) rest

/-- The names of the declarations that are not registered, as their names are declared before. -/
def repeated (units : List (List (String × Kind))) : List String :=
  repeatedFrom [] (units.flatten.map (·.1))

/-- The names and kinds that units declare, listed by unit. -/
def namesOf (units : List SourceUnit) : List (List (String × Kind)) :=
  units.map fun u => u.declarations.map fun d => (d.name, d.kind)

/-- The registry of the units' declarations. -/
def ofUnits (units : List SourceUnit) : Registry :=
  ofNames (namesOf units)

/-- The declaration that a name is registered for. -/
def find? (r : Registry) (units : List SourceUnit) (name : String) : Option Declaration := do
  let slot ← r.slot? name
  let unit ← units[slot.unit]?
  unit.declarations[slot.index]?

/-- The type declaration that a name is registered for; an enum is none. -/
def findType? (r : Registry) (units : List SourceUnit) (name : String) : Option TypeDecl :=
  match r.find? units name with
  | some (.type d) => some d
  | _ => none

end Registry

end DeclGen
