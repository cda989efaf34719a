import DeclGen.SourceType.Special

/-!
# Types as they occur in source declarations

A `SourceType` is a type in the place of a member, a base or an interface, with nothing left to
look up: it is an array, or a *named type* that carries its kind, its special role, its type
arguments, whether it is declared in the units at hand, and, for a library type, its interfaces.

A declared type lists no interfaces of its own: its inheritance is that of its declaration, which
is found by name. So a type is a finite tree even where declarations refer to each other.
-/

namespace DeclGen

/-- What sort of declaration a name stands for. -/
inductive Kind where
  | classType
  | structType
  | interfaceType
  | enumType
  /-- A type parameter of a generic declaration. -/
  | parameter
  deriving DecidableEq, Repr

namespace Kind

/-- Values of classes and interfaces are references. A type parameter is neither a reference nor
a value type. -/
def isReference : Kind → Bool
  | .classType | .interfaceType => true
  | _ => false

/-- The name under which a kind is shown. -/
def label : Kind → String
  | .classType => "Class"
  | .structType => "Struct"
  | .interfaceType => "Interface"
  | .enumType => "Enum"
  | .parameter => "TypeParameter"

end Kind

/-- A named type whose arguments and interfaces are of type `α`. -/
structure NamedTypeOf (α : Type) where
  /-- The declared name, without the number of parameters and without a namespace. -/
  name : String
  kind : Kind
  special : Special := .ordinary
  args : List α := []
  /-- Whether the type is declared in the units at hand. -/
  declared : Bool := false
  /-- The interfaces of a library type, in their listed order. -/
  interfaces : List α := []

/-- A type in the place of a member, a base or an interface. -/
inductive SourceType where
  | array (element : SourceType)
  | named (type : NamedTypeOf SourceType)

/-- A named type with its type arguments applied. -/
abbrev NamedType := NamedTypeOf SourceType

namespace SourceType

/-- The named type, if the type is no array. -/
def asNamed? : SourceType → Option NamedType
  | .named t => some t
  | .array _ => none

/-- Whether values of the type are references: arrays are, and named types as their kind says. -/
def isReference : SourceType → Bool
  | .array _ => true
  | .named t => t.kind.isReference

/-- The type wrapped in `n` arrays. -/
def nest (n : Nat) (t : SourceType) : SourceType :=
  Nat.repeat .array n t

/-! ### Equality is decidable -/

mutual

/-- Equality of types is decided part by part. -/
def decEq : (s t : SourceType) → Decidable (s = t)
  | .array s, .array t =>
    match decEq s t with
    | isTrue h => isTrue (h ▸ rfl)
    | isFalse h => isFalse fun e => by cases e; exact h rfl
  | .array _, .named _ => isFalse nofun
  | .named _, .array _ => isFalse nofun
  | .named ⟨n, k, p, as, d, is⟩, .named ⟨n', k', p', as', d', is'⟩ =>
    if h : n = n' ∧ k = k' ∧ p = p' ∧ d = d' then
      match decEqList as as' with
      | isTrue ha =>
        match decEqList is is' with
        | isTrue hi => isTrue (by obtain ⟨rfl, rfl, rfl, rfl⟩ := h; rw [ha, hi])
        | isFalse hi => isFalse fun e => by cases e; exact hi rfl
      | isFalse ha => isFalse fun e => by cases e; exact ha rfl
    else isFalse fun e => by cases e; exact h ⟨rfl, rfl, rfl, rfl⟩
termination_by structural s => s

/-- Equality of lists of types is decided element by element. -/
def decEqList : (ss ts : List SourceType) → Decidable (ss = ts)
  | [], [] => isTrue rfl
  | [], _ :: _ => isFalse nofun
  | _ :: _, [] => isFalse nofun
  | s :: ss, t :: ts =>
    match decEq s t with
    | isTrue h =>
      match decEqList ss ts with
      | isTrue h' => isTrue (by rw [h, h'])
      | isFalse h' => isFalse fun e => by cases e; exact h' rfl
    | isFalse h => isFalse fun e => by cases e; exact h rfl
termination_by structural ss => ss

end

instance : DecidableEq SourceType := decEq

end SourceType

/-- Named types are equal exactly when they are equal as types. -/
instance : DecidableEq NamedType := fun s t =>
  decidable_of_iff (SourceType.named s = SourceType.named t)
    ⟨fun h => by injection h, fun h => h ▸ rfl⟩

namespace NamedTypeOf

/-- A library type of which nothing more is known. -/
def external (name : String) (kind : Kind) : NamedType := { name, kind }

/-- A type that is declared in the units at hand. -/
def ofDeclared (name : String) (kind : Kind) (args : List SourceType) : NamedType :=
  { name, kind, args, declared := true }

end NamedTypeOf

end DeclGen
