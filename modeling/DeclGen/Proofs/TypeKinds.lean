import DeclGen.Block
import DeclGen.Proofs.TypeParts
import Mathlib.Logic.Function.Basic

/-!
# The kinds of declared types

A declared type carries the kind that its name is declared as, wherever it occurs: as an array's
element, as a type argument, as an interface. `DeclGen.SourceType.rekind` changes these kinds, name
by name and at every depth, and leaves library types and type parameters as they are.

Kinds have little influence. The shape of a type does not depend on them, since no rule of sorting
asks for one (`DeclGen.SourceType.shape_rekind`), and with the shapes neither do index signatures.
Whether values of a type are references does depend on its kind, but only the type's own: not that
of its elements or arguments (`DeclGen.SourceType.exists_of_isReference_rekind_ne`).
-/

namespace DeclGen

namespace SourceType

mutual

/-- Changes the kinds of declared types, at every depth. -/
def rekind (κ : String → Kind → Kind) : SourceType → SourceType
  | .array t => .array (t.rekind κ)
  | .named ⟨name, kind, special, args, declared, interfaces⟩ =>
    .named ⟨name, if declared then κ name kind else kind, special, rekindAll κ args, declared,
      rekindAll κ interfaces⟩
termination_by structural t => t

/-- Changes the kinds of declared types in each type of a list. -/
def rekindAll (κ : String → Kind → Kind) : List SourceType → List SourceType
  | [] => []
  | t :: rest => t.rekind κ :: rekindAll κ rest
termination_by structural ts => ts

end

variable {κ : String → Kind → Kind}

theorem rekindAll_eq_map (ts : List SourceType) : rekindAll κ ts = ts.map (rekind κ) := by
  induction ts with
  | nil => rfl
  | cons t ts ih => rw [rekindAll, ih, List.map_cons]

mutual

theorem rekind_rekind (hκ : ∀ name, Function.Involutive (κ name)) :
    ∀ t : SourceType, (t.rekind κ).rekind κ = t
  | .array t => by
    rw [rekind, rekind, rekind_rekind hκ t]
  | .named ⟨name, kind, special, args, declared, interfaces⟩ => by
    rw [rekind, rekind, rekindAll_rekindAll hκ args, rekindAll_rekindAll hκ interfaces]
    cases declared with
    | true => simp only [if_true, hκ name kind]
    | false => rfl

theorem rekindAll_rekindAll (hκ : ∀ name, Function.Involutive (κ name)) :
    ∀ ts : List SourceType, rekindAll κ (rekindAll κ ts) = ts
  | [] => rfl
  | t :: rest => by
    rw [rekindAll, rekindAll, rekind_rekind hκ t, rekindAll_rekindAll hκ rest]

end

/-- **Exchanging kinds confuses no types.** -/
theorem rekind_injective (hκ : ∀ name, Function.Involutive (κ name)) :
    Function.Injective (rekind κ) :=
  Function.Involutive.injective (rekind_rekind hκ)

/-! ### Shapes -/

theorem ofType?_rekind (t : SourceType) : IndexKey.ofType? (t.rekind κ) = IndexKey.ofType? t := by
  cases t <;> rfl

mutual

/-- **The shape of a type does not depend on kinds.** -/
theorem shape_rekind : ∀ t : SourceType, (t.rekind κ).shape = t.shape
  | .array element => by
    rw [rekind, shape, shape, shape_rekind element]
  | .named ⟨name, kind, special, args, declared, interfaces⟩ => by
    rw [rekind, shape, shape, dictionaryShape_rekindAll args, collectionShape_rekindAll args,
      interfaceShape_rekindAll interfaces]

theorem dictionaryShape_rekindAll :
    ∀ args : List SourceType, dictionaryShape (rekindAll κ args) = dictionaryShape args
  | [] => rfl
  | [_] => rfl
  | [key, value] => by
    rw [rekindAll, rekindAll, rekindAll, dictionaryShape, dictionaryShape, ofType?_rekind,
      shape_rekind value]
  | _ :: _ :: _ :: _ => rfl

theorem collectionShape_rekindAll :
    ∀ args : List SourceType, collectionShape (rekindAll κ args) = collectionShape args
  | [] => rfl
  | [element] => by
    rw [rekindAll, rekindAll, collectionShape, collectionShape, shape_rekind element]
  | _ :: _ :: _ => rfl

theorem interfaceShape_rekindAll :
    ∀ interfaces : List SourceType,
      interfaceShape (rekindAll κ interfaces) = interfaceShape interfaces
  | [] => rfl
  | t :: rest => by
    rw [rekindAll, interfaceShape, interfaceShape, shape_rekind t, interfaceShape_rekindAll rest]

end

/-! ### References -/

/-- **Only the kind of the type itself counts** for whether values are references: if the change of
kinds makes a difference, the type is a declared one whose own kind is changed. -/
theorem exists_of_isReference_rekind_ne {t : SourceType}
    (h : (t.rekind κ).isReference ≠ t.isReference) :
    ∃ q : NamedType, t = .named q ∧ q.declared = true ∧ κ q.name q.kind ≠ q.kind := by
  cases t with
  | array t => exact absurd rfl h
  | named q =>
    obtain ⟨name, kind, special, args, declared, interfaces⟩ := q
    cases declared with
    | false => exact absurd rfl h
    | true => exact ⟨_, rfl, rfl, fun hk => h (congrArg Kind.isReference hk)⟩

end SourceType

/-! ### Named types and declarations -/

namespace NamedTypeOf

variable (κ : String → Kind → Kind)

/-- Changes the kinds of declared types in a named type, its own among them. -/
def rekind (t : NamedType) : NamedType :=
  { t with
    kind := if t.declared then κ t.name t.kind else t.kind
    args := t.args.map (SourceType.rekind κ)
    interfaces := t.interfaces.map (SourceType.rekind κ) }

theorem named_rekind (t : NamedType) :
    (SourceType.named t).rekind κ = .named (t.rekind κ) := by
  obtain ⟨name, kind, special, args, declared, interfaces⟩ := t
  rw [SourceType.rekind, SourceType.rekindAll_eq_map, SourceType.rekindAll_eq_map]
  rfl

theorem rekind_injective {κ : String → Kind → Kind} (hκ : ∀ name, Function.Involutive (κ name)) :
    Function.Injective (rekind κ) := by
  intro s t h
  have hnamed : (SourceType.named s).rekind κ = (SourceType.named t).rekind κ := by
    rw [named_rekind, named_rekind, h]
  injection SourceType.rekind_injective hκ hnamed

end NamedTypeOf

namespace IndexSignature

variable (κ : String → Kind → Kind)

theorem dictionaryArgs?_rekind (t : NamedType) :
    dictionaryArgs? (t.rekind κ) =
      (dictionaryArgs? t).map fun e => (e.1.rekind κ, e.2.rekind κ) := by
  obtain ⟨name, kind, special, args, declared, interfaces⟩ := t
  unfold dictionaryArgs? NamedTypeOf.rekind
  rcases args with _ | ⟨key, _ | ⟨value, _ | ⟨_, _⟩⟩⟩ <;> cases special <;> rfl

theorem enumerableArg?_rekind (t : NamedType) :
    enumerableArg? (t.rekind κ) = (enumerableArg? t).map (SourceType.rekind κ) := by
  obtain ⟨name, kind, special, args, declared, interfaces⟩ := t
  unfold enumerableArg? NamedTypeOf.rekind
  rcases args with _ | ⟨element, _ | ⟨_, _⟩⟩ <;> cases special <;> rfl

/-- **An index signature does not depend on kinds.** -/
theorem ofInterfaces?_rekind (interfaces : List NamedType) :
    ofInterfaces? (interfaces.map (NamedTypeOf.rekind κ)) = ofInterfaces? interfaces := by
  have hdictionary : (interfaces.map (NamedTypeOf.rekind κ)).findSome? dictionaryArgs? =
      (interfaces.findSome? dictionaryArgs?).map fun e => (e.1.rekind κ, e.2.rekind κ) := by
    rw [List.findSome?_map, List.map_findSome?]
    exact congrArg (List.findSome? · interfaces) (funext (dictionaryArgs?_rekind κ))
  have henumerable : (interfaces.map (NamedTypeOf.rekind κ)).findSome? enumerableArg? =
      (interfaces.findSome? enumerableArg?).map (SourceType.rekind κ) := by
    rw [List.findSome?_map, List.map_findSome?]
    exact congrArg (List.findSome? · interfaces) (funext (enumerableArg?_rekind κ))
  unfold ofInterfaces?
  rw [hdictionary, henumerable]
  cases interfaces.findSome? dictionaryArgs? with
  | some e => simp only [Option.map_some, SourceType.ofType?_rekind, SourceType.shape_rekind]
  | none =>
    cases interfaces.findSome? enumerableArg? with
    | some element => simp only [Option.map_none, Option.map_some, SourceType.shape_rekind]
    | none => rfl

end IndexSignature

namespace TypeDecl

variable (κ : String → Kind → Kind)

/-- Declares a type as another kind, and changes the kinds of the declared types in it. -/
def rekind (kind : Kind) (d : TypeDecl) : TypeDecl :=
  { name := d.name, kind
    base := d.base.map (NamedTypeOf.rekind κ)
    interfaces := d.interfaces.map (NamedTypeOf.rekind κ)
    allInterfaces := d.allInterfaces.map (NamedTypeOf.rekind κ)
    members := d.members.map fun m => { m with type := m.type.rekind κ } }

variable (kind : Kind) (d : TypeDecl)

theorem parent?_rekind : (d.rekind κ kind).parent? = d.parent? := by
  unfold parent? rekind
  cases d.base with
  | none => rfl
  | some t => cases hdecl : t.declared <;> simp [Option.filter_some, NamedTypeOf.rekind, hdecl]

theorem signatureInterfaces_rekind :
    (d.rekind κ kind).signatureInterfaces =
      d.signatureInterfaces.map (NamedTypeOf.rekind κ) := by
  have hbase : (d.rekind κ kind).hasDeclaredBase = d.hasDeclaredBase := by
    unfold hasDeclaredBase rekind
    cases d.base <;> rfl
  unfold signatureInterfaces
  rw [hbase]
  split <;> rfl

theorem indexSignature?_rekind : (d.rekind κ kind).indexSignature? = d.indexSignature? := by
  rw [indexSignature?, signatureInterfaces_rekind, IndexSignature.ofInterfaces?_rekind,
    indexSignature?]

end TypeDecl

/-- A declaration and the same one with the **kinds of declared types changed**. What a type is
declared as may be any kind. -/
inductive Declaration.Rekinded (κ : String → Kind → Kind) : Declaration → Declaration → Prop
  /-- An enum has no kind to change. -/
  | enum (d : EnumDecl) : Rekinded κ (.enum d) (.enum d)
  | type (kind : Kind) (d : TypeDecl) : Rekinded κ (.type d) (.type (d.rekind κ kind))

theorem Declaration.Rekinded.name_eq {κ : String → Kind → Kind} {d d' : Declaration}
    (h : d.Rekinded κ d') : d'.name = d.name := by
  cases h <;> rfl

/-- A unit and the same one with the kinds of declared types changed. -/
def SourceUnit.Rekinded (κ : String → Kind → Kind) (u u' : SourceUnit) : Prop :=
  u'.name = u.name ∧ List.Forall₂ (Declaration.Rekinded κ) u.declarations u'.declarations

end DeclGen
