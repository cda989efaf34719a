import DeclGen.SourceType.Basic
import Mathlib.Data.List.Basic

/-!
# The parts of a type

A type is a finite tree: a named type has type arguments and, if it is a library type, interfaces,
and these are types again. Its *parts* (`DeclGen.SourceType.HasPart`) are the named types that occur
in it at any depth, and what is said of types at every depth is said of their parts
(`DeclGen.SourceType.Everywhere`).

Among the parts are the *type parameters* that a type mentions, and they are what substitution
replaces (`DeclGen.SourceType.subst`). A type that mentions none of the parameters that are replaced
is left as it is (`DeclGen.SourceType.subst_eq_self`).
-/

namespace DeclGen

namespace SourceType

/-- The named types that occur in a type, at any depth. -/
inductive HasPart (q : NamedType) : SourceType → Prop
  /-- A named type occurs in itself. -/
  | self : HasPart q (.named q)
  /-- What occurs in the elements occurs in the array. -/
  | element {t : SourceType} : HasPart q t → HasPart q (.array t)
  /-- What occurs in a type argument occurs in the type. -/
  | arg {t : NamedType} {s : SourceType} : s ∈ t.args → HasPart q s → HasPart q (.named t)
  /-- What occurs in an interface occurs in the type. -/
  | interface {t : NamedType} {s : SourceType} :
      s ∈ t.interfaces → HasPart q s → HasPart q (.named t)

/-! ### Properties at every depth -/

/-- Every part of a type has some property. -/
def Everywhere (P : NamedType → Prop) (t : SourceType) : Prop :=
  ∀ q, HasPart q t → P q

section Everywhere

variable {P : NamedType → Prop}

theorem Everywhere.mono {Q : NamedType → Prop} {t : SourceType} (h : Everywhere P t)
    (hsub : ∀ q, P q → Q q) : Everywhere Q t :=
  fun q hq => hsub q (h q hq)

theorem Everywhere.array {t : SourceType} (h : Everywhere P t) : Everywhere P (.array t) := by
  rintro q (_ | hq)
  exact h q hq

/-- The parts of a named type are itself and those of its arguments and interfaces. -/
theorem Everywhere.named {t : NamedType} (h : P t) (hargs : ∀ s ∈ t.args, Everywhere P s)
    (hinterfaces : ∀ s ∈ t.interfaces, Everywhere P s) : Everywhere P (.named t) := by
  rintro q (_ | _ | ⟨hs, hq⟩ | ⟨hs, hq⟩)
  · exact h
  · exact hargs _ hs q hq
  · exact hinterfaces _ hs q hq

theorem Everywhere.of_mem_args {t : NamedType} {s : SourceType} (h : Everywhere P (.named t))
    (hs : s ∈ t.args) : Everywhere P s :=
  fun q hq => h q (.arg hs hq)

theorem Everywhere.of_mem_interfaces {t : NamedType} {s : SourceType}
    (h : Everywhere P (.named t)) (hs : s ∈ t.interfaces) : Everywhere P s :=
  fun q hq => h q (.interface hs hq)

end Everywhere

/-! ### Type parameters -/

/-- All type parameters in a type have names of some set, and are nothing but names. -/
def ParametersIn (names : String → Prop) (t : SourceType) : Prop :=
  ∀ q, HasPart q t → q.kind = .parameter → q = .external q.name .parameter ∧ names q.name

variable {names : String → Prop}

theorem ParametersIn.mono {names' : String → Prop} {t : SourceType} (h : ParametersIn names t)
    (hsub : ∀ p, names p → names' p) : ParametersIn names' t :=
  Everywhere.mono h fun _ hq hk => (hq hk).imp_right (hsub _)

/-- A type parameter is its own only part. -/
theorem ParametersIn.parameter {p : String} (h : names p) :
    ParametersIn names (.named (.external p .parameter)) :=
  Everywhere.named (fun _ => ⟨rfl, h⟩) nofun nofun

theorem ParametersIn.of_mem_args {t : NamedType} {s : SourceType}
    (h : ParametersIn names (.named t)) (hs : s ∈ t.args) : ParametersIn names s :=
  Everywhere.of_mem_args h hs

/-! ### Substitution -/

mutual

/-- Replaces type parameters by the types that a table has for their names. -/
def subst (table : List (String × SourceType)) : SourceType → SourceType
  | .array t => .array (t.subst table)
  | .named ⟨name, kind, special, args, declared, interfaces⟩ =>
    let t : NamedType :=
      ⟨name, kind, special, substAll table args, declared, substAll table interfaces⟩
    if kind = .parameter then (table.lookup name).getD (.named t) else .named t
termination_by structural t => t

/-- Replaces type parameters in each type of a list. -/
def substAll (table : List (String × SourceType)) : List SourceType → List SourceType
  | [] => []
  | t :: rest => t.subst table :: substAll table rest
termination_by structural ts => ts

end

variable {table : List (String × SourceType)}

mutual

/-- **Substitution leaves what it does not mention**: a type without a parameter that the table has
a type for. -/
theorem subst_eq_self : ∀ t : SourceType,
    (∀ q, HasPart q t → q.kind = .parameter → table.lookup q.name = none) → t.subst table = t
  | .array t, h => by
    rw [subst, subst_eq_self t fun q hq => h q (.element hq)]
  | .named ⟨name, kind, special, args, declared, interfaces⟩, h => by
    have hargs : substAll table args = args :=
      substAll_eq_self args fun s hs q hq => h q (.arg hs hq)
    have hinterfaces : substAll table interfaces = interfaces :=
      substAll_eq_self interfaces fun s hs q hq => h q (.interface hs hq)
    -- Its parts stay, so only the type itself could be replaced.
    rw [subst, hargs, hinterfaces]
    by_cases hk : kind = .parameter
    · have hnone : table.lookup name = none := h _ .self hk
      rw [if_pos hk, hnone, Option.getD_none]
    · rw [if_neg hk]

theorem substAll_eq_self : ∀ ts : List SourceType,
    (∀ t ∈ ts, ∀ q, HasPart q t → q.kind = .parameter → table.lookup q.name = none) →
    substAll table ts = ts
  | [], _ => rfl
  | t :: rest, h => by
    rw [substAll, subst_eq_self t (h t List.mem_cons_self),
      substAll_eq_self rest fun s hs => h s (List.mem_cons_of_mem _ hs)]

end

end SourceType

end DeclGen
