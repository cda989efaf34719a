import DeclGen.Proofs.Resolution.Pending
import DeclGen.Proofs.Resolution.Translation
import Mathlib

/-!
# Substitution of type parameters

A type parameter stands for a type that is not known yet. Which one it is makes no difference to
resolution: parameters are looked up by their names, and what is found is handed on unseen. So it is
the same whether the types are put in for the parameters before a reference is resolved or after it
(`DeclGen.Names.resolve_substitute`), and if it cannot be resolved, the error is the same too.

A catalog entry is an instance of this. Its interface list is written with the entry's own
parameters, which are bound to the arguments of a reference. The types so made are those of the
entry *in general*, where the parameters stand for themselves
(`DeclGen.Names.genericInterfaces`), with the arguments put in at every depth. It does not matter
that other entries on the way, or the declaration that refers to the entry, may have parameters of
the same names. All arguments are put in at once, so a parameter that occurs in an argument stays
what it is; and none but those is left in the end.
-/

namespace DeclGen

open Catalog (Key Entry)

/-- A type parameter, which is no declared type. -/
def NamedTypeOf.IsParameter (t : NamedType) : Prop :=
  t.kind = .parameter ∧ t.declared = false

instance (t : NamedType) : Decidable t.IsParameter :=
  inferInstanceAs (Decidable (t.kind = .parameter ∧ t.declared = false))

/-- **A substitution** says which type is put in for a type parameter. A parameter of which it says
nothing stays. -/
abbrev Substitution := NamedType → Option SourceType

/-- The substitution that puts in for a type parameter what its name stands for in a scope. -/
def Scope.substitution (scope : Scope) : Substitution :=
  fun t => scope.lookup t.name

namespace SourceType

/-- The type parameter of a name. -/
def parameter (name : String) : SourceType :=
  .named (.external name .parameter)

mutual

/-- Puts types in for type parameters, at every depth. -/
def substitute (σ : Substitution) : SourceType → SourceType
  | .array t => .array (t.substitute σ)
  | .named ⟨name, kind, special, args, declared, interfaces⟩ =>
    let t : NamedType := ⟨name, kind, special, args, declared, interfaces⟩
    (if t.IsParameter then σ t else none).getD
      (.named ⟨name, kind, special, substituteAll σ args, declared, substituteAll σ interfaces⟩)
termination_by structural t => t

/-- Puts types in for type parameters in each type of a list. -/
def substituteAll (σ : Substitution) : List SourceType → List SourceType
  | [] => []
  | t :: rest => t.substitute σ :: substituteAll σ rest
termination_by structural ts => ts

end

variable (σ : Substitution)

theorem substituteAll_eq_map (ts : List SourceType) :
    substituteAll σ ts = ts.map (substitute σ) := by
  induction ts with
  | nil => rfl
  | cons t ts ih => rw [substituteAll, ih, List.map_cons]

/-- In a type that is no parameter itself, types are put in part by part. -/
theorem substitute_named {t : NamedType} (h : ¬t.IsParameter) :
    (named t).substitute σ = .named (t.mapParts (substitute σ)) := by
  obtain ⟨name, kind, special, args, declared, interfaces⟩ := t
  rw [substitute, if_neg h, Option.getD_none, substituteAll_eq_map, substituteAll_eq_map]
  rfl

theorem substitute_parameter (name : String) :
    (parameter name).substitute σ = (σ (.external name .parameter)).getD (parameter name) := by
  rfl

end SourceType

open SourceType (substitute HasPart)

/-! ### Arguments for parameters -/

namespace Scope

theorem lookup_ofParameters (parameters : List String) (name : String) :
    (ofParameters parameters).lookup name =
      if name ∈ parameters then some (.parameter name) else none := by
  induction parameters with
  | nil => rfl
  | cons p rest ih =>
    rw [ofParameters, List.map_cons, List.lookup_cons]
    by_cases hname : name = p
    · rw [beq_iff_eq.mpr hname, if_pos (hname ▸ List.mem_cons_self), hname]
      rfl
    · have hrest : name ∈ p :: rest ↔ name ∈ rest := by simp [hname]
      rw [beq_false_of_ne hname, if_congr hrest rfl rfl, ← ih]
      rfl

/-- **To bind parameters to arguments is to put the arguments in** for parameters that stand for
themselves. Of two parameters of one name the later counts, for both. -/
theorem translated_ofParameters {parameters : List String} {args : List SourceType}
    (h : args.length = parameters.length) :
    Translated (substitute (bind parameters args).substitution) (ofParameters parameters)
      (bind parameters args) := by
  intro name
  have hbinds : (bind parameters args).binds name = decide (name ∈ parameters) :=
    congrFun (binds_bind h) name
  rw [lookup_ofParameters]
  cases hlookup : (bind parameters args).lookup name with
  | none =>
    rw [binds, hlookup] at hbinds
    rw [if_neg (of_decide_eq_false hbinds.symm)]
    rfl
  | some a =>
    rw [binds, hlookup] at hbinds
    have hname : (bind parameters args).substitution (.external name .parameter) = some a := hlookup
    rw [if_pos (of_decide_eq_true hbinds.symm), Option.map_some, SourceType.substitute_parameter,
      hname, Option.getD_some]

end Scope

namespace Names

/-- **A substitution is a translation**: it goes through all types that resolution makes. -/
theorem translates_substitute (n : Names) (σ : Substitution) : n.Translates n (substitute σ) where
  catalog := rfl
  array _ := rfl
  library _ _ hkind := SourceType.substitute_named σ fun h => hkind h.1
  declared name args := by
    unfold declared?
    cases n.registry.kind? name with
    | none => rfl
    | some kind =>
      have hdeclared : ¬(NamedTypeOf.ofDeclared name kind args).IsParameter := fun h => nomatch h.2
      rw [Option.map_some, Option.map_some, Option.map_some,
        SourceType.substitute_named σ hdeclared]
      rfl

/-- The interfaces of a catalog entry **in general**: its parameters stand for themselves. An entry
that is pending shows none. -/
def genericInterfaces (n : Names) (pending : List Key) (e : Entry) :
    Except LoadError (List SourceType) :=
  if pending.contains e.key then .ok []
  else n.resolveInterfaces (e.key :: pending) (.ofParameters e.parameters) e.interfaces

variable {n : Names} {pending : List Key} {name : String} {args : List SourceType} {e : Entry}

/-- **A library type is an instance of its entry**: the arguments are put in for the parameters. -/
theorem libraryType_eq_instance (he : n.catalog.find? (name, args.length) = some e) :
    n.libraryType pending name args =
      (n.genericInterfaces pending e).map fun generic =>
        { shallowType e name args with
          interfaces := generic.map (substitute (Scope.bind e.parameters args).substitution) } := by
  have hkey := Catalog.key_of_find? he
  have hlength : args.length = e.parameters.length := (congrArg Prod.snd hkey).symm
  unfold genericInterfaces
  rw [hkey]
  by_cases hpending : (name, args.length) ∈ pending
  · have hcontains : pending.contains (name, args.length) = true :=
      List.contains_iff_mem.mpr hpending
    rw [libraryType_pending he hpending, if_pos hcontains]
    rfl
  · have hinterfaces :=
      (resolution_translate (n.translates_substitute (Scope.bind e.parameters args).substitution)
        ).2.2.2 ((name, args.length) :: pending) (.ofParameters e.parameters) e.interfaces
        (.bind e.parameters args) (Scope.translated_ofParameters hlength)
    have hopen : ¬pending.contains (name, args.length) = true :=
      fun h => hpending (List.contains_iff_mem.mp h)
    rw [libraryType_open he hpending, if_neg hopen, hinterfaces]
    cases n.resolveInterfaces ((name, args.length) :: pending) (.ofParameters e.parameters)
      e.interfaces <;> rfl

/-- **No parameter is left but those of the arguments.** -/
theorem parameter_of_libraryType {l : NamedType} (h : n.libraryType pending name args = .ok l)
    {q : NamedType} (hq : HasPart q (.named l)) (hparameter : q.IsParameter) :
    ∃ a ∈ args, HasPart q a := by
  have hmakes : n.Makes fun q => q.IsParameter → ∃ a ∈ args, HasPart q a :=
    { declared := fun _ _ hp => nomatch hp.2
      builtin := fun hb hp => absurd hp.1 (NamedTypeOf.kind_builtin_ne_parameter hb).1
      library := fun _ hkind _ hp => absurd hp.1 hkind }
  obtain ⟨-, -, hkind, hargs, hinterfaces⟩ :=
    (everywhere_of_resolution hmakes).2.2.1 pending name args
      (fun a ha q hq _ => ⟨a, ha, hq⟩) l h
  exact SourceType.Everywhere.named (fun hp => absurd hp.1 hkind) hargs hinterfaces q hq hparameter

/-- **Resolution commutes with substitution**, for every catalog, every set of declared names and
all pending keys.

A reference resolves in a scope in which types have been put in for parameters to the type that it
resolves to without that, with the types put in at every depth; or it fails with the same error. So
the type of a catalog entry is that of the entry in general with the arguments put in for its
parameters, all at once, and the only parameters in it are those that occur in the arguments. -/
theorem resolve_substitute (n : Names) (pending : List Key) :
    (∀ (σ : Substitution) (scope : Scope) (r : Reference),
      n.resolve pending (scope.translate (substitute σ)) r =
        (n.resolve pending scope r).map (substitute σ)) ∧
    ∀ (e : Entry) (name : String) (args : List SourceType),
      n.catalog.find? (name, args.length) = some e →
        n.libraryType pending name args =
          ((n.genericInterfaces pending e).map fun generic =>
            { shallowType e name args with
              interfaces :=
                generic.map (substitute (Scope.bind e.parameters args).substitution) }) ∧
        ∀ l, n.libraryType pending name args = .ok l → ∀ q, HasPart q (.named l) →
          q.IsParameter → ∃ a ∈ args, HasPart q a :=
  ⟨fun σ => resolve_translate (n.translates_substitute σ) pending,
    fun _ _ _ he => ⟨libraryType_eq_instance he, fun _ hl _ => parameter_of_libraryType hl⟩⟩

/-- A pair, whose parts are exchanged in its interface. The interface has parameters of the same
names. -/
def pairEntry : Entry :=
  { name := "Pair", parameters := ["A", "B"]
    interfaces := [.named "ISwapped" [.simple "B", .param "A"] none none none] }

/-- Only pairs and their interface are in the catalog, and nothing is declared. -/
def pairNames : Names :=
  { registry := {}
    catalog :=
      { entries :=
          [pairEntry,
           { name := "ISwapped", kind := .interfaceType, parameters := ["A", "B"]
             interfaces := [.named "IFirst" [.simple "A"] none none none] }] } }

/-- The interface of a pair, whose first argument is the second part of the pair. -/
def swapped (first second : SourceType) : SourceType :=
  .named
    { name := "ISwapped", kind := .interfaceType, args := [second, first]
      interfaces := [.named { name := "IFirst", kind := .classType, args := [second] }] }

theorem resolve_substitute_pair :
    pairNames.catalog.find? ("Pair", 2) = some pairEntry ∧
      pairNames.genericInterfaces [] pairEntry =
        .ok [swapped (.parameter "A") (.parameter "B")] ∧
      pairNames.libraryType [] "Pair" [.parameter "B", .array (.parameter "A")] =
        .ok { shallowType pairEntry "Pair" [.parameter "B", .array (.parameter "A")] with
          interfaces := [swapped (.parameter "B") (.array (.parameter "A"))] } := by
  have hgeneric : pairNames.genericInterfaces [] pairEntry =
      .ok [swapped (.parameter "A") (.parameter "B")] := by cbv
  obtain ⟨hinstance, -⟩ := (resolve_substitute pairNames []).2 pairEntry "Pair"
    [.parameter "B", .array (.parameter "A")] rfl
  refine ⟨rfl, hgeneric, ?_⟩
  rw [hinstance, hgeneric]
  rfl

end Names

end DeclGen
