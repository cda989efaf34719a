import DeclGen.Proofs.OwnShape
import Mathlib

/-!
# Sorting by interfaces is a search

A library type that no rule recognises has the shape of one of its interfaces. Which one is decided
by sorting the interfaces one after the other, each of which may again be sorted by its own. This is
a depth-first search. The types that it meets are listed by `DeclGen.SourceType.metAll`: each
interface in its place, and right behind it what it leads to, if it is not recognised itself. The
first recognised type in this list decides, save that the universal base type is passed over, since
it shows nothing (`DeclGen.NamedTypeOf.shape_eq_first_met`).

So a list of interfaces may be rewritten without any effect on the shape as long as the search meets
the same types that show something, in the same order of first meeting.
-/

namespace DeclGen

open Relation (EqvGen)

/-! ### Recognised types -/

/-- The roles of primitive types. -/
def Special.isPrimitive : Special → Bool
  | .object | .boolean | .string => true
  | special => special.isNumeric

/-- The roles that have a shape whatever the arguments are. -/
theorem Shape.isSome_ofSpecial? (special : Special) :
    (ofSpecial? special).isSome = (special.isPrimitive || special = .enumerable) := by
  cases special <;> rfl

/-- The universal base type is the one role that shows nothing. -/
theorem Shape.isAny_of_ofSpecial? {special : Special} {s : Shape}
    (h : ofSpecial? special = some s) : s.isAny = decide (special = .object) := by
  cases special <;> cases h <;> rfl

namespace SourceType

/-- Whether type arguments are a key and a value: there are two of them, and the first can be an
index key. -/
def areKeyAndValue : List SourceType → Bool
  | [key, _] => (IndexKey.ofType? key).isSome
  | _ => false

theorem isSome_dictionaryShape (args : List SourceType) :
    (dictionaryShape args).isSome = areKeyAndValue args := by
  rcases args with _ | ⟨key, _ | ⟨value, _ | ⟨_, _⟩⟩⟩
  · rfl
  · rfl
  · exact Option.isSome_map
  · rfl

theorem isSome_collectionShape (args : List SourceType) :
    (collectionShape args).isSome = decide (args.length = 1) := by
  rcases args with _ | ⟨element, _ | ⟨_, _⟩⟩
  · rfl
  · rfl
  · simp [collectionShape]

end SourceType

namespace NamedTypeOf

/-- Whether a named type is **recognised**: as a dictionary with an index key, by a primitive role
or that of an enumerable, as a collection of one argument, or as a declared type. -/
def isRecognised (t : NamedType) : Bool :=
  (t.special = .genericDictionary && SourceType.areKeyAndValue t.args) ||
    t.special.isPrimitive || t.special = .enumerable ||
    (t.special.isCollection && t.args.length = 1) || t.declared

variable {t : NamedType}

/-- A type is recognised if it has a shape of its own, or is declared. -/
theorem isRecognised_eq (t : NamedType) : t.isRecognised = (t.ownShape?.isSome || t.declared) := by
  have hdictionary : (if t.special = .genericDictionary then SourceType.dictionaryShape t.args
      else none).isSome =
        (t.special = .genericDictionary && SourceType.areKeyAndValue t.args) := by
    by_cases h : t.special = .genericDictionary
    · simp [h, SourceType.isSome_dictionaryShape]
    · simp [h]
  have hcollection : (if t.special.isCollection then SourceType.collectionShape t.args
      else none).isSome = (t.special.isCollection && t.args.length = 1) := by
    by_cases h : t.special.isCollection
    · simp [h, SourceType.isSome_collectionShape]
    · simp [h]
  rw [isRecognised, ownShape?, Option.isSome_or, Option.isSome_or, hdictionary, hcollection,
    Shape.isSome_ofSpecial?]
  simp only [Bool.or_assoc]

/-- An unrecognised type has the shape of its interfaces. -/
theorem shape_of_unrecognised (h : t.isRecognised = false) :
    t.shape = SourceType.interfaceShape t.interfaces := by
  rw [isRecognised_eq, Bool.or_eq_false_iff, Option.isSome_eq_false_iff, Option.isNone_iff_eq_none]
    at h
  rw [shape_eq, h.1, h.2]
  rfl

/-- What is recognised without a shape of its own is declared. -/
theorem declared_of_recognised (h : t.isRecognised = true) (hown : t.ownShape? = none) :
    t.declared = true := by
  rw [isRecognised_eq, hown] at h
  exact h

/-- The interfaces of a recognised type do not count. -/
theorem shape_of_recognised (h : t.isRecognised = true) (interfaces : List SourceType) :
    shape { t with interfaces } = t.shape := by
  rw [shape_eq, shape_eq]
  change t.ownShape?.getD _ = t.ownShape?.getD _
  cases hown : t.ownShape? with
  | some s => rfl
  | none =>
    simp only [declared_of_recognised h hown]
    rfl

/-- The universal base type shows nothing. -/
theorem shape_of_object (h : t.special = .object) : t.shape = .primitive .any := by
  rw [shape_eq, ownShape?, h]
  rfl

/-- Any other role that makes a shape makes one that shows something. -/
theorem isAny_of_ownShape? {s : Shape} (hobject : t.special ≠ .object)
    (h : t.ownShape? = some s) : s.isAny = false := by
  rcases Option.or_eq_some_iff.mp h with hdictionary | ⟨-, h⟩
  · split at hdictionary
    · obtain ⟨_, _, -, _, -, rfl⟩ := SourceType.args_of_dictionaryShape hdictionary
      rfl
    · cases hdictionary
  rcases Option.or_eq_some_iff.mp h with hspecial | ⟨-, hcollection⟩
  · rw [Shape.isAny_of_ofSpecial? hspecial]
    exact decide_eq_false hobject
  · split at hcollection
    · obtain ⟨_, -, rfl⟩ := SourceType.args_of_collectionShape hcollection
      rfl
    · cases hcollection

/-- **A recognised type shows something**, unless it is the universal base type. -/
theorem isAny_of_recognised (h : t.isRecognised = true) :
    t.shape.isAny = decide (t.special = .object) := by
  by_cases hobject : t.special = .object
  · rw [shape_of_object hobject, decide_eq_true hobject]
    rfl
  · rw [decide_eq_false hobject, shape_eq]
    cases hown : t.ownShape? with
    | some s => exact isAny_of_ownShape? hobject hown
    | none =>
      rw [declared_of_recognised h hown]
      rfl

end NamedTypeOf

/-! ### The search -/

namespace SourceType

/-- Whether a type is recognised. Arrays are. -/
def isRecognised : SourceType → Bool
  | .array _ => true
  | .named t => t.isRecognised

/-- Whether a type is the universal base type. -/
def isObject : SourceType → Bool
  | .array _ => false
  | .named t => t.special = .object

mutual

/-- The types that a search **meets** from a type, itself first: it goes on to the interfaces
exactly if the type is not recognised. -/
def met : SourceType → List SourceType
  | .array element => [.array element]
  | .named ⟨name, kind, special, args, declared, interfaces⟩ =>
    .named ⟨name, kind, special, args, declared, interfaces⟩ ::
      if NamedTypeOf.isRecognised ⟨name, kind, special, args, declared, interfaces⟩ then []
      else metAll interfaces
termination_by structural t => t

/-- The types that a search meets in a list, from one after the other. -/
def metAll : List SourceType → List SourceType
  | [] => []
  | t :: rest => t.met ++ metAll rest
termination_by structural ts => ts

end

/-- The shape of a type, if it shows something. -/
def shown? (t : SourceType) : Option Shape :=
  if t.shape.isAny then none else some t.shape

theorem met_named (t : NamedType) :
    (named t).met = .named t :: if t.isRecognised then [] else metAll t.interfaces := by
  obtain ⟨name, kind, special, args, declared, interfaces⟩ := t
  rw [met]

/-- Interfaces have the shape of the first one that shows something. -/
theorem interfaceShape_eq (ts : List SourceType) :
    interfaceShape ts = (ts.findSome? shown?).getD .fallback := by
  induction ts with
  | nil => rfl
  | cons t rest ih =>
    rw [interfaceShape, List.findSome?_cons, shown?]
    cases t.shape.isAny with
    | true => exact ih
    | false => rfl

theorem isAny_of_shown? {t : SourceType} {s : Shape} (h : t.shown? = some s) : s.isAny = false := by
  unfold shown? at h
  split at h
  · cases h
  · next hany =>
    cases h
    exact Bool.eq_false_iff.mpr hany

/-- **An unrecognised type shows what its interfaces show**: the first of them that shows
something. -/
theorem shown?_of_unrecognised {t : NamedType} (h : t.isRecognised = false) :
    (named t).shown? = t.interfaces.findSome? shown? := by
  have hshape : (named t).shape = (t.interfaces.findSome? shown?).getD .fallback :=
    (NamedTypeOf.shape_of_unrecognised h).trans (interfaceShape_eq t.interfaces)
  rw [shown?, hshape]
  cases hfound : t.interfaces.findSome? shown? with
  | none => rfl
  | some s =>
    obtain ⟨i, _, hi⟩ := List.exists_of_findSome?_eq_some hfound
    rw [Option.getD_some, isAny_of_shown? hi]
    rfl

theorem shown?_of_recognised {t : SourceType} (h : t.isRecognised = true) :
    t.shown? = if t.isObject then none else some t.shape := by
  cases t with
  | array element =>
    rw [shown?, shape]
    rfl
  | named t =>
    have hany : (named t).shape.isAny = decide (t.special = .object) :=
      NamedTypeOf.isAny_of_recognised h
    rw [shown?, hany, isObject]

/-! ### What the search finds -/

mutual

/-- **Induction along interfaces**: what holds of arrays, and of a named type whenever it holds of
its interfaces, holds of all types. -/
theorem induction_interfaces {motive : SourceType → Prop}
    (array : ∀ element, motive (.array element))
    (named : ∀ t : NamedType, (∀ i ∈ t.interfaces, motive i) → motive (.named t)) :
    ∀ t : SourceType, motive t
  | .array element => array element
  | .named ⟨_, _, _, _, _, interfaces⟩ => named _ (forall_mem_of_induction array named interfaces)

theorem forall_mem_of_induction {motive : SourceType → Prop}
    (array : ∀ element, motive (.array element))
    (named : ∀ t : NamedType, (∀ i ∈ t.interfaces, motive i) → motive (.named t)) :
    ∀ ts : List SourceType, ∀ t ∈ ts, motive t
  | [] => List.forall_mem_nil _
  | t :: rest => List.forall_mem_cons.mpr
      ⟨induction_interfaces array named t, forall_mem_of_induction array named rest⟩

end

/-- In a list, the types are searched one after the other. -/
theorem shape_first_metAll {ts : List SourceType}
    (h : ∀ t ∈ ts, (t.met.find? fun s => s.isRecognised && !s.isObject).map shape = t.shown?) :
    ((metAll ts).find? fun s => s.isRecognised && !s.isObject).map shape =
      ts.findSome? shown? := by
  induction ts with
  | nil => rfl
  | cons t rest ih =>
    obtain ⟨ht, hrest⟩ := List.forall_mem_cons.mp h
    rw [metAll, List.find?_append, Option.map_or, ht, ih hrest, List.findSome?_cons]
    cases t.shown? <;> rfl

/-- **The first recognised type that is met decides** what a type shows. -/
theorem shape_first_met (t : SourceType) :
    (t.met.find? fun s => s.isRecognised && !s.isObject).map shape = t.shown? := by
  induction t using induction_interfaces with
  | array element =>
    rw [met, shown?_of_recognised rfl]
    rfl
  | named t ih =>
    rw [met_named, List.find?_cons]
    cases h : t.isRecognised with
    | true =>
      rw [shown?_of_recognised (t := .named t) h, show (named t).isRecognised = true from h]
      cases (named t).isObject <;> rfl
    | false =>
      rw [shown?_of_unrecognised h, show (named t).isRecognised = false from h]
      exact shape_first_metAll ih

/-- What is met from a list is met from one of its types. -/
theorem exists_of_mem_metAll {s : SourceType} {ts : List SourceType} (h : s ∈ metAll ts) :
    ∃ t ∈ ts, s ∈ t.met := by
  induction ts with
  | nil => cases h
  | cons t rest ih =>
    rcases List.mem_append.mp h with h | h
    · exact ⟨t, .head _, h⟩
    · obtain ⟨u, hu, hs⟩ := ih h
      exact ⟨u, .tail _ hu, hs⟩

/-- What shows something and is met from a type makes that type show something. -/
theorem isSome_shown?_of_mem_met {s : SourceType} (hs : s.shown?.isSome) (t : SourceType)
    (h : s ∈ t.met) : t.shown?.isSome := by
  induction t using induction_interfaces with
  | array element => exact List.mem_singleton.mp h ▸ hs
  | named t ih =>
    rw [met_named] at h
    rcases List.mem_cons.mp h with rfl | h
    · exact hs
    cases hrecognised : t.isRecognised with
    | true =>
      rw [hrecognised] at h
      cases h
    | false =>
      rw [hrecognised] at h
      obtain ⟨i, hi, hmet⟩ := exists_of_mem_metAll h
      rw [shown?_of_unrecognised hrecognised]
      exact List.findSome?_isSome_iff.mpr ⟨i, hi, ih i hi hmet⟩

/-! ### Interfaces rewritten -/

/-- One step that **simplifies** the interfaces in a list, where others stand before the list and
are searched first. -/
inductive Simplifies : List SourceType → List SourceType → List SourceType → Prop
  /-- An unrecognised interface gives its place to its own interfaces. -/
  | opened {before rest : List SourceType} {t : NamedType} : t.isRecognised = false →
      Simplifies before (.named t :: rest) (t.interfaces ++ rest)
  /-- An interface that is sorted as `any` is left out. -/
  | removed {before rest : List SourceType} {t : SourceType} : t.shape.isAny = true →
      Simplifies before (t :: rest) rest
  /-- An interface that has been met before is left out. -/
  | repeated {before rest : List SourceType} {t : SourceType} : t ∈ metAll before →
      Simplifies before (t :: rest) rest
  /-- The step is made behind an interface. -/
  | behind {before ts ts' : List SourceType} {t : SourceType} : Simplifies (before ++ [t]) ts ts' →
      Simplifies before (t :: ts) (t :: ts')
  /-- The step is made in the interfaces of an unrecognised interface. -/
  | inside {before rest interfaces : List SourceType} {t : NamedType} : t.isRecognised = false →
      Simplifies before t.interfaces interfaces →
        Simplifies before (.named t :: rest) (.named { t with interfaces } :: rest)

/-- **A step does not change what is found first**, together with what stands before. -/
theorem Simplifies.findSome?_eq {before ts ts' : List SourceType} (h : Simplifies before ts ts') :
    (before ++ ts).findSome? shown? = (before ++ ts').findSome? shown? := by
  -- The induction is on the step. What stands before is carried along for the repetitions: a step
  -- inside an interface need not keep the shape of that interface alone.
  induction h with
  | @opened before rest t ht =>
    rw [List.findSome?_append, List.findSome?_append, List.findSome?_append, List.findSome?_cons,
      shown?_of_unrecognised ht]
    cases t.interfaces.findSome? shown? <;> rfl
  | @removed before rest t ht =>
    have hnone : t.shown? = none := if_pos ht
    rw [List.findSome?_append, List.findSome?_append, List.findSome?_cons, hnone]
  | @repeated before rest t ht =>
    rw [List.findSome?_append, List.findSome?_append, List.findSome?_cons]
    cases hshown : t.shown? with
    | none => rfl
    | some s =>
      -- The interface shows something, so the search has ended before it.
      obtain ⟨u, hu, hmet⟩ := exists_of_mem_metAll ht
      have hbefore : (before.findSome? shown?).isSome :=
        List.findSome?_isSome_iff.mpr
          ⟨u, hu, isSome_shown?_of_mem_met (by rw [hshown]; rfl) u hmet⟩
      obtain ⟨found, hfound⟩ := Option.isSome_iff_exists.mp hbefore
      rw [hfound, Option.some_or, Option.some_or]
  | behind _ ih =>
    rw [List.append_assoc, List.append_assoc] at ih
    exact ih
  | @inside before rest interfaces t ht _ ih =>
    have ht' : NamedTypeOf.isRecognised { t with interfaces } = false := ht
    rw [List.findSome?_append, List.findSome?_append] at ih ⊢
    rw [List.findSome?_cons, List.findSome?_cons, shown?_of_unrecognised ht,
      shown?_of_unrecognised ht']
    cases hbefore : before.findSome? shown? with
    | some found => rfl
    | none =>
      rw [hbefore, Option.none_or, Option.none_or] at ih
      rw [ih]

/-- One step that simplifies interfaces **anywhere in a type**: its own, or those of a type that
occurs in it. -/
inductive Simplified : SourceType → SourceType → Prop
  | interfaces {t : NamedType} {interfaces : List SourceType} :
      Simplifies [] t.interfaces interfaces →
        Simplified (.named t) (.named { t with interfaces })
  | element {s s' : SourceType} : Simplified s s' → Simplified (.array s) (.array s')
  | arg {t : NamedType} {front back : List SourceType} {s s' : SourceType} :
      t.args = front ++ s :: back → Simplified s s' →
        Simplified (.named t) (.named { t with args := front ++ s' :: back })
  | interface {t : NamedType} {front back : List SourceType} {s s' : SourceType} :
      t.interfaces = front ++ s :: back → Simplified s s' →
        Simplified (.named t) (.named { t with interfaces := front ++ s' :: back })

/-- Interfaces that show the same first give a type the same shape. -/
theorem shape_congr {t : NamedType} {interfaces : List SourceType}
    (h : t.interfaces.findSome? shown? = interfaces.findSome? shown?) :
    (named { t with interfaces }).shape = (named t).shape := by
  change NamedTypeOf.shape { t with interfaces } = t.shape
  cases ht : t.isRecognised with
  | true => exact NamedTypeOf.shape_of_recognised ht interfaces
  | false =>
    rw [NamedTypeOf.shape_of_unrecognised ht,
      NamedTypeOf.shape_of_unrecognised (t := { t with interfaces }) ht, interfaceShape_eq,
      interfaceShape_eq, h]

/-- **A step keeps the shape**, and whether the type can be an index key. -/
theorem Simplified.shape_eq {s s' : SourceType} (h : Simplified s s') :
    s'.shape = s.shape ∧ IndexKey.ofType? s' = IndexKey.ofType? s := by
  induction h with
  | interfaces h => exact ⟨shape_congr h.findSome?_eq, rfl⟩
  | element _ ih => exact ⟨by rw [shape, shape, ih.1], rfl⟩
  | @arg t front back s s' hargs _ ih =>
    obtain ⟨hshape, hkey⟩ := ih
    -- The arguments count as a key with a value, or as an element.
    have hdictionary : dictionaryShape (front ++ s' :: back) = dictionaryShape t.args := by
      rw [hargs]
      rcases front with _ | ⟨a, _ | ⟨_, _⟩⟩ <;> rcases back with _ | ⟨b, _ | ⟨_, _⟩⟩ <;>
        simp [dictionaryShape, hshape, hkey]
    have hcollection : collectionShape (front ++ s' :: back) = collectionShape t.args := by
      rw [hargs]
      rcases front with _ | ⟨a, _⟩ <;> rcases back with _ | ⟨b, _⟩ <;>
        simp [collectionShape, hshape]
    refine ⟨?_, rfl⟩
    change NamedTypeOf.shape { t with args := front ++ s' :: back } = t.shape
    rw [NamedTypeOf.shape_eq, NamedTypeOf.shape_eq, NamedTypeOf.ownShape?, NamedTypeOf.ownShape?,
      hdictionary, hcollection]
  | @interface t front back s s' hinterfaces _ ih =>
    refine ⟨shape_congr ?_, rfl⟩
    have hshown : s'.shown? = s.shown? := by rw [shown?, shown?, ih.1]
    rw [hinterfaces, List.findSome?_append, List.findSome?_append, List.findSome?_cons,
      List.findSome?_cons, hshown]

end SourceType

/-- **The shape of an unrecognised type**: that of the first recognised type that the search meets
in its interfaces, the universal base type passed over, and the fallback if there is none.

So no shape changes when interfaces anywhere in a type are simplified or the other way round: when
an unrecognised interface is replaced by its own interfaces, when interfaces that are sorted as
`any` are put in or left out, or when an interface that has been met before is left out. -/
theorem NamedTypeOf.shape_eq_first_met :
    (∀ t : NamedType, t.isRecognised = false →
      t.shape = (((SourceType.metAll t.interfaces).find? fun s =>
        s.isRecognised && !s.isObject).map SourceType.shape).getD .fallback) ∧
    ∀ s s' : SourceType, EqvGen SourceType.Simplified s s' → s'.shape = s.shape := by
  refine ⟨fun t ht => ?_, fun s s' h => ?_⟩
  · rw [shape_of_unrecognised ht, SourceType.interfaceShape_eq,
      SourceType.shape_first_metAll fun i _ => SourceType.shape_first_met i]
  · induction h with
    | rel s s' h => exact h.shape_eq.1
    | refl s => rfl
    | symm s s' _ ih => exact ih.symm
    | trans s s' s'' _ _ ih ih' => exact ih'.trans ih

namespace SourceType

/-- Numbers. -/
def number : NamedType := { name := "Int32", kind := .structType, special := .int32 }

/-- The universal base type. -/
def object : NamedType := { name := "Object", kind := .classType, special := .object }

/-- A list of numbers. -/
def numberList : NamedType :=
  { name := "IList", kind := .interfaceType, special := .genericList, args := [.named number] }

/-- A dictionary whose keys can be no index keys. It is a list of numbers as well. -/
def oddMap : NamedType :=
  { name := "IMap", kind := .interfaceType, special := .genericDictionary
    args := [.named object, .named number], interfaces := [.named numberList] }

/-- A library type with the universal base type among its interfaces, and a dictionary twice. -/
def crate (interfaces : List SourceType) : NamedType :=
  { name := "Crate", kind := .classType, interfaces }

end SourceType

open SourceType in
theorem NamedTypeOf.shape_eq_first_met_crate :
    (crate [.named object, .named oddMap, .named oddMap]).isRecognised = false ∧
      (crate [.named object, .named oddMap, .named oddMap]).shape =
        .collection (.primitive .number) ∧
      (crate [.named numberList]).shape =
        (crate [.named object, .named oddMap, .named oddMap]).shape := by
  obtain ⟨hfirst, hsame⟩ := NamedTypeOf.shape_eq_first_met
  have hremoved : Simplified (.named (crate [.named object, .named oddMap, .named oddMap]))
      (.named (crate [.named oddMap, .named oddMap])) := .interfaces (.removed rfl)
  have hrepeated : Simplified (.named (crate [.named oddMap, .named oddMap]))
      (.named (crate [.named oddMap])) := .interfaces (.behind (.repeated (.head _)))
  have hopened : Simplified (.named (crate [.named oddMap])) (.named (crate [.named numberList])) :=
    .interfaces (.opened (t := oddMap) rfl)
  refine ⟨rfl, hfirst (crate [.named object, .named oddMap, .named oddMap]) rfl, ?_⟩
  exact hsame _ _ (.trans _ _ _ (.rel _ _ hremoved)
    (.trans _ _ _ (.rel _ _ hrepeated) (.rel _ _ hopened)))

end DeclGen
