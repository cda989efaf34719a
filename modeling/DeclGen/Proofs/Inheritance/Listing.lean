import DeclGen.Inheritance
import DeclGen.Proofs.FirstDeclaration
import DeclGen.Proofs.Outcome

/-!
# Linking computes the plain listing

What a declaration inherits has a plain description that knows no path and no memory: each interface
that it names followed by what that interface inherits, then what the base inherits. It is
`DeclGen.Inheritance.Listing`, together with `DeclGen.Inheritance.Inherits` for what a single type
inherits. A listing repeats whatever is inherited in several ways, and a declaration that inherits
from itself has none, since a listing is a finite derivation.

Linking computes that listing with all but the first occurrence of each type removed
(`DeclGen.Inheritance.link_eq_listing`). Two things have to be arranged for this.

* **Duplicates may be removed at any level.** The walk drops them at every step of the recursion and
  the listing not at all; that both end alike is an equation of `DeclGen.Inheritance.addNew`,
  `DeclGen.Inheritance.addNew_addNew`.
* **The memory is a property of the units, not of the walk.** A list that is kept for a name is the
  listing of the declaration which that name finds (`DeclGen.Inheritance.MemoSound`), whoever was
  walked when it was kept. So a hit is right whatever path it is met on, and the walks of all
  declarations can share one memory.
-/

namespace DeclGen

namespace Inheritance

/-! ### Adding what is new -/

/-- What is added are the first occurrences of the types that were not there. -/
theorem addNew_eq (xs : List NamedType) :
    ∀ types, addNew types xs = types ++ (xs.filter (· ∉ types)).eraseDups := by
  induction xs with
  | nil => simp [addNew]
  | cons x xs ih =>
    intro types
    rw [addNew, ih]
    by_cases hx : x ∈ types
    · simp [hx]
    · -- Once `x` is there, later copies of it are no longer new.
      have hfilter : xs.filter (· ∉ types ++ [x]) =
          (xs.filter (· ∉ types)).filter (fun y => !y == x) := by
        rw [List.filter_filter]
        refine List.filter_congr fun y _ => ?_
        by_cases hy : y = x <;> simp [hy]
      rw [if_neg hx, hfilter, List.filter_cons, if_pos (by simpa using hx), List.eraseDups_cons]
      simp

/-- Added to nothing, a list keeps the first occurrence of each of its types. -/
theorem addNew_nil_left (xs : List NamedType) : addNew [] xs = xs.eraseDups := by
  simp [addNew_eq]

theorem addNew_append (types xs ys : List NamedType) :
    addNew types (xs ++ ys) = addNew (addNew types xs) ys := by
  induction xs generalizing types with
  | nil => rfl
  | cons x xs ih => exact ih _

theorem mem_addNew {t : NamedType} {types xs : List NamedType} :
    t ∈ addNew types xs ↔ t ∈ types ∨ t ∈ xs := by
  rw [addNew_eq, List.mem_append, List.mem_eraseDups, List.mem_filter]
  by_cases ht : t ∈ types <;> simp [ht]

/-- **Duplicates may be removed on the way**: it does not matter whether a list is added whole or
with its own duplicates removed first. -/
theorem addNew_addNew (types ys xs : List NamedType) :
    addNew types (addNew ys xs) = addNew (addNew types ys) xs := by
  induction xs generalizing ys with
  | nil => rfl
  | cons x xs ih =>
    rw [addNew, ih, addNew]
    by_cases hx : x ∈ ys
    · rw [if_pos hx, if_pos (mem_addNew.mpr (Or.inr hx))]
    · rw [if_neg hx, addNew_append]
      rfl

/-! ### The listing -/

mutual

/-- **The plain listing** of some ancestors: of each the type itself, if it is an interface, and
then what the type inherits. -/
inductive Listing (units : List SourceUnit) : List Ancestor → List NamedType → Prop
  /-- Without ancestors nothing is inherited. -/
  | nil : Listing units [] []
  /-- The first ancestor comes before the others. -/
  | cons {a : Ancestor} {rest : List Ancestor} {m l : List NamedType} :
      Inherits units a.type m → Listing units rest l →
      Listing units (a :: rest) (a.itself ++ m ++ l)

/-- What a single type inherits. -/
inductive Inherits (units : List SourceUnit) : NamedType → List NamedType → Prop
  /-- A library type inherits the named types in its own interface list. -/
  | library {t : NamedType} : t.declared = false → Inherits units t t.namedInterfaces
  /-- A name that declares no type inherits nothing. -/
  | untyped {t : NamedType} : t.declared = true → firstType? units t.name = none →
      Inherits units t []
  /-- A declared type inherits the listing of the first declaration of its name. -/
  | declared {t : NamedType} {d : TypeDecl} {l : List NamedType} : t.declared = true →
      firstType? units t.name = some d → Listing units d.ancestors l → Inherits units t l

end

variable {units : List SourceUnit}

mutual

/-- **There is at most one listing.** -/
theorem Listing.unique {as : List Ancestor} {l l' : List NamedType} :
    Listing units as l → Listing units as l' → l = l'
  | .nil, .nil => rfl
  | .cons hm hl, .cons hm' hl' => by rw [hm.unique hm', hl.unique hl']

theorem Inherits.unique {t : NamedType} {l l' : List NamedType} :
    Inherits units t l → Inherits units t l' → l = l'
  | .library _, .library _ => rfl
  | .library h, .untyped h' _ => by simp [h] at h'
  | .library h, .declared h' _ _ => by simp [h] at h'
  | .untyped h _, .library h' => by simp [h] at h'
  | .untyped _ _, .untyped _ _ => rfl
  | .untyped _ h, .declared _ h' _ => by simp [h] at h'
  | .declared h _ _, .library h' => by simp [h] at h'
  | .declared _ h _, .untyped _ h' => by simp [h] at h'
  | .declared _ h hl, .declared _ h' hl' => by
    rw [h] at h'
    cases h'
    exact hl.unique hl'

end

/-! ### The walk -/

/-- **The memory is sound**: what is kept for a name is the listing of the declaration that the name
finds, without duplicates. -/
def MemoSound (units : List SourceUnit) (memo : Memo) : Prop :=
  ∀ name types, memo.lookup name = some types →
    ∃ d l, firstType? units name = some d ∧ Listing units d.ancestors l ∧ types = l.eraseDups

theorem memoSound_nil : MemoSound units [] := fun _ _ h => by simp at h

theorem MemoSound.cons {memo : Memo} {name : String} {d : TypeDecl} {l : List NamedType}
    (hm : MemoSound units memo) (hd : firstType? units name = some d)
    (hl : Listing units d.ancestors l) : MemoSound units ((name, l.eraseDups) :: memo) := by
  intro m types h
  rw [List.lookup_cons] at h
  split at h
  · next he =>
    cases h
    rw [beq_iff_eq.mp he]
    exact ⟨d, l, hd, hl, rfl⟩
  · exact hm m types h

/-! The steps of the walk, one lemma for each way that it can go. -/

section Steps

variable {r : Registry} {path : List String} {name : String} {memo : Memo}

theorem inheritedByName_hit {types : List NamedType} (h : memo.lookup name = some types) :
    inheritedByName r units path name memo = .ok (types, memo) := by
  rw [inheritedByName, h]

theorem inheritedByName_onPath (h : memo.lookup name = none) (hp : name ∈ path) :
    inheritedByName r units path name memo = .error (.cyclicInheritance name) := by
  rw [inheritedByName, h]
  simp only [hp, dite_true]

theorem inheritedByName_untyped (h : memo.lookup name = none) (hp : name ∉ path)
    (hd : r.findType? units name = none) :
    inheritedByName r units path name memo = .ok ([], memo) := by
  rw [inheritedByName, h]
  simp only [hp, dite_false]
  split
  · rfl
  · next hs => rw [hd] at hs; cases hs

theorem inheritedByName_walk {d : TypeDecl} (h : memo.lookup name = none) (hp : name ∉ path)
    (hd : r.findType? units name = some d) :
    inheritedByName r units path name memo =
      collect r units (name :: path) [] d.ancestors memo >>= fun p =>
        .ok (p.1, (name, p.1) :: p.2) := by
  rw [inheritedByName, h]
  simp only [hp, dite_false]
  split
  · next hs => rw [hd] at hs; cases hs
  · next hs =>
    rw [hd] at hs
    cases hs
    rfl

theorem collect_cons {types : List NamedType} {a : Ancestor} {rest : List Ancestor} :
    collect r units path types (a :: rest) memo =
      (if a.type.declared then inheritedByName r units path a.type.name memo
        else .ok (a.type.namedInterfaces, memo)) >>= fun p =>
      collect r units path (addNew types (a.itself ++ p.1)) rest p.2 := by
  rw [collect]
  split <;> rfl

end Steps

/-- **A walk that succeeds gives the listing**, without the duplicates, and keeps the memory
sound. -/
theorem walk_ok (units : List SourceUnit) :
    (∀ (path : List String) (name : String) (memo : Memo), MemoSound units memo →
      ∀ types memo', inheritedByName (.ofUnits units) units path name memo = .ok (types, memo') →
        MemoSound units memo' ∧ ∃ l, types = l.eraseDups ∧
          ∀ t : NamedType, t.declared = true → t.name = name → Inherits units t l) ∧
    ∀ (path : List String) (types : List NamedType) (as : List Ancestor) (memo : Memo),
      MemoSound units memo →
      ∀ types' memo', collect (.ofUnits units) units path types as memo = .ok (types', memo') →
        MemoSound units memo' ∧ ∃ l, types' = addNew types l ∧ Listing units as l := by
  refine inheritedByName.mutual_induct (.ofUnits units) units _ _ ?hit ?onPath ?untyped ?walk
    ?done ?declared ?library
  case hit =>
    intro path name memo done hdone hm types memo' h
    rw [inheritedByName_hit hdone] at h
    cases h
    obtain ⟨d, l, hd, hl, rfl⟩ := hm name done hdone
    refine ⟨hm, l, rfl, ?_⟩
    rintro t ht rfl
    exact .declared ht hd hl
  case onPath =>
    intro path name memo hnone hp hm types memo' h
    rw [inheritedByName_onPath hnone hp] at h
    cases h
  case untyped =>
    intro path name memo hnone hp hd hm types memo' h
    rw [inheritedByName_untyped hnone hp hd] at h
    cases h
    rw [Registry.findType?_ofUnits] at hd
    refine ⟨hm, [], rfl, ?_⟩
    rintro t ht rfl
    exact .untyped ht hd
  case walk =>
    intro path name memo hnone hp d hd _ ih hm types memo' h
    rw [inheritedByName_walk hnone hp hd] at h
    obtain ⟨⟨types₁, memo₁⟩, hc, h⟩ := bind_eq_ok.mp h
    cases h
    obtain ⟨hm₁, l, rfl, hl⟩ := ih hm _ _ hc
    rw [Registry.findType?_ofUnits] at hd
    rw [addNew_nil_left]
    refine ⟨hm₁.cons hd hl, l, rfl, ?_⟩
    rintro t ht rfl
    exact .declared ht hd hl
  case done =>
    intro path types memo hm types' memo' h
    rw [collect] at h
    cases h
    exact ⟨hm, [], rfl, .nil⟩
  case declared =>
    intro path types a rest memo ha ihr iha hm types' memo' h
    rw [collect_cons, if_pos ha] at h
    obtain ⟨⟨inherited, memo₁⟩, hi, h⟩ := bind_eq_ok.mp h
    obtain ⟨hm₁, m, rfl, hinh⟩ := iha hm _ _ hi
    obtain ⟨hm', l, rfl, hl⟩ := ihr _ _ hm₁ _ _ h
    refine ⟨hm', a.itself ++ m ++ l, ?_, .cons (hinh a.type ha rfl) hl⟩
    -- The ancestor's list comes without its duplicates, which would have been dropped here anyway.
    rw [addNew_append types (a.itself ++ m), addNew_append types, addNew_append types,
      ← addNew_nil_left m, addNew_addNew]
    rfl
  case library =>
    intro path types a rest memo ha ihr hm types' memo' h
    rw [collect_cons, if_neg ha] at h
    obtain ⟨hm', l, rfl, hl⟩ := ihr _ _ hm _ _ h
    refine ⟨hm', a.itself ++ a.type.namedInterfaces ++ l, ?_,
      .cons (.library (by simpa using ha)) hl⟩
    rw [addNew_append types (a.itself ++ a.type.namedInterfaces)]

end Inheritance

end DeclGen
