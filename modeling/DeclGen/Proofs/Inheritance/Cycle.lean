import DeclGen.Proofs.Inheritance.InPlace
import DeclGen.Proofs.Inheritance.Link

/-!
# Linking fails exactly on cycles

A name *refers* to another (`DeclGen.Inheritance.Refers`) if its first declaration is a type that
names a declared type of that other name as its base or as an interface. Later declarations of a
name give no edges, since no name finds them.

Linking fails exactly if these edges make a cycle, and then it tells of a name that lies on one
(`DeclGen.Inheritance.link_error_iff_cycle`). The two halves rest on different things.

* **An error is a cycle** by the path: every name on it leads to the name that is walked, so a name
  that is met on its own path leads to itself.
* **A success is no cycle** by the listing: a name with a listing leads to names with smaller ones
  only, so from it no infinite chain of references starts (`DeclGen.Inheritance.Listing.acc`). The
  memory needs no attention here, nor do the declarations whose names find others.
-/

namespace DeclGen

namespace Inheritance

variable {units : List SourceUnit}

/-- One name **refers** to another: the first declaration of the one is a type whose base or one of
whose interfaces is declared under the other. -/
def Refers (units : List SourceUnit) (n m : String) : Prop :=
  ∃ d, firstType? units n = some d ∧
    ∃ t : NamedType, (d.base = some t ∨ t ∈ d.interfaces) ∧ t.declared = true ∧ t.name = m

/-- The ancestors of a declaration are its interfaces and its base. -/
theorem exists_ancestor_iff {d : TypeDecl} {t : NamedType} :
    (∃ a ∈ d.ancestors, a.type = t) ↔ d.base = some t ∨ t ∈ d.interfaces := by
  unfold TypeDecl.ancestors
  constructor
  · rintro ⟨a, ha, rfl⟩
    rcases List.mem_append.mp ha with ha | ha
    · obtain ⟨t, ht, rfl⟩ := List.mem_map.mp ha
      exact Or.inr ht
    · obtain ⟨t, ht, rfl⟩ := Option.map_eq_some_iff.mp (Option.mem_toList.mp ha)
      exact Or.inl ht
  · rintro (h | h)
    · exact ⟨.base t, List.mem_append_right _ (by simp [h]), rfl⟩
    · exact ⟨.interface t, List.mem_append_left _ (List.mem_map_of_mem h), rfl⟩

theorem refers_of_ancestor {n : String} {d : TypeDecl} {a : Ancestor}
    (hd : firstType? units n = some d) (ha : a ∈ d.ancestors) (ht : a.type.declared = true) :
    Refers units n a.type.name :=
  ⟨d, hd, a.type, exists_ancestor_iff.mp ⟨a, ha, rfl⟩, ht, rfl⟩

/-! ### An error is a cycle -/

/-- **A walk that fails has met a cycle**, as long as every name on its path leads to where it
stands. -/
theorem walk_error (units : List SourceUnit) :
    (∀ (path : List String) (name : String) (memo : Memo),
      (∀ m ∈ path, Relation.TransGen (Refers units) m name) →
      ∀ e, inheritedByName (.ofUnits units) units path name memo = .error e →
        ∃ n, e = .cyclicInheritance n ∧ Relation.TransGen (Refers units) n n) ∧
    ∀ (path : List String) (types : List NamedType) (as : List Ancestor) (memo : Memo),
      (∀ a ∈ as, a.type.declared = true →
        ∀ m ∈ path, Relation.TransGen (Refers units) m a.type.name) →
      ∀ e, collect (.ofUnits units) units path types as memo = .error e →
        ∃ n, e = .cyclicInheritance n ∧ Relation.TransGen (Refers units) n n := by
  refine inheritedByName.mutual_induct (.ofUnits units) units _ _ ?hit ?onPath ?untyped ?walk
    ?done ?declared ?library
  case hit =>
    intro path name memo done hdone _ e h
    rw [inheritedByName_hit hdone] at h
    cases h
  case onPath =>
    intro path name memo hnone hp hpath e h
    rw [inheritedByName_onPath hnone hp] at h
    cases h
    exact ⟨name, rfl, hpath name hp⟩
  case untyped =>
    intro path name memo hnone hp hd _ e h
    rw [inheritedByName_untyped hnone hp hd] at h
    cases h
  case walk =>
    intro path name memo hnone hp d hd _ ih hpath e h
    rw [inheritedByName_walk hnone hp hd] at h
    rw [Registry.findType?_ofUnits] at hd
    rcases bind_eq_error.mp h with h | ⟨_, _, h⟩
    · -- The names on the path lead to `name`, and `name` leads to its ancestor.
      refine ih (fun a ha ht m hm => ?_) e h
      have hstep : Refers units name a.type.name := refers_of_ancestor hd ha ht
      rcases List.mem_cons.mp hm with rfl | hm
      · exact .single hstep
      · exact (hpath m hm).tail hstep
    · cases h
  case done =>
    intro path types memo _ e h
    rw [collect] at h
    cases h
  case declared =>
    intro path types a rest memo ha ihr iha hpath e h
    rw [collect_cons, if_pos ha] at h
    rcases bind_eq_error.mp h with h | ⟨p, _, h⟩
    · exact iha (hpath a List.mem_cons_self ha) e h
    · exact ihr _ _ (fun b hb => hpath b (List.mem_cons_of_mem _ hb)) e h
  case library =>
    intro path types a rest memo ha ihr hpath e h
    rw [collect_cons, if_neg ha] at h
    rcases bind_eq_error.mp h with h | ⟨p, _, h⟩
    · cases h
    · exact ihr _ _ (fun b hb => hpath b (List.mem_cons_of_mem _ hb)) e h

theorem allInterfaces_error {u i : Nat} {d : TypeDecl} {memo : Memo} {e : LoadError}
    (h : allInterfaces (.ofUnits units) units u i d memo = .error e) :
    ∃ n, e = .cyclicInheritance n ∧ Relation.TransGen (Refers units) n n := by
  unfold allInterfaces at h
  split at h
  · exact (walk_error units).1 _ _ _ (by simp) e h
  · exact (walk_error units).2 _ _ _ _ (by simp) e h

theorem findDeclarations_error {u : Nat} {e : LoadError} (ds : List Declaration) :
    ∀ (i : Nat) (memo : Memo),
      findDeclarations (.ofUnits units) units u i ds memo = .error e →
      ∃ n, e = .cyclicInheritance n ∧ Relation.TransGen (Refers units) n n := by
  induction ds with
  | nil => exact fun _ _ h => nomatch h
  | cons d ds ih =>
    intro i memo h
    rcases bind_eq_error.mp h with h | ⟨_, _, h⟩
    · cases d with
      | enum d => cases h
      | type d => exact allInterfaces_error h
    · rcases bind_eq_error.mp h with h | ⟨_, _, h⟩
      · exact ih _ _ h
      · cases h

theorem findFrom_error {e : LoadError} (rest : List SourceUnit) :
    ∀ (u : Nat) (memo : Memo), findFrom (.ofUnits units) units u rest memo = .error e →
      ∃ n, e = .cyclicInheritance n ∧ Relation.TransGen (Refers units) n n := by
  induction rest with
  | nil => exact fun _ _ h => nomatch h
  | cons unit rest ih =>
    intro u memo h
    rcases bind_eq_error.mp h with h | ⟨_, _, h⟩
    · exact findDeclarations_error _ _ _ h
    · rcases bind_eq_error.mp h with h | ⟨_, _, h⟩
      · exact ih _ _ h
      · cases h

/-- **An error of linking tells of a cycle.** -/
theorem cycle_of_link_error {e : LoadError} (h : link (.ofUnits units) units = .error e) :
    ∃ n, e = .cyclicInheritance n ∧ Relation.TransGen (Refers units) n n := by
  rcases bind_eq_error.mp h with h | ⟨_, _, h⟩
  · exact findFrom_error units 0 [] h
  · cases h

/-! ### A success is no cycle -/

mutual

/-- **References from listed ancestors end**: no infinite chain of them starts at one. -/
theorem Listing.acc {as : List Ancestor} {l : List NamedType} :
    Listing units as l → ∀ a ∈ as, a.type.declared = true →
      Acc (Function.swap (Refers units)) a.type.name
  | .cons hm hl, a, ha, ht => by
    rcases List.mem_cons.mp ha with h | h
    · rw [h] at ht ⊢
      exact hm.acc ht
    · exact hl.acc a h ht

theorem Inherits.acc {t : NamedType} {l : List NamedType} :
    Inherits units t l → t.declared = true → Acc (Function.swap (Refers units)) t.name
  | .library h, ht => by simp [h] at ht
  | .untyped _ hnone, _ => ⟨_, fun _ ⟨d, hd, _⟩ => by simp [hnone] at hd⟩
  | .declared _ hsome hl, _ => by
    refine ⟨_, ?_⟩
    rintro m ⟨d, hd, t', ht', hdecl, rfl⟩
    rw [hsome] at hd
    cases hd
    obtain ⟨a, ha, rfl⟩ := exists_ancestor_iff.mpr ht'
    exact hl.acc a ha hdecl

end

/-- **A success is no cycle.** -/
theorem not_cycle_of_link_ok {linked : List SourceUnit}
    (h : link (.ofUnits units) units = .ok linked) (n : String) :
    ¬Relation.TransGen (Refers units) n n := by
  intro hcyc
  have hacc : Acc (Function.swap (Refers units)) n := by
    -- Whatever `n` refers to is an ancestor in the listing of its first declaration.
    refine ⟨_, ?_⟩
    rintro m ⟨d, hd, t, ht, hdecl, rfl⟩
    obtain ⟨l, hl⟩ := exists_listing h (mem_of_firstType? hd)
    obtain ⟨a, ha, rfl⟩ := exists_ancestor_iff.mpr ht
    exact hl.acc a ha hdecl
  -- A name from which no chain of references is infinite does not lead to itself.
  have hirrefl : ∀ {x}, Acc (Relation.TransGen (Function.swap (Refers units))) x →
      ¬Relation.TransGen (Function.swap (Refers units)) x x := by
    intro x hx
    induction hx with
    | intro x _ ih => exact fun hxx => ih x hxx hxx
  exact hirrefl hacc.transGen (Relation.transGen_swap.mpr hcyc)

/-! ### Linking fails exactly on cycles -/

/-- **Linking fails exactly if the references make a cycle.** The error then tells of a name on a
cycle, and units that are linked in place are left as they were. So declarations that inherit a type
in several ways are never reported, and neither is a later declaration of a name that refers to the
first one: it gives no edge. -/
theorem link_error_iff_cycle (units : List SourceUnit) :
    ((∃ e, link (.ofUnits units) units = .error e) ↔
        ∃ n, Relation.TransGen (Refers units) n n) ∧
      ∀ e, link (.ofUnits units) units = .error e →
        (∃ n, e = .cyclicInheritance n ∧ Relation.TransGen (Refers units) n n) ∧
          (linkInPlace (.ofUnits units)).run.run units = (.error e, units) := by
  refine ⟨⟨?_, ?_⟩, fun e h => ⟨cycle_of_link_error h, ?_⟩⟩
  · rintro ⟨e, h⟩
    obtain ⟨n, -, hn⟩ := cycle_of_link_error h
    exact ⟨n, hn⟩
  · rintro ⟨n, hn⟩
    cases h : link (.ofUnits units) units with
    | error e => exact ⟨e, rfl⟩
    | ok linked => exact absurd hn (not_cycle_of_link_ok h n)
  · rw [run_linkInPlace, h]

end Inheritance

end DeclGen
