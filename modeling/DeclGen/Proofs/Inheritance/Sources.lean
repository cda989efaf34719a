import DeclGen.Proofs.Inheritance.Cycle

/-!
# Where a listed type comes from

A listing is put together from what declarations name themselves: each type in it is an ancestor, or
an interface of a library type that is an ancestor, of the declaration itself or of one that it
leads to by its declared ancestors (`DeclGen.Inheritance.Listing.source`). So what holds of all that
declarations name holds of all that they inherit.

After linking this can be told in terms of the linked units themselves, since linking them again
would change nothing (`DeclGen.Inheritance.exists_listing_linked`).
-/

namespace DeclGen

namespace Inheritance

variable {units : List SourceUnit}

/-- What ancestors **bring** themselves: their own types, and the interfaces of library types. -/
def Brings (as : List Ancestor) (j : NamedType) : Prop :=
  ∃ a ∈ as, j = a.type ∨ j ∈ a.type.namedInterfaces

theorem Brings.cons {a : Ancestor} {as : List Ancestor} {j : NamedType} (h : Brings as j) :
    Brings (a :: as) j := by
  obtain ⟨b, hb, hj⟩ := h
  exact ⟨b, List.mem_cons_of_mem _ hb, hj⟩

/-- What is listed for one of the ancestors is listed. -/
theorem Listing.mem_of_inherits {as : List Ancestor} {l : List NamedType}
    (hl : Listing units as l) :
    ∀ a ∈ as, (∀ j ∈ a.itself, j ∈ l) ∧
      ∀ m, Inherits units a.type m → ∀ j ∈ m, j ∈ l := by
  induction as generalizing l with
  | nil => exact nofun
  | cons b rest ih =>
    cases hl with
    | cons hm hrest =>
      intro a ha
      rcases List.mem_cons.mp ha with rfl | ha
      · refine ⟨fun j hj => by simp [hj], fun m' hm' j hj => ?_⟩
        rw [hm'.unique hm] at hj
        simp [hj]
      · obtain ⟨hitself, hinherits⟩ := ih hrest a ha
        refine ⟨fun j hj => ?_, fun m' hm' j hj => ?_⟩
        · simp [hitself j hj]
        · simp [hinherits m' hm' j hj]

mutual

/-- **A listed type is brought** by the ancestors, or by those of a declaration that they lead to.
-/
theorem Listing.source {as : List Ancestor} {l : List NamedType} {j : NamedType} :
    Listing units as l → j ∈ l →
      Brings as j ∨ ∃ a ∈ as, a.type.declared = true ∧ ∃ m d,
        Relation.ReflTransGen (Refers units) a.type.name m ∧ firstType? units m = some d ∧
          Brings d.ancestors j
  | .nil, hj => nomatch hj
  | .cons (a := a) hm hl, hj => by
    rcases List.mem_append.mp hj with hj | hj
    · rcases List.mem_append.mp hj with hj | hj
      · refine Or.inl ⟨a, List.mem_cons_self, Or.inl ?_⟩
        cases a with
        | interface t => exact List.mem_singleton.mp hj
        | base t => cases hj
      · rcases hm.source hj with h | ⟨ht, h⟩
        · exact Or.inl ⟨a, List.mem_cons_self, Or.inr h⟩
        · exact Or.inr ⟨a, List.mem_cons_self, ht, h⟩
    · rcases hl.source hj with h | ⟨b, hb, h⟩
      · exact Or.inl h.cons
      · exact Or.inr ⟨b, List.mem_cons_of_mem _ hb, h⟩

theorem Inherits.source {t : NamedType} {l : List NamedType} {j : NamedType} :
    Inherits units t l → j ∈ l →
      j ∈ t.namedInterfaces ∨ t.declared = true ∧ ∃ m d,
        Relation.ReflTransGen (Refers units) t.name m ∧ firstType? units m = some d ∧
          Brings d.ancestors j
  | .library _, hj => Or.inl hj
  | .untyped _ _, hj => nomatch hj
  | .declared (d := d) ht hd hl, hj => by
    refine Or.inr ⟨ht, ?_⟩
    rcases hl.source hj with h | ⟨a, ha, hdecl, m, d', hm, hd', h⟩
    · exact ⟨t.name, d, .refl, hd, h⟩
    · exact ⟨m, d', .head (refers_of_ancestor hd ha hdecl) hm, hd', h⟩

end

/-! ### Linked declarations -/

/-- **A linked declaration has the listing of what it inherits from**, told in terms of the linked
units themselves. -/
theorem exists_listing_linked {linked : List SourceUnit}
    (h : link (.ofUnits units) units = .ok linked) {d : TypeDecl}
    (hd : .type d ∈ allDeclarations linked) :
    ∃ l, Listing linked d.ancestors l ∧ d.allInterfaces = l.eraseDups := by
  have hagain : link (.ofUnits linked) linked = .ok linked :=
    (link_congr (map_unlinked_of_link_ok h)).trans h
  -- Linked once more, a declaration stands beside itself.
  have hself := List.forall₂_same.mp (linked_allDeclarations hagain) _ hd
  obtain ⟨l, hl, heq⟩ := exists_of_linked hself
  injection heq with heq
  exact ⟨l, hl, congrArg TypeDecl.allInterfaces heq⟩

theorem mem_allInterfaces_of_mem_interfaces {linked : List SourceUnit}
    (h : link (.ofUnits units) units = .ok linked) {d : TypeDecl}
    (hd : .type d ∈ allDeclarations linked) {j : NamedType} (hj : j ∈ d.interfaces) :
    j ∈ d.allInterfaces := by
  obtain ⟨l, hl, hall⟩ := exists_listing_linked h hd
  have ha : Ancestor.interface j ∈ d.ancestors :=
    List.mem_append_left _ (List.mem_map_of_mem hj)
  rw [hall, List.mem_eraseDups]
  exact (hl.mem_of_inherits _ ha).1 j (List.mem_singleton_self j)

/-- **What a declared ancestor's list holds is inherited as it stands there.** -/
theorem mem_allInterfaces_of_ancestor {linked : List SourceUnit}
    (h : link (.ofUnits units) units = .ok linked) {d x : TypeDecl}
    (hd : .type d ∈ allDeclarations linked) {a : Ancestor} (ha : a ∈ d.ancestors)
    (hdecl : a.type.declared = true) (hx : firstType? linked a.type.name = some x)
    {j : NamedType} (hj : j ∈ x.allInterfaces) : j ∈ d.allInterfaces := by
  obtain ⟨l, hl, hall⟩ := exists_listing_linked h hd
  obtain ⟨m, hm, hxall⟩ := exists_listing_linked h (mem_of_firstType? hx)
  rw [hxall, List.mem_eraseDups] at hj
  rw [hall, List.mem_eraseDups]
  exact (hl.mem_of_inherits a ha).2 m (.declared hdecl hx hm) j hj

end Inheritance

end DeclGen
