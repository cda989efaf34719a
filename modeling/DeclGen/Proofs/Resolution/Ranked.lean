import DeclGen.Catalog.Standard
import DeclGen.Proofs.Resolution.Asked
import Mathlib

/-!
# Catalogs without cycles

A library type cannot be made if the interfaces of its entry have a fault, or if they lead back to
an entry that is pending. Neither can happen in a catalog that is **ranked**
(`DeclGen.Names.Ranked`): every key has a number, and the interfaces of an entry mention only keys
of smaller numbers and have no faults. Then every library type is made, for whatever arguments and
declared names (`DeclGen.Names.exists_libraryType_of_ranked`). The standard catalog is ranked
(`DeclGen.Catalog.ranked_standard`).
-/

namespace DeclGen

open Catalog (Key Entry)

namespace Names

variable {n : Names} {bound : String → Bool}

/-- What a reference looks up it mentions. -/
theorem LooksUp.mentions {r : Reference} {k : Key} (h : n.LooksUp bound r k) : r.Mentions k := by
  induction h with
  | simple _ => exact Reference.mentions_simple.mpr rfl
  | element _ ih => exact Reference.mentions_array.mpr ih
  | arg ha _ ih => exact Reference.mentions_named.mpr (.inr (.inl ⟨_, ha, ih⟩))
  | named _ => exact Reference.mentions_named.mpr (.inl rfl)
  | interface _ hi _ ih => exact Reference.mentions_named.mpr (.inr (.inr ⟨_, hi, ih⟩))

/-! ### Ranks -/

/-- **The catalog is ranked**: the interfaces of an entry mention keys of smaller rank only, and
they have no faults. -/
structure Ranked (n : Names) (rank : Key → Nat) : Prop where
  mentions : ∀ e ∈ n.catalog.entries, ∀ i ∈ e.interfaces, ∀ k, i.Mentions k → rank k < rank e.key
  faultless : ∀ e ∈ n.catalog.entries, ∀ i ∈ e.interfaces, ∀ err, ¬n.Fault e.binds i err

variable {rank : Key → Nat}

theorem Ranked.lt_of_opens (h : n.Ranked rank) {k k' : Key} (ho : n.Opens k k') :
    rank k' < rank k := by
  obtain ⟨e, he, i, hi, hlooks⟩ := ho
  rw [← Catalog.key_of_find? he]
  exact h.mentions e (List.mem_of_find?_eq_some he) i hi k' hlooks.mentions

theorem Ranked.lt_of_lists (h : n.Ranked rank) {k k' : Key} (hl : n.Lists k k') :
    rank k' < rank k := by
  obtain ⟨e, he, i, hi, hhead⟩ := hl
  rw [← Catalog.key_of_find? he]
  exact h.mentions e (List.mem_of_find?_eq_some he) i hi k' ⟨i, .self, hhead⟩

/-- **The top of a stack has the smallest rank.** -/
theorem Ranked.le_of_stacked (h : n.Ranked rank) {starts : Key → Prop} {stack : List Key}
    (hstack : n.Stacked starts [] stack) :
    ∀ top rest, stack = top :: rest → ∀ k ∈ stack, rank top ≤ rank k := by
  induction hstack with
  | first _ _ _ =>
    rintro _ _ ⟨⟩ k hk
    rw [List.mem_singleton.mp hk]
  | next _ ho _ _ ih =>
    rintro _ _ ⟨⟩ k hk
    rcases List.mem_cons.mp hk with rfl | hk
    · exact Nat.le_refl _
    · exact Nat.le_trans (Nat.le_of_lt (h.lt_of_opens ho)) (ih _ _ rfl k hk)

/-- **Every library type is made** in a ranked catalog. -/
theorem exists_libraryType_of_ranked (h : n.Ranked rank) (name : String) (args : List SourceType) :
    ∃ l, n.libraryType [] name args = .ok l := by
  cases hl : n.libraryType [] name args with
  | ok l => exact ⟨l, rfl⟩
  | error err =>
    exfalso
    -- The error has left a stack of open entries. What its top lists, or mentions, is at fault.
    obtain ⟨stack, hstack, herr⟩ := (cause_of_resolution n).2.2.1 [] name args err hl
    cases herr with
    | closes hlists hclosing =>
      have hle := h.le_of_stacked hstack _ _ rfl _ hclosing
      exact Nat.not_lt.mpr hle (h.lt_of_lists hlists)
    | fault hfault =>
      obtain ⟨e, he, i, hi, hf⟩ := hfault
      exact h.faultless e (List.mem_of_find?_eq_some he) i hi err hf

end Names

/-! ### The standard catalog -/

namespace Catalog

/-- How many interfaces a library type has. -/
def interfaceCount (c : Catalog) (k : Key) : Nat :=
  ((c.find? k).map (·.interfaces.length)).getD 0

/-- **The standard catalog is ranked** by how many interfaces a type has: an entry lists its
interfaces in full, so each of them has fewer. -/
theorem ranked_standard (R : Registry) :
    (Names.mk R .standard).Ranked (interfaceCount .standard) where
  mentions := by
    -- A statement for each key that an entry mentions, and all of them can be counted out.
    simp only [standard, collectionInterfaces, dictionaryInterfaces, collectionClasses,
      plainStructs, listInterfaces, applied, t, pair, enumerable, Entry.key, List.cons_append,
      List.nil_append, List.mem_cons, List.not_mem_nil, or_imp, forall_and, forall_eq,
      false_imp_iff, implies_true, and_true, true_and, Reference.mentions_named,
      Reference.mentions_simple, Reference.not_mentions_param, exists_eq_or_imp, exists_eq_left,
      false_and, exists_false, or_false, Option.getD_none, List.length_cons, List.length_nil]
    decide
  faultless := by
    simp [standard, collectionInterfaces, dictionaryInterfaces, collectionClasses, plainStructs,
      listInterfaces, applied, t, pair, enumerable, Entry.binds]

end Catalog

end DeclGen
