import Mathlib.Data.List.Basic

/-!
# Texts that show where they end

Things that are written one after the other can be read back if each of them shows where it ends:
two texts that start with such things and are the same start with the same thing, and go on in the
same way (`DeclGen.Text.Delimited`). A word does, since what follows it is no character of words
(`DeclGen.Text.IsWord.cancel`), and a list does if its elements do and nothing that follows it could
be an element (`DeclGen.Text.Delimited.flatMap`).
-/

namespace DeclGen.Text

/-! ### Words -/

/-- **What is made of characters of some kind ends at the first other character**, so it can be told
from what follows it. -/
theorem span_cancel {p : Char → Bool} {w w' rest rest' : List Char} {c c' : Char}
    (hw : ∀ a ∈ w, p a) (hw' : ∀ a ∈ w', p a) (hc : p c = false) (hc' : p c' = false)
    (h : w ++ c :: rest = w' ++ c' :: rest') : w = w' ∧ c = c' ∧ rest = rest' := by
  have hword := congrArg (List.takeWhile p) h
  rw [List.takeWhile_append_of_pos hw, List.takeWhile_append_of_pos hw', List.takeWhile_cons,
    List.takeWhile_cons, hc, hc'] at hword
  have hword : w = w' := by simpa using hword
  subst hword
  obtain ⟨rfl, rfl⟩ := List.cons.inj (List.append_cancel_left h)
  exact ⟨rfl, rfl, rfl⟩

/-- The characters of words: letters and digits of ASCII, the underscore and the dollar sign. -/
def isWordChar (c : Char) : Bool :=
  c.isAlphanum || c == '_' || c == '$'

/-- A **word** is a text of one or more such characters. Identifiers are words. -/
def IsWord (s : String) : Prop :=
  s.toList ≠ [] ∧ ∀ c ∈ s.toList, isWordChar c

instance : DecidablePred IsWord :=
  fun s => decidable_of_iff (s.toList.isEmpty = false ∧ s.toList.all isWordChar = true) <| by
    rw [IsWord, List.all_eq_true, ← Bool.not_eq_true, List.isEmpty_iff]

theorem IsWord.cancel {s s' : String} (hs : IsWord s) (hs' : IsWord s') {c c' : Char}
    {rest rest' : List Char} (hc : isWordChar c = false) (hc' : isWordChar c' = false)
    (h : s.toList ++ c :: rest = s'.toList ++ c' :: rest') :
    s = s' ∧ c = c' ∧ rest = rest' := by
  obtain ⟨hword, hrest⟩ := span_cancel hs.2 hs'.2 hc hc' h
  exact ⟨String.toList_inj.mp hword, hrest⟩

/-- What starts with a word starts with a character of words. -/
theorem IsWord.isWordChar_of_append_eq_cons {s : String} (hs : IsWord s) {c : Char}
    {rest rest' : List Char} (h : s.toList ++ rest = c :: rest') : isWordChar c = true := by
  obtain ⟨hne, hall⟩ := hs
  cases hl : s.toList with
  | nil => exact absurd hl hne
  | cons c' w =>
    rw [hl, List.cons_append] at h
    obtain ⟨rfl, -⟩ := List.cons.inj h
    exact hall c' (by simp [hl])

/-! ### Delimited writing -/

section Delimited

variable {α β : Type} {P : α → Prop} {view : α → β} {write : α → List Char}

/-- Things are written in a **delimited** way: a text that starts with one of them tells which it
is, as far as some view of it goes, and where it ends. -/
def Delimited (P : α → Prop) (view : α → β) (write : α → List Char) : Prop :=
  ∀ ⦃a a' : α⦄ ⦃rest rest' : List Char⦄, P a → P a' → write a ++ rest = write a' ++ rest' →
    view a = view a' ∧ rest = rest'

/-- Fixed texts before and behind do no harm. -/
theorem Delimited.between (h : Delimited P view write) (before behind : List Char) :
    Delimited P view fun a => before ++ (write a ++ behind) := by
  intro a a' rest rest' ha ha' heq
  simp only [List.append_assoc] at heq
  obtain ⟨hview, hrest⟩ := h ha ha' (List.append_cancel_left heq)
  exact ⟨hview, List.append_cancel_left hrest⟩

/-- **A list can be told from what follows it** if that starts with nothing that could be an
element. -/
theorem Delimited.flatMap (h : Delimited P view write) {l l' : List α} {rest rest' : List Char}
    (hl : ∀ a ∈ l, P a) (hl' : ∀ a ∈ l', P a)
    (hrest : ∀ a, P a → ∀ later, write a ++ later ≠ rest)
    (hrest' : ∀ a, P a → ∀ later, write a ++ later ≠ rest')
    (heq : l.flatMap write ++ rest = l'.flatMap write ++ rest') :
    l.map view = l'.map view ∧ rest = rest' := by
  induction l generalizing l' with
  | nil =>
    cases l' with
    | nil => exact ⟨rfl, heq⟩
    | cons a' l' =>
      rw [List.flatMap_cons, List.append_assoc] at heq
      exact absurd heq.symm (hrest a' (hl' a' (.head _)) _)
  | cons a l ih =>
    have ha := hl a (.head _)
    cases l' with
    | nil =>
      rw [List.flatMap_cons, List.append_assoc] at heq
      exact absurd heq (hrest' a ha _)
    | cons a' l' =>
      simp only [List.flatMap_cons, List.append_assoc] at heq
      obtain ⟨hview, hlater⟩ := h ha (hl' a' (.head _)) heq
      obtain ⟨hviews, hend⟩ := ih (fun b hb => hl b (.tail _ hb)) (fun b hb => hl' b (.tail _ hb))
        hlater
      exact ⟨by rw [List.map_cons, List.map_cons, hview, hviews], hend⟩

end Delimited

end DeclGen.Text
