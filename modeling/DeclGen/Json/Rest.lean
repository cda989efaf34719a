/-!
# Rests of a text

A reader takes characters from the start of a text and leaves the rest. The types of this module
say of a rest that it is shorter than the text, or no longer, and that is why readers end: every
step leaves a shorter text.
-/

namespace DeclGen.Json

/-- A rest of a text of which nothing need have been read. -/
structure RestLe (s : List Char) where
  text : List Char
  length_le : text.length ≤ s.length

/-- A rest of a text of which at least one character has been read. -/
structure Rest (s : List Char) where
  text : List Char
  length_lt : text.length < s.length

namespace RestLe

variable {s : List Char}

/-- All of a text. -/
def all (s : List Char) : RestLe s := ⟨s, Nat.le_refl _⟩

/-- The text after its first character. -/
def afterFirst (c : Char) (s : List Char) : RestLe (c :: s) := ⟨s, Nat.le_succ _⟩

/-- The text after the characters at its start that have a property. -/
def afterWhile (p : Char → Bool) (s : List Char) : RestLe s :=
  ⟨s.dropWhile p, (List.dropWhile_sublist p).length_le⟩

/-- A rest of a text is one of the text with a character in front. -/
def cons (c : Char) (rest : RestLe s) : RestLe (c :: s) :=
  ⟨rest.text, Nat.le_succ_of_le rest.length_le⟩

/-- With a character in front of the text, at least that has been read. -/
def consLt (c : Char) (rest : RestLe s) : Rest (c :: s) :=
  ⟨rest.text, Nat.lt_succ_of_le rest.length_le⟩

/-- A rest of a rest. -/
def trans (rest : RestLe s) (inner : RestLe rest.text) : RestLe s :=
  ⟨inner.text, Nat.le_trans inner.length_le rest.length_le⟩

end RestLe

namespace Rest

variable {s : List Char}

/-- A shorter rest is no longer. -/
def le (rest : Rest s) : RestLe s := ⟨rest.text, Nat.le_of_lt rest.length_lt⟩

/-- A rest of a rest. -/
def trans (rest : Rest s) (inner : RestLe rest.text) : Rest s :=
  ⟨inner.text, Nat.lt_of_le_of_lt inner.length_le rest.length_lt⟩

/-- A rest of a text is one of every text that is no shorter. -/
def weaken {t : List Char} (h : s.length ≤ t.length) (rest : Rest s) : Rest t :=
  ⟨rest.text, Nat.lt_of_lt_of_le rest.length_lt h⟩

end Rest

end DeclGen.Json
