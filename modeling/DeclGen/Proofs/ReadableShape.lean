import DeclGen.Proofs.Delimited
import DeclGen.Proofs.Shape

/-!
# Type expressions can be read back

A type expression determines the shape that it is the text of, up to what is written alike anyway:
arrays and collections, numbers and characters, unknown types and `any`
(`DeclGen.Shape.semicolon_cancel`). This holds as long as the names in it are words which are none
of the output language's own (`DeclGen.Shape.IsTypeName`).

What has to be shown is that the end of an expression can be told, since expressions stand inside
one another. A word ends at the first character that can be in no word. An index signature ends at
its brace. An array is the difficulty: its brackets stand behind its element, so where an element
ends is not known before all brackets have been seen. The statement by induction is therefore about
an expression with any number of brackets behind it, up to a semicolon
(`DeclGen.Shape.text_cancel`).
-/

namespace DeclGen

namespace Shape

open Text

/-- The words that stand for types of the output language itself. -/
def ownTypeNames : List String := ["any", "number", "string", "boolean"]

/-- A word that can be the **name of a declared type**. -/
def IsTypeName (s : String) : Prop :=
  IsWord s ∧ s ∉ ownTypeNames

instance : DecidablePred IsTypeName :=
  fun s => decidable_of_iff (IsWord s ∧ ownTypeNames.contains s = false) <| by
    rw [IsTypeName, ← Bool.not_eq_true, List.contains_iff_mem]

/-! ### What is written alike -/

/-- A shape with one of each group that is **written alike**: collections for arrays, numbers for
characters, `any` for unknown types. -/
def plain : Shape → Shape
  | .primitive .char => .primitive .number
  | .primitive p => .primitive p
  | .array element | .collection element => .collection element.plain
  | .dictionary key value => .dictionary key value.plain
  | .declared name => .declared name
  | .fallback => .primitive .any

theorem text_plain (s : Shape) : s.plain.text = s.text := by
  induction s with
  | primitive p => cases p <;> rfl
  | array element ih => rw [plain, text, text, ih]
  | collection element ih => rw [plain, text, text, ih]
  | dictionary key value ih => rw [plain, text, text, ih]
  | declared name => rfl
  | fallback => rfl

/-- A shape whose names are names of declared types can be **read back**. -/
def Readable (s : Shape) : Prop :=
  ∀ name ∈ s.names, IsTypeName name

/-- The shapes that are written as a single word. -/
def isAtom : Shape → Bool
  | .primitive _ | .declared _ | .fallback => true
  | _ => false

theorem isWord_text {s : Shape} (hatom : s.isAtom = true) (hs : s.Readable) : IsWord s.text := by
  cases s with
  | primitive p => cases p <;> decide
  | declared name => exact (hs name (.head _)).1
  | fallback => exact (by decide : IsWord "any")
  | array _ => cases hatom
  | collection _ => cases hatom
  | dictionary _ _ => cases hatom

/-- Single words that are the same stand for what is written alike. -/
theorem plain_eq_of_atom {s s' : Shape} (hatom : s.isAtom = true) (hatom' : s'.isAtom = true)
    (hs : s.Readable) (hs' : s'.Readable) (h : s.text = s'.text) : s.plain = s'.plain := by
  -- A primitive and a name are never written alike, since no name is one of the language's own.
  have hprimitive : ∀ p : Primitive, p.text ∈ ownTypeNames := by
    intro p
    cases p <;> decide
  have hown : ∀ {name : String} {p : Primitive}, IsTypeName name → name ≠ p.text :=
    fun hname heq => hname.2 (heq ▸ hprimitive _)
  have hplain : ∀ p p' : Primitive, p.text = p'.text →
      (primitive p).plain = (primitive p').plain := by
    intro p p' h
    cases p <;> cases p' <;> first | rfl | exact absurd h (by decide)
  cases s with
  | primitive p =>
    cases s' with
    | primitive p' => exact hplain p p' h
    | declared name' => exact absurd h.symm (hown (hs' name' (.head _)))
    | fallback => exact hplain p .any h
    | array _ | collection _ | dictionary _ _ => cases hatom'
  | declared name =>
    cases s' with
    | primitive p' => exact absurd h (hown (hs name (.head _)))
    | declared name' => exact congrArg declared h
    | fallback => exact absurd h (hown (p := .any) (hs name (.head _)))
    | array _ | collection _ | dictionary _ _ => cases hatom'
  | fallback =>
    cases s' with
    | primitive p' => exact hplain .any p' h
    | declared name' => exact absurd h.symm (hown (p := .any) (hs' name' (.head _)))
    | fallback => rfl
    | array _ | collection _ | dictionary _ _ => cases hatom'
  | array _ | collection _ | dictionary _ _ => cases hatom

/-! ### Brackets -/

/-- The brackets behind an element that is wrapped `n` times. -/
def brackets : Nat → List Char
  | 0 => []
  | n + 1 => '[' :: ']' :: brackets n

/-- A shape that is wrapped `n` times. -/
def wrap : Nat → Shape → Shape
  | 0, s => s
  | n + 1, s => wrap n (.collection s)

theorem brackets_cancel {n m : Nat} {rest rest' : List Char}
    (h : brackets n ++ ';' :: rest = brackets m ++ ';' :: rest') : n = m ∧ rest = rest' := by
  induction n generalizing m with
  | zero =>
    cases m with
    | zero => exact ⟨rfl, (List.cons.inj h).2⟩
    | succ m => simp [brackets] at h
  | succ n ih =>
    cases m with
    | zero => simp [brackets] at h
    | succ m =>
      have hinner : brackets n ++ ';' :: rest = brackets m ++ ';' :: rest' := by
        simpa [brackets] using h
      obtain ⟨rfl, hrest⟩ := ih hinner
      exact ⟨rfl, hrest⟩

/-- A word with brackets behind it goes on with a character that is in no word. -/
theorem exists_brackets_eq_cons (n : Nat) (rest : List Char) :
    ∃ c tail, brackets n ++ ';' :: rest = c :: tail ∧ isWordChar c = false := by
  cases n with
  | zero => exact ⟨';', rest, rfl, by decide⟩
  | succ n => exact ⟨'[', _, rfl, by decide⟩

/-! ### Reading a type expression -/

/-- The brackets of an array stand behind its element. -/
theorem text_wrapped {wrapped element : Shape} (h : wrapped.text = element.text ++ "[]") (n : Nat)
    (tail : List Char) :
    wrapped.text.toList ++ (brackets n ++ tail) =
      element.text.toList ++ (brackets (n + 1) ++ tail) := by
  rw [h, String.toList_append, List.append_assoc]
  rfl

/-- A shape that is no array, seen through the arrays around it: their brackets stand behind it. -/
theorem exists_core (s : Shape) :
    ∃ k core, (core.isAtom = true ∨ ∃ key value, core = dictionary key value) ∧
      core.names = s.names ∧ (∀ n, wrap n s.plain = wrap (n + k) core.plain) ∧
      ∀ n tail, s.text.toList ++ (brackets n ++ tail) =
        core.text.toList ++ (brackets (n + k) ++ tail) := by
  induction s with
  | primitive p => exact ⟨0, _, .inl rfl, rfl, fun _ => rfl, fun _ _ => rfl⟩
  | declared name => exact ⟨0, _, .inl rfl, rfl, fun _ => rfl, fun _ _ => rfl⟩
  | fallback => exact ⟨0, _, .inl rfl, rfl, fun _ => rfl, fun _ _ => rfl⟩
  | dictionary key value => exact ⟨0, _, .inr ⟨key, value, rfl⟩, rfl, fun _ => rfl, fun _ _ => rfl⟩
  | array element ih | collection element ih =>
    obtain ⟨k, core, hcore, hnames, hplain, htext⟩ := ih
    refine ⟨k + 1, core, hcore, hnames, fun n => ?_, fun n tail => ?_⟩
    · exact (hplain (n + 1)).trans (by rw [Nat.add_right_comm]; rfl)
    · rw [text_wrapped rfl, htext, Nat.add_right_comm]
      rfl

/-- The parts of an index signature type, from its first character on. -/
theorem text_dictionary (key : IndexKey) (value : Shape) (tail : List Char) :
    (dictionary key value).text.toList ++ tail =
      '\x7b' :: (" [key: ".toList ++ (key.text.toList ++ ']' :: ':' :: ' ' ::
        (value.text.toList ++ (brackets 0 ++ ';' :: ' ' :: '\x7d' :: tail)))) := by
  simp [text, brackets]

theorem isWord_key (key : IndexKey) : IsWord key.text := by
  cases key <;> decide

theorem key_inj {key key' : IndexKey} (h : key.text = key'.text) : key = key' := by
  cases key <;> cases key' <;> first | rfl | exact absurd h (by decide)

/-- What is written as a single word is no index signature. -/
theorem atom_ne_dictionary {s : Shape} (hatom : s.isAtom = true) (hs : s.Readable) (key : IndexKey)
    (value : Shape) (rest tail : List Char) :
    s.text.toList ++ rest ≠ (dictionary key value).text.toList ++ tail := by
  intro h
  rw [text_dictionary] at h
  exact absurd ((isWord_text hatom hs).isWordChar_of_append_eq_cons h) (by decide)

theorem atom_cancel {s s' : Shape} (hatom : s.isAtom = true) (hs : s.Readable) (hs' : s'.Readable)
    {n m : Nat} {rest rest' : List Char}
    (h : s.text.toList ++ (brackets n ++ ';' :: rest) =
      s'.text.toList ++ (brackets m ++ ';' :: rest')) :
    wrap n s.plain = wrap m s'.plain ∧ rest = rest' := by
  obtain ⟨k, core, hcore, hnames, hplain, htext⟩ := exists_core s'
  rw [htext] at h
  rw [hplain]
  have hreadable : core.Readable := by rwa [Readable, hnames]
  rcases hcore with hatom' | ⟨key, value, rfl⟩
  · obtain ⟨c, tail, hc, hstop⟩ := exists_brackets_eq_cons n rest
    obtain ⟨c', tail', hc', hstop'⟩ := exists_brackets_eq_cons (m + k) rest'
    rw [hc, hc'] at h
    obtain ⟨hword, rfl, rfl⟩ :=
      (isWord_text hatom hs).cancel (isWord_text hatom' hreadable) hstop hstop' h
    obtain ⟨rfl, hrest⟩ := brackets_cancel (hc.trans hc'.symm)
    exact ⟨congrArg _ (plain_eq_of_atom hatom hatom' hs hreadable hword), hrest⟩
  · exact absurd h (atom_ne_dictionary hatom hs key value _ _)

/-- **A type expression can be told from what follows it**, whatever brackets stand behind it, up to
a semicolon. -/
theorem text_cancel {s s' : Shape} (hs : s.Readable) (hs' : s'.Readable) {n m : Nat}
    {rest rest' : List Char}
    (h : s.text.toList ++ (brackets n ++ ';' :: rest) =
      s'.text.toList ++ (brackets m ++ ';' :: rest')) :
    wrap n s.plain = wrap m s'.plain ∧ rest = rest' := by
  induction s generalizing s' n m rest rest' with
  | primitive p => exact atom_cancel rfl hs hs' h
  | declared name => exact atom_cancel rfl hs hs' h
  | fallback => exact atom_cancel rfl hs hs' h
  | array element ih | collection element ih =>
    -- One pair of brackets more stands behind the element.
    rw [text_wrapped rfl] at h
    exact ih hs hs' h
  | dictionary key value ih =>
    obtain ⟨k, core, hcore, hnames, hplain, htext⟩ := exists_core s'
    rw [htext] at h
    rw [hplain]
    have hreadable : core.Readable := by rwa [Readable, hnames]
    rcases hcore with hatom | ⟨key', value', rfl⟩
    · exact absurd h.symm (atom_ne_dictionary hatom hreadable key value _ _)
    · rw [text_dictionary, text_dictionary] at h
      have hinner := List.append_cancel_left (List.cons.inj h).2
      obtain ⟨hkey, -, hafter⟩ :=
        (isWord_key key).cancel (isWord_key key') (by decide) (by decide) hinner
      have hexpression := (List.cons.inj (List.cons.inj hafter).2).2
      have hreadable' : value'.Readable := hreadable
      obtain ⟨hvalue, hclose⟩ := ih hs hreadable' hexpression
      have hbrackets := (List.cons.inj (List.cons.inj hclose).2).2
      obtain ⟨rfl, hrest⟩ := brackets_cancel hbrackets
      refine ⟨congrArg _ ?_, hrest⟩
      rw [plain, plain, key_inj hkey]
      exact congrArg _ hvalue

/-- **A type expression determines the shape that it is the text of**, up to what is written alike,
and it can be told from the semicolon behind it. -/
theorem semicolon_cancel {s s' : Shape} (hs : s.Readable) (hs' : s'.Readable)
    {rest rest' : List Char} (h : s.text.toList ++ ';' :: rest = s'.text.toList ++ ';' :: rest') :
    s.plain = s'.plain ∧ rest = rest' :=
  text_cancel hs hs' (n := 0) (m := 0) h

end Shape

end DeclGen
