import DeclGen.Block
import DeclGen.Proofs.IndexSignature
import DeclGen.Proofs.ReadableShape
import Mathlib

/-!
# Blocks can be read back

The text of a block determines the block, up to what is written alike, as long as its names are
words and its types can be read back (`DeclGen.Block.delimited_text`).

Each part of the layout shows where it ends (`DeclGen.Text.Delimited`): a member line at a
semicolon, which stands inside index signature types too; the value of an enum member at a comma or
at the end of the line; a header at its brace, whether or not it names a parent; the lines of a body
at a brace that stands where a line would begin. The blocks are put together from these parts as
`DeclGen.Block.text` puts them together.
-/

namespace DeclGen

open Text

/-! ### Lines of interfaces -/

namespace MemberLine

/-- A member line without the difference of what is written alike. -/
def plain (m : MemberLine) : MemberLine :=
  { m with shape := m.shape.plain }

/-- A member line can be **read back** if its name is a word and its type can be read back. -/
structure Readable (m : MemberLine) : Prop where
  name : IsWord m.name
  shape : m.shape.Readable

theorem toList_text (m : MemberLine) :
    m.text.toList = m.name.toList ++ ((if m.isOptional then ['?', ':', ' '] else [':', ' ']) ++
      (m.shape.text.toList ++ [';'])) := by
  cases hm : m.isOptional <;> simp [text, hm]

theorem delimited_text : Delimited Readable plain fun m => m.text.toList := by
  rintro ⟨name, o, s⟩ ⟨name', o', s'⟩ rest rest' ⟨hname, hs⟩ ⟨hname', hs'⟩ h
  simp only [toList_text, List.append_assoc] at h
  -- The character behind the name tells whether the member is optional.
  have hparts : name = name' ∧ o = o' ∧
      s.text.toList ++ ';' :: rest = s'.text.toList ++ ';' :: rest' := by
    cases o <;> cases o' <;>
      obtain ⟨rfl, hc, hlater⟩ := hname.cancel hname' (by decide) (by decide) h
    · exact ⟨rfl, rfl, (List.cons.inj hlater).2⟩
    · cases hc
    · cases hc
    · exact ⟨rfl, rfl, (List.cons.inj (List.cons.inj hlater).2).2⟩
  obtain ⟨rfl, rfl, htype⟩ := hparts
  obtain ⟨hplain, hrest⟩ := Shape.semicolon_cancel hs hs' htype
  exact ⟨by rw [plain, plain, hplain], hrest⟩

end MemberLine

namespace IndexSignature

/-- An index signature without the difference of what is written alike. -/
def plain : IndexSignature → IndexSignature
  | .keyed key value => .keyed key value.plain
  | .indexed element => .indexed element.plain

/-- An index signature can be **read back** if its type can be. -/
def Readable (sig : IndexSignature) : Prop :=
  sig.value.Readable

/-- The key of an index signature, if it has one. -/
def key? : IndexSignature → Option IndexKey
  | .keyed key _ => some key
  | .indexed _ => none

/-- What an index signature has between its brackets. -/
def keyText : Option IndexKey → String
  | some key => "key: " ++ key.text
  | none => "index: number"

theorem text_eq (sig : IndexSignature) :
    sig.text = "[" ++ keyText sig.key? ++ "]: " ++ sig.value.text ++ ";" := by
  cases sig with
  | keyed key value => cases key <;> rfl
  | indexed element => rfl

theorem toList_text (sig : IndexSignature) :
    sig.text.toList = '[' :: ((keyText sig.key?).toList ++ ']' :: ':' :: ' ' ::
      (sig.value.text.toList ++ [';'])) := by
  simp [text_eq]

/-- The brackets tell a keyed signature from an indexed one, and they tell the key. -/
theorem key?_inj {key? key?' : Option IndexKey} (h : keyText key? = keyText key?') :
    key? = key?' := by
  rcases key? with _ | _ | _ <;> rcases key?' with _ | _ | _ <;>
    first | rfl | exact absurd h (by decide)

theorem ne_bracket_of_mem_keyText (key? : Option IndexKey) :
    ∀ c ∈ (keyText key?).toList, c != ']' := by
  rcases key? with _ | _ | _ <;> simp [keyText, IndexKey.text]

theorem plain_eq_iff {sig sig' : IndexSignature} :
    sig.plain = sig'.plain ↔ sig.key? = sig'.key? ∧ sig.value.plain = sig'.value.plain := by
  cases sig <;> cases sig' <;> simp [plain, key?, value]

theorem delimited_text : Delimited Readable plain fun sig => sig.text.toList := by
  intro sig sig' rest rest' hsig hsig' h
  simp only [toList_text, List.cons_append, List.append_assoc] at h
  obtain ⟨hbrackets, -, hafter⟩ := span_cancel (p := (· != ']')) (ne_bracket_of_mem_keyText _)
    (ne_bracket_of_mem_keyText _) (by decide) (by decide) (List.cons.inj h).2
  have htype := (List.cons.inj (List.cons.inj hafter).2).2
  obtain ⟨hvalue, hrest⟩ := Shape.semicolon_cancel hsig hsig' htype
  exact ⟨plain_eq_iff.mpr ⟨key?_inj (String.toList_inj.mp hbrackets), hvalue⟩, hrest⟩

end IndexSignature

namespace Block

/-! ### Values of enums -/

/-- The characters of numbers. -/
def isNumberChar (c : Char) : Bool :=
  c.isDigit || c == '-'

theorem isNumberChar_of_mem_repr (i : Int) : ∀ c ∈ (toString i).toList, isNumberChar c := by
  have hdigits : ∀ n : Nat, ∀ c ∈ n.repr.toList, isNumberChar c := by
    intro n c hc
    rw [Nat.toList_repr] at hc
    rw [isNumberChar, Nat.isDigit_of_mem_toDigits (by decide) (by decide) hc]
    rfl
  intro c hc
  change c ∈ i.repr.toList at hc
  rw [Int.repr_eq_if] at hc
  split at hc
  · exact hdigits _ c hc
  · rcases List.mem_append.mp (String.toList_append ▸ hc) with hc | hc
    · cases List.mem_singleton.mp hc
      rfl
    · exact hdigits _ c hc

theorem number_cancel {i j : Int64} {c c' : Char} {rest rest' : List Char}
    (hc : isNumberChar c = false) (hc' : isNumberChar c' = false)
    (h : (toString i.toInt).toList ++ c :: rest = (toString j.toInt).toList ++ c' :: rest') :
    i = j ∧ c = c' ∧ rest = rest' := by
  obtain ⟨hnumber, hrest⟩ :=
    span_cancel (isNumberChar_of_mem_repr _) (isNumberChar_of_mem_repr _) hc hc' h
  exact ⟨Int64.toInt_inj.mp (Int.repr_injective (String.toList_inj.mp hnumber)), hrest⟩

/-- The line of an enum member, with its indentation and without a comma. -/
def valueText (v : String × Int64) : List Char :=
  ' ' :: ' ' :: (v.1.toList ++ ' ' :: '=' :: ' ' :: (toString v.2.toInt).toList)

/-- What stands behind the line of an enum member: further lines, each after a comma, and the end of
the last line. -/
def laterValues : List (String × Int64) → List Char
  | [] => ['\n']
  | v :: later => ',' :: '\n' :: (valueText v ++ laterValues later)

theorem toList_enumBody_cons (name : String) (v : String × Int64) (later : List (String × Int64)) :
    (enumBody { name, values := v :: later }).toList = valueText v ++ laterValues later := by
  have hline : ∀ v : String × Int64,
      (indent (v.1 ++ " = " ++ toString v.2.toInt)).toList = valueText v := by
    intro v
    simp [indent, valueText]
  have hlines : (enumBody { name, values := v :: later }).toList =
      ",\n".toList.intercalate ((v :: later).map fun v =>
        (indent (v.1 ++ " = " ++ toString v.2.toInt)).toList) ++ ['\n'] := by
    simp [enumBody, enumLines, String.toList_intercalate, Function.comp_def]
  rw [hlines]
  simp only [hline]
  clear hlines
  induction later generalizing v with
  | nil => simp [laterValues]
  | cons w later ih =>
    rw [List.map_cons, List.map_cons, List.intercalate_cons_cons, ← List.map_cons,
      List.append_assoc, ih, laterValues, List.append_assoc]
    rfl

theorem value_cancel {v v' : String × Int64} (hv : IsWord v.1) (hv' : IsWord v'.1) {c c' : Char}
    {rest rest' : List Char} (hc : isNumberChar c = false) (hc' : isNumberChar c' = false)
    (h : valueText v ++ c :: rest = valueText v' ++ c' :: rest') :
    v = v' ∧ c = c' ∧ rest = rest' := by
  simp only [valueText, List.cons_append, List.append_assoc] at h
  obtain ⟨hname, -, hafter⟩ :=
    hv.cancel hv' (by decide) (by decide) (List.cons.inj (List.cons.inj h).2).2
  obtain ⟨hvalue, hrest⟩ :=
    number_cancel hc hc' (List.cons.inj (List.cons.inj hafter).2).2
  exact ⟨Prod.ext hname hvalue, hrest⟩

/-- **The lines of an enum can be told from what follows them.** What stands behind a member's value
tells whether another member follows. -/
theorem values_cancel {v v' : String × Int64} {later later' : List (String × Int64)}
    (hv : ∀ w ∈ v :: later, IsWord w.1) (hv' : ∀ w ∈ v' :: later', IsWord w.1)
    {rest rest' : List Char}
    (h : valueText v ++ (laterValues later ++ rest) =
      valueText v' ++ (laterValues later' ++ rest')) :
    v :: later = v' :: later' ∧ rest = rest' := by
  induction later generalizing v v' later' with
  | nil =>
    cases later' with
    | nil =>
      obtain ⟨rfl, -, hrest⟩ :=
        value_cancel (hv _ (.head _)) (hv' _ (.head _)) (by decide) (by decide) h
      exact ⟨rfl, hrest⟩
    | cons w' later' =>
      obtain ⟨-, hc, -⟩ :=
        value_cancel (hv _ (.head _)) (hv' _ (.head _)) (by decide) (by decide) h
      cases hc
  | cons w later ih =>
    cases later' with
    | nil =>
      obtain ⟨-, hc, -⟩ :=
        value_cancel (hv _ (.head _)) (hv' _ (.head _)) (by decide) (by decide) h
      cases hc
    | cons w' later' =>
      obtain ⟨rfl, -, hlater⟩ :=
        value_cancel (hv _ (.head _)) (hv' _ (.head _)) (by decide) (by decide) h
      have hnext : valueText w ++ (laterValues later ++ rest) =
          valueText w' ++ (laterValues later' ++ rest') := by
        simpa [laterValues] using hlater
      obtain ⟨hrest, hend⟩ :=
        ih (fun u hu => hv u (.tail _ hu)) (fun u hu => hv' u (.tail _ hu)) hnext
      exact ⟨by rw [hrest], hend⟩

/-- The body of an enum can be told from what follows its brace. -/
theorem enumBody_cancel {b b' : EnumBlock} (hb : ∀ v ∈ b.values, IsWord v.1)
    (hb' : ∀ v ∈ b'.values, IsWord v.1) {rest rest' : List Char}
    (h : (enumBody b).toList ++ '\x7d' :: rest = (enumBody b').toList ++ '\x7d' :: rest') :
    b.values = b'.values ∧ rest = rest' := by
  obtain ⟨name, vs⟩ := b
  obtain ⟨name', vs'⟩ := b'
  cases vs with
  | nil =>
    cases vs' with
    | nil => exact ⟨rfl, (List.cons.inj h).2⟩
    | cons v' later' =>
      rw [toList_enumBody_cons] at h
      cases (List.cons.inj h).1
  | cons v later =>
    cases vs' with
    | nil =>
      rw [toList_enumBody_cons] at h
      cases (List.cons.inj h).1
    | cons v' later' =>
      rw [toList_enumBody_cons, toList_enumBody_cons, List.append_assoc, List.append_assoc] at h
      obtain ⟨hvalues, hrest⟩ := values_cancel hb hb' h
      exact ⟨hvalues, (List.cons.inj hrest).2⟩

/-! ### Blocks -/

/-- A block without the difference of what is written alike. -/
def plain : Block → Block
  | .interface b =>
    .interface
      { b with
        signature? := b.signature?.map IndexSignature.plain
        members := b.members.map MemberLine.plain }
  | .enum b => .enum b

/-- A block can be **read back** if its names are words and its types can be read back. -/
inductive Readable : Block → Prop
  | interface {b : InterfaceBlock} (name : IsWord b.name)
      (parent : ∀ p, b.parent? = some p → IsWord p)
      (signature : ∀ sig, b.signature? = some sig → sig.Readable)
      (members : ∀ m ∈ b.members, m.Readable) : Readable (.interface b)
  | enum {b : EnumBlock} (name : IsWord b.name) (values : ∀ v ∈ b.values, IsWord v.1) :
      Readable (.enum b)

/-- How the header of an interface names a parent. -/
def parentText : Option String → String
  | none => ""
  | some p => " extends " ++ p

/-- The line of an index signature in the body of an interface. -/
def signatureLine : Option IndexSignature → List Char
  | none => []
  | some sig => ' ' :: ' ' :: (sig.text.toList ++ ['\n'])

/-- The line of a member in the body of an interface. -/
def memberLine (m : MemberLine) : List Char :=
  ' ' :: ' ' :: (m.text.toList ++ ['\n'])

theorem toList_text_interface (keyword : String) (b : InterfaceBlock) :
    (text keyword (.interface b)).toList = keyword.toList ++ (" interface ".toList ++
      (b.name.toList ++ ((parentText b.parent?).toList ++ (" \x7b\n".toList ++
        (signatureLine b.signature? ++ (b.members.flatMap memberLine ++
          '\x7d' :: "\n\n".toList)))))) := by
  obtain ⟨name, parent?, signature?, members⟩ := b
  have hlines : (String.join ((interfaceLines ⟨name, parent?, signature?, members⟩).map
      fun line => indent line ++ "\n")).toList =
        signatureLine signature? ++ members.flatMap memberLine := by
    cases signature? <;>
      simp [interfaceLines, String.toList_join, signatureLine, Function.comp_def, indent,
        List.flatMap_map, memberLine.eq_unfold]
  cases parent? <;>
    simp only [text, parentText, String.toList_append, List.append_assoc, hlines] <;>
    rfl

theorem toList_text_enum (keyword : String) (b : EnumBlock) :
    (text keyword (.enum b)).toList = keyword.toList ++ (" enum ".toList ++
      (b.name.toList ++ (" \x7b\n".toList ++
        ((enumBody b).toList ++ '\x7d' :: "\n\n".toList)))) := by
  simp only [text, String.toList_append, List.append_assoc]
  rfl

/-- The end of a header can be told, and with it whether a parent is named. -/
theorem parent_cancel {p p' : Option String} (hp : ∀ s, p = some s → IsWord s)
    (hp' : ∀ s, p' = some s → IsWord s) {rest rest' : List Char}
    (h : (parentText p).toList ++ (" \x7b\n".toList ++ rest) =
      (parentText p').toList ++ (" \x7b\n".toList ++ rest')) : p = p' ∧ rest = rest' := by
  cases p with
  | none =>
    cases p' with
    | none => exact ⟨rfl, List.append_cancel_left h⟩
    | some s' =>
      rw [parentText, parentText, String.toList_append, List.append_assoc] at h
      have hbrace : '\x7b' = 'e' := (List.cons.inj (List.cons.inj h).2).1
      cases hbrace
  | some s =>
    cases p' with
    | none =>
      rw [parentText, parentText, String.toList_append, List.append_assoc] at h
      have hbrace : 'e' = '\x7b' := (List.cons.inj (List.cons.inj h).2).1
      cases hbrace
    | some s' =>
      simp only [parentText, String.toList_append, List.append_assoc] at h
      obtain ⟨rfl, -, hrest⟩ := (hp s rfl).cancel (hp' s' rfl) (by decide) (by decide)
        (List.append_cancel_left h)
      exact ⟨rfl, (List.cons.inj (List.cons.inj hrest).2).2⟩

theorem delimited_memberLine : Delimited MemberLine.Readable MemberLine.plain memberLine :=
  MemberLine.delimited_text.between "  ".toList ['\n']

/-- The line of a member is no brace, and no line of an index signature. -/
theorem memberLine_append_eq_cons {m : MemberLine} (hm : m.Readable) {c : Char}
    {rest later : List Char} (h : memberLine m ++ rest = ' ' :: ' ' :: c :: later) :
    isWordChar c = true := by
  simp only [memberLine, MemberLine.toList_text, List.cons_append, List.append_assoc] at h
  exact hm.name.isWordChar_of_append_eq_cons (List.cons.inj (List.cons.inj h).2).2

theorem memberLine_ne_brace (m : MemberLine) (rest later : List Char) :
    memberLine m ++ rest ≠ '\x7d' :: later := by
  intro h
  cases (List.cons.inj h).1

/-- The members of an interface can be told from the brace behind them. -/
theorem members_cancel {ms ms' : List MemberLine} (hms : ∀ m ∈ ms, m.Readable)
    (hms' : ∀ m ∈ ms', m.Readable) {rest rest' : List Char}
    (h : ms.flatMap memberLine ++ '\x7d' :: rest = ms'.flatMap memberLine ++ '\x7d' :: rest') :
    ms.map MemberLine.plain = ms'.map MemberLine.plain ∧ rest = rest' := by
  obtain ⟨hplain, hrest⟩ := delimited_memberLine.flatMap hms hms'
    (fun m _ _ => memberLine_ne_brace m _ _) (fun m _ _ => memberLine_ne_brace m _ _) h
  exact ⟨hplain, (List.cons.inj hrest).2⟩

/-- The body of an interface does not begin like an index signature if it has none. -/
theorem members_ne_signature {ms : List MemberLine} (hms : ∀ m ∈ ms, m.Readable)
    (sig : IndexSignature) (rest later : List Char) :
    ms.flatMap memberLine ++ '\x7d' :: rest ≠ signatureLine (some sig) ++ later := by
  intro h
  cases ms with
  | nil => cases (List.cons.inj h).1
  | cons m ms =>
    rw [List.flatMap_cons, List.append_assoc, signatureLine, IndexSignature.toList_text] at h
    exact absurd (memberLine_append_eq_cons (hms m (.head _)) h) (by decide)

/-- The body of an interface can be told from what follows its brace. -/
theorem body_cancel {sig sig' : Option IndexSignature} {ms ms' : List MemberLine}
    (hsig : ∀ s, sig = some s → s.Readable) (hsig' : ∀ s, sig' = some s → s.Readable)
    (hms : ∀ m ∈ ms, m.Readable) (hms' : ∀ m ∈ ms', m.Readable) {rest rest' : List Char}
    (h : signatureLine sig ++ (ms.flatMap memberLine ++ '\x7d' :: rest) =
      signatureLine sig' ++ (ms'.flatMap memberLine ++ '\x7d' :: rest')) :
    sig.map IndexSignature.plain = sig'.map IndexSignature.plain ∧
      ms.map MemberLine.plain = ms'.map MemberLine.plain ∧ rest = rest' := by
  cases sig with
  | none =>
    cases sig' with
    | none => exact ⟨rfl, members_cancel hms hms' h⟩
    | some s' => exact absurd h (members_ne_signature hms s' _ _)
  | some s =>
    cases sig' with
    | none => exact absurd h.symm (members_ne_signature hms' s _ _)
    | some s' =>
      obtain ⟨hplain, hmembers⟩ :=
        (IndexSignature.delimited_text.between "  ".toList ['\n']) (hsig s rfl) (hsig' s' rfl) h
      exact ⟨congrArg some hplain, members_cancel hms hms' hmembers⟩

/-- A name in a header is followed by a blank, whether a parent is named or not. -/
theorem exists_header_eq_cons (p : Option String) (rest : List Char) :
    ∃ tail, (parentText p).toList ++ (" \x7b\n".toList ++ rest) = ' ' :: tail := by
  cases p with
  | none => exact ⟨_, rfl⟩
  | some p =>
    rw [parentText, String.toList_append, List.append_assoc]
    exact ⟨_, rfl⟩

/-- The header of an interface can be told from its body. -/
theorem header_cancel {name name' : String} (hname : IsWord name) (hname' : IsWord name')
    {p p' : Option String} (hp : ∀ s, p = some s → IsWord s) (hp' : ∀ s, p' = some s → IsWord s)
    {rest rest' : List Char}
    (h : name.toList ++ ((parentText p).toList ++ (" \x7b\n".toList ++ rest)) =
      name'.toList ++ ((parentText p').toList ++ (" \x7b\n".toList ++ rest'))) :
    name = name' ∧ p = p' ∧ rest = rest' := by
  obtain ⟨tail, htail⟩ := exists_header_eq_cons p rest
  obtain ⟨tail', htail'⟩ := exists_header_eq_cons p' rest'
  have hblank := h
  rw [htail, htail'] at hblank
  obtain ⟨rfl, -, -⟩ := hname.cancel hname' (by decide) (by decide) hblank
  exact ⟨rfl, parent_cancel hp hp' (List.append_cancel_left h)⟩

theorem interface_cancel {keyword : String} {b b' : InterfaceBlock}
    (hb : Readable (.interface b)) (hb' : Readable (.interface b')) {rest rest' : List Char}
    (h : (text keyword (.interface b)).toList ++ rest =
      (text keyword (.interface b')).toList ++ rest') :
    plain (.interface b) = plain (.interface b') ∧ rest = rest' := by
  obtain ⟨hname, hparent, hsignature, hmembers⟩ := hb
  obtain ⟨hname', hparent', hsignature', hmembers'⟩ := hb'
  simp only [toList_text_interface, List.append_assoc, List.cons_append] at h
  obtain ⟨hnames, hparents, hbody⟩ := header_cancel hname hname' hparent hparent'
    (List.append_cancel_left (List.append_cancel_left h))
  obtain ⟨hsignatures, hlines, hend⟩ :=
    body_cancel hsignature hsignature' hmembers hmembers' hbody
  refine ⟨?_, List.append_cancel_left hend⟩
  rw [plain, plain, hnames, hparents, hsignatures, hlines]

theorem enum_cancel {keyword : String} {b b' : EnumBlock} (hb : Readable (.enum b))
    (hb' : Readable (.enum b')) {rest rest' : List Char}
    (h : (text keyword (.enum b)).toList ++ rest = (text keyword (.enum b')).toList ++ rest') :
    plain (.enum b) = plain (.enum b') ∧ rest = rest' := by
  obtain _ | ⟨hname, hvalues⟩ := hb
  obtain _ | ⟨hname', hvalues'⟩ := hb'
  simp only [toList_text_enum, List.append_assoc, List.cons_append] at h
  obtain ⟨hnames, -, hbody⟩ := hname.cancel hname' (by decide) (by decide)
    (List.append_cancel_left (List.append_cancel_left h))
  obtain ⟨hvalues, hend⟩ :=
    enumBody_cancel hvalues hvalues' (List.cons.inj (List.cons.inj hbody).2).2
  refine ⟨congrArg Block.enum ?_, List.append_cancel_left hend⟩
  cases b
  cases b'
  exact congrArg₂ EnumBlock.mk hnames hvalues

/-- The sort of a block can be told from its header. -/
theorem interface_ne_enum {keyword : String} (b : InterfaceBlock) (b' : EnumBlock)
    (rest rest' : List Char) :
    (text keyword (.interface b)).toList ++ rest ≠ (text keyword (.enum b')).toList ++ rest' := by
  intro h
  simp only [toList_text_interface, toList_text_enum, List.append_assoc] at h
  have hsort : 'i' = 'e' :=
    (List.cons.inj (List.cons.inj (List.append_cancel_left h)).2).1
  cases hsort

/-- **A block can be told from what follows it.** -/
theorem delimited_text (keyword : String) :
    Delimited Readable plain fun b => (b.text keyword).toList := by
  intro b b' rest rest' hb hb' h
  cases b with
  | interface b =>
    cases b' with
    | interface b' => exact interface_cancel hb hb' h
    | enum b' => exact absurd h (interface_ne_enum b b' _ _)
  | enum b =>
    cases b' with
    | interface b' => exact absurd h.symm (interface_ne_enum b' b _ _)
    | enum b' => exact enum_cancel hb hb' h

theorem text_ne_nil (keyword : String) (b : Block) (rest : List Char) :
    (b.text keyword).toList ++ rest ≠ [] := by
  intro h
  cases b with
  | interface b => simp [toList_text_interface] at h
  | enum b => simp [toList_text_enum] at h

/-- What is written alike makes no difference for the text of a block. -/
theorem text_plain (keyword : String) (b : Block) : b.plain.text keyword = b.text keyword := by
  cases b with
  | enum b => rfl
  | interface b =>
    have hsignature : ∀ sig : IndexSignature, sig.plain.text = sig.text := by
      intro sig
      cases sig <;> simp only [IndexSignature.text_eq, IndexSignature.plain, IndexSignature.key?,
        IndexSignature.value, Shape.text_plain]
    have hmember : ∀ m : MemberLine, m.plain.text = m.text := fun m => by
      rw [MemberLine.plain, MemberLine.text, MemberLine.text, Shape.text_plain]
    have hlines : interfaceLines
        { b with
          signature? := b.signature?.map IndexSignature.plain
          members := b.members.map MemberLine.plain } = interfaceLines b := by
      simp only [interfaceLines, Option.map_map, List.map_map, Function.comp_def, hsignature,
        hmember]
    simp only [plain, text, hlines]

end Block

end DeclGen
