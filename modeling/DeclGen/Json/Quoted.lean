import DeclGen.Json.Numeral

/-!
# Strings in a JSON text

A string stands between quotes. Control characters may not stand in it, and a backslash begins an
escape: one letter, or `u` with four hexadecimal digits, which give a 16-bit unit. A character
beyond the first 65536 is written by two units, a high surrogate and a low one.

A string that is kept must be text, so its surrogates must come in pairs. In a string that is only
passed over any four hexadecimal digits will do.
-/

namespace DeclGen.Json

/-- The value of a hexadecimal digit. -/
def hexDigit? (c : Char) : Option Nat :=
  if c.isDigit then some (c.toNat - '0'.toNat)
  else if 'a' ≤ c ∧ c ≤ 'f' then some (c.toNat - 'a'.toNat + 10)
  else if 'A' ≤ c ∧ c ≤ 'F' then some (c.toNat - 'A'.toNat + 10)
  else none

/-- The number that four hexadecimal digits write. -/
def hexUnit? (a b c d : Char) : Option Nat := do
  let a ← hexDigit? a
  let b ← hexDigit? b
  let c ← hexDigit? c
  let d ← hexDigit? d
  some (((a * 16 + b) * 16 + c) * 16 + d)

/-- Why no unit could be read: the text has fewer than four bytes left, or they are no digits. -/
def unitFlaw (s : List Char) : Flaw :=
  if (String.ofList (s.take 4)).utf8ByteSize < 4 then .truncated else .malformed

/-- The 16-bit unit at the start of a text. -/
def hexUnit (s : List Char) : Except Flaw (Nat × RestLe s) :=
  match s with
  | a :: b :: c :: d :: rest =>
    match hexUnit? a b c d with
    | some n => .ok (n, (((RestLe.all rest).cons d).cons c).cons b |>.cons a)
    | none => .error .malformed
  | s => .error (unitFlaw s)

/-- Whether a unit is a high surrogate. -/
def isHigh (n : Nat) : Bool := 0xD800 ≤ n && n ≤ 0xDBFF

/-- Whether a unit is a low surrogate. -/
def isLow (n : Nat) : Bool := 0xDC00 ≤ n && n ≤ 0xDFFF

/-- The low surrogate that must follow a high one. -/
def lowUnit (s : List Char) : Except Flaw (Nat × RestLe s) :=
  match s with
  | [] | ['\\'] => .error .truncated
  | '\\' :: 'u' :: r => do
    let (n, rest) ← hexUnit r
    if isLow n then .ok (n, (rest.cons _).cons _)
    else .error .malformed
  | _ => .error .malformed

/-- The character of a Unicode escape, at the start of a text that follows its `u`. -/
def unicodeEscape (s : List Char) : Except Flaw (Char × RestLe s) := do
  let (high, r₁) ← hexUnit s
  if isLow high then .error .malformed
  else if isHigh high then
    let (low, r₂) ← lowUnit r₁.text
    .ok (Char.ofNat (0x10000 + (high - 0xD800) * 0x400 + (low - 0xDC00)), r₁.trans r₂)
  else .ok (Char.ofNat high, r₁)

/-- The character that an escape of one letter stands for. -/
def letterEscape? (c : Char) : Option Char :=
  match c with
  | '"' => some '"'
  | '\\' => some '\\'
  | '/' => some '/'
  | 'b' => some '\x08'
  | 'f' => some '\x0c'
  | 'n' => some '\n'
  | 'r' => some '\r'
  | 't' => some '\t'
  | _ => none

/-- The character of an escape, at the start of a text that follows its backslash. -/
def escape (s : List Char) : Except Flaw (Char × RestLe s) :=
  match s with
  | [] => .error .truncated
  | 'u' :: r => do
    let (c, rest) ← unicodeEscape r
    .ok (c, rest.cons _)
  | c :: r =>
    match letterEscape? c with
    | some e => .ok (e, .afterFirst c r)
    | none => .error .malformed

/-- Passes over an escape whose character is not wanted. -/
def skipEscape (s : List Char) : Except Flaw (RestLe s) :=
  match s with
  | [] => .error .truncated
  | 'u' :: r => do
    let (_, rest) ← hexUnit r
    .ok (rest.cons _)
  | c :: r =>
    match letterEscape? c with
    | some _ => .ok (.afterFirst c r)
    | none => .error .malformed

/-- Whether a character may not stand in a string as itself. -/
def isControl (c : Char) : Bool := c.toNat < 0x20

/-- The characters of the string at the start of a text that follows its opening quote. -/
def readQuoted (s : List Char) : Except Flaw (List Char × Rest s) :=
  match s with
  | [] => .error .truncated
  | c :: r =>
    if c = '"' then .ok ([], (RestLe.all r).consLt c)
    else if c = '\\' then do
      let (e, afterEscape) ← escape r
      have := afterEscape.length_le
      let (text, rest) ← readQuoted afterEscape.text
      .ok (e :: text, (afterEscape.trans rest.le).consLt c)
    else if isControl c then .error .malformed
    else do
      let (text, rest) ← readQuoted r
      .ok (c :: text, rest.le.consLt c)
termination_by s.length
decreasing_by all_goals simp only [List.length_cons]; omega

/-- Passes over a string that is not wanted. -/
def skipQuoted (s : List Char) : Except Flaw (Rest s) :=
  match s with
  | [] => .error .truncated
  | c :: r =>
    if c = '"' then .ok ((RestLe.all r).consLt c)
    else if c = '\\' then do
      let afterEscape ← skipEscape r
      have := afterEscape.length_le
      let rest ← skipQuoted afterEscape.text
      .ok ((afterEscape.trans rest.le).consLt c)
    else if isControl c then .error .malformed
    else do
      let rest ← skipQuoted r
      .ok (rest.le.consLt c)
termination_by s.length
decreasing_by all_goals simp only [List.length_cons]; omega

end DeclGen.Json
