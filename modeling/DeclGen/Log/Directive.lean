import DeclGen.Log.Event
import DeclGen.Text.Alphanumeric
import DeclGen.Text.Blank

/-!
# Directives

A directive says up to which level some events are shown. It is a level, which holds for every
origin, or the beginning of an origin with a level after an equals sign. The beginning may be
followed by the name of a field, in braces and square brackets; the directive is then about the
events that have this field. Without a level, everything is shown.

    warn        a::b=debug        a::b[{name}]=trace        [{name}]

Square brackets can also name a span of a run, or ask for the value of a span's field. No run has
spans, so a directive that does so has no effect.

Blanks around a directive are passed over in finding its parts, but count in the places of the
parts. So no level is known after a blank, and the beginning of an origin can take in a blank,
which no origin has.
-/

namespace DeclGen.Log

/-- Up to which level some events are shown. -/
structure Directive where
  /-- What the origins of the events begin with. -/
  beginning : String := ""
  /-- A field that the events have; empty if they need have none. -/
  field : String := ""
  /-- The rank of the last level that is shown, or zero if none is. -/
  rank : Nat := Level.trace.rank
  deriving DecidableEq

namespace Directive

/-- Why a text is no directive. -/
inductive Fault where
  | malformed
  | unknownLevel
  deriving DecidableEq

/-- The text of a fault. -/
def Fault.message : Fault → String
  | .malformed => "invalid filter directive"
  | .unknownLevel =>
    "error parsing level filter: expected one of \"off\", \"error\", \"warn\", \"info\", "
      ++ "\"debug\", \"trace\", or a number 0-5"

/-! ### Levels -/

/-- The words for levels, with their ranks. -/
def levelWords : List (String × Nat) :=
  [("off", 0), ("error", 1), ("warn", 2), ("info", 3), ("debug", 4), ("trace", 5)]

/-- The rank that a number gives, if it is written with digits, perhaps after a plus sign, and at
most that of the last level. -/
def rankOfNumeral? (text : List Char) : Option Nat :=
  let digits := if text.head? = some '+' then text.tail else text
  if digits ≠ [] ∧ digits.all Char.isDigit then
    let n := digits.foldl (fun n d => 10 * n + (d.toNat - '0'.toNat)) 0
    if n ≤ Level.trace.rank then some n else none
  else none

/-- The rank that a number or a word gives. The case of a word does not matter. -/
def rank? (text : List Char) : Option Nat :=
  rankOfNumeral? text <|> levelWords.lookup (String.ofList (text.map Char.toLower))

/-- The rank that the text after an equals sign gives. Nothing there stands for the last level. -/
def rankAfterSign (text : List Char) : Except Fault Nat :=
  if text = [] then .ok Level.trace.rank
  else
    match rank? text with
    | some rank => .ok rank
    | none => .error .unknownLevel

/-! ### Parts -/

/-- A place in a text: what is seen from there on, and what is taken for it. -/
structure Cursor where
  seen : List Char
  taken : List Char

namespace Cursor

/-- The start of a text. The blanks around the text are not seen. -/
def start (text : List Char) : Cursor := ⟨Text.trim text, text⟩

/-- What is taken for all that is seen before the first of some characters, and the place of that
character. -/
def upTo (stops : List Char) (c : Cursor) : List Char × Cursor :=
  let n := (c.seen.takeWhile (!stops.contains ·)).length
  (c.taken.take n, ⟨c.seen.drop n, c.taken.drop n⟩)

/-- The character that is seen, and the place after it. -/
def next? (c : Cursor) : Option (Char × Cursor) :=
  match c.seen with
  | [] => none
  | char :: rest => some (char, ⟨rest, c.taken.drop 1⟩)

end Cursor

/-- Whether the name of an origin can start with a character. -/
def isStart (c : Char) : Bool :=
  c == '-' || c == ':' || c == '_' || Text.isAlphanumeric c

/-- The directive of a text without an equals sign or brackets: a level for every origin, or else
the beginning of origins, from where everything is shown. -/
def ofWord (text : List Char) : Directive :=
  match rank? text with
  | some rank => { rank }
  | none => { beginning := String.ofList text }

/-- The rank after the brackets of a directive. -/
def rankAt (c : Cursor) : Except Fault Nat :=
  match c.next? with
  | none => .ok Level.trace.rank
  | some (char, c) => if char = '=' then rankAfterSign c.taken else .error .malformed

/-- The field that is named between the brackets of a directive, and the place after the closing
bracket. There is none if a span is named, or the value of a field. -/
def fieldAt (c : Cursor) : Except Fault (Option String × Cursor) :=
  let (span, c) := c.upTo [']', '\x7b']
  match c.next? with
  | none => .error .malformed
  | some (char, c) =>
    if char = ']' then .ok (none, c)
    else
      let (field, c) := c.upTo ['\x7d']
      match c.seen with
      | '\x7d' :: ']' :: rest =>
        if field = [] then .error .malformed
        else
          let hasEffect := span = [] ∧ !field.contains '='
          .ok (if hasEffect then some (String.ofList field) else none, ⟨rest, c.taken.drop 2⟩)
      | _ => .error .malformed

/-- The directive that a text writes; `none` if it is one without effect. -/
def ofText (text : String) : Except Fault (Option Directive) :=
  let start := Cursor.start text.toList
  if !(start.seen.head?.any fun c => c == '[' || isStart c) then .error .malformed
  else
    let (beginning, c) := start.upTo ['=', '[']
    match c.next? with
    | none => .ok (some (ofWord text.toList))
    | some (char, c) =>
      if char = '=' then
        (rankAfterSign c.taken).map fun rank =>
          some { beginning := String.ofList beginning, rank }
      else do
        let (field?, c) ← fieldAt c
        let rank ← rankAt c
        .ok (field?.map fun field => { beginning := String.ofList beginning, field, rank })

/-! ### Choosing between directives -/

/-- Whether a directive is about an event. Every event has a message. -/
def covers (d : Directive) (e : Event) : Bool :=
  d.beginning.toList.isPrefixOf e.origin.toList
    && (d.field == "" || d.field == "message" || e.fields.any (·.1 == d.field))

/-- The more telling one of two directives: that with the longer beginning, else that with a
field, or with the field that comes later in the alphabet, else the second. -/
def closer (d e : Directive) : Directive :=
  match compare d.beginning.length e.beginning.length, compare d.field e.field with
  | .gt, _ | .eq, .gt => d
  | _, _ => e

end Directive

end DeclGen.Log
