/-!
# JSON texts as far as they can be read

A text that stops being JSON somewhere in the middle is still read up to that place, because what
stands before it may be at fault for another reason, and the fault that comes first is the one
reported. So a `Json` value may hold *flaws*: a list or an object that ends in one, or an `unread`
value in the place where the text goes wrong. Nothing follows a flaw, since reading stops there.

An `Outline` says which parts of a text are wanted. The rest is only checked.
-/

namespace DeclGen

/-- Why a text is not JSON: a character is out of place, or the text ends too early. -/
inductive Json.Flaw where
  | malformed
  | truncated
  deriving DecidableEq, Repr

/-- A number as the text writes it. -/
inductive Json.Number where
  /-- A natural number below `2 ^ 64`. -/
  | natural (value : Nat)
  /-- The negative of a positive number up to `2 ^ 63`. -/
  | negative (value : Nat)
  /-- Any other number, as the floating-point number it is read as. -/
  | float (value : Float)

/-- A JSON text as far as it can be read. -/
inductive Json where
  | null
  | bool (value : Bool)
  | number (value : Json.Number)
  | string (value : String)
  | array (elements : List Json) (ending : Option Json.Flaw)
  /-- The fields stand in text order, and a key may stand more than once. -/
  | object (fields : List (String × Json)) (ending : Option Json.Flaw)
  /-- No value could be read. -/
  | unread (flaw : Json.Flaw)

namespace Json

/-- The parts of a text that are wanted. -/
inductive Outline where
  /-- The whole value. -/
  | whole
  /-- A word from a fixed list: a string, `null`, or an object of one entry. -/
  | keyword
  /-- A list whose elements have the given outline. -/
  | list (element : Outline)
  /-- The named fields of an object, or the leading elements of a list in their place. Other
  fields are not wanted. -/
  | record (fields : List (String × Outline))

namespace Outline

/-- The outline of the element at position `i` of a list. -/
def element (o : Outline) (i : Nat) : Outline :=
  match o with
  | .list e => e
  | .record fields => (fields[i]?.map (·.2)).getD .whole
  | _ => .whole

/-- The outline of a field; `none` if the field is not wanted. -/
def field? (o : Outline) (key : String) : Option Outline :=
  match o with
  | .record fields => fields.lookup key
  | _ => some .whole

/-- Whether a single word is wanted. -/
def isKeyword : Outline → Bool
  | .keyword => true
  | _ => false

end Outline

/-! ### The first flaw of a value -/

mutual

/-- The first flaw of a value, in text order. -/
def flaw? : Json → Option Flaw
  | .array elements ending => flawOfList? elements <|> ending
  | .object fields ending => flawOfFields? fields <|> ending
  | .unread flaw => some flaw
  | _ => none
termination_by structural v => v

/-- The first flaw among the elements of a list. -/
def flawOfList? : List Json → Option Flaw
  | [] => none
  | v :: rest => v.flaw? <|> flawOfList? rest
termination_by structural vs => vs

/-- The first flaw among the values of fields. -/
def flawOfFields? : List (String × Json) → Option Flaw
  | [] => none
  | (_, v) :: rest => v.flaw? <|> flawOfFields? rest
termination_by structural fields => fields

end

end Json

end DeclGen
