import DeclGen.Json.Decode
import DeclGen.SourceType.Basic

/-!
# Type references as they are written

Dumps and catalogs refer to types in four forms.

* A name alone, as a string.
* An array: an object with the field `array`.
* A type parameter: an object with the field `param`.
* A name with arguments and, for a type that is neither declared nor in a catalog, its kind, its
  role and its interfaces: an object, or a list of these five in this order.

The forms are tried in this order, and a form that a value does not fit is passed over. So an
object with an `array` that is no reference may still be a named type.
-/

namespace DeclGen

/-- A keyword for a kind. -/
inductive DeclKind where
  | classType
  | structType
  | interfaceType
  | enumType
  deriving DecidableEq, Repr

namespace DeclKind

/-- The keywords. -/
def keywords : List (String × DeclKind) :=
  [("class", .classType), ("struct", .structType), ("interface", .interfaceType),
   ("enum", .enumType)]

/-- The kind that a word names. -/
def ofKeyword? (word : String) : Option DeclKind :=
  keywords.lookup word

/-- The kind of a type so declared. -/
def toKind : DeclKind → Kind
  | .classType => .classType
  | .structType => .structType
  | .interfaceType => .interfaceType
  | .enumType => .enumType

/-- The kind that a value inside a reference names: a word, or an object whose one entry has the
word as its key and `null` as its value. -/
def ofJson? : Json → Option DeclKind
  | .string word => ofKeyword? word
  | .object [(word, .null)] none => ofKeyword? word
  | _ => none

end DeclKind

/-- A type reference as it is written. -/
inductive Reference where
  /-- A name alone. -/
  | simple (name : String)
  | array (element : Reference)
  /-- A type parameter of the declaration or catalog entry around it. -/
  | param (name : String)
  /-- A name with arguments and what is said of the type in place. -/
  | named (name : String) (args : List Reference) (kind : Option DeclKind)
      (special : Option String) (interfaces : Option (List Reference))

namespace Reference

/-! ### Decoding -/

/-- A part of a reference: it may be absent, and it may be there in a form that does not fit. -/
inductive Part (α : Type) where
  | absent
  | unfit
  | fit (value : α)

namespace Part

variable {α : Type}

/-- The part after one more occurrence of it: a part that occurs twice does not fit. -/
def add (p : Part α) (value? : Option α) : Part α :=
  match p, value? with
  | .absent, some a => .fit a
  | _, _ => .unfit

/-- The value of a part that must be there. -/
def required? : Part α → Option α
  | .fit a => some a
  | _ => none

/-- The value of a part that may be absent. -/
def getD? (p : Part α) (default : α) : Option α :=
  match p with
  | .absent => some default
  | .unfit => none
  | .fit a => some a

end Part

/-- The parts of a reference that an object or a list holds. -/
structure Parts where
  array : Part Reference := .absent
  param : Part String := .absent
  name : Part String := .absent
  args : Part (List Reference) := .absent
  kind : Part (Option DeclKind) := .absent
  special : Part (Option String) := .absent
  interfaces : Part (Option (List Reference)) := .absent

namespace Parts

/-- The named type that the parts make. -/
def named? (p : Parts) : Option Reference := do
  let name ← p.name.required?
  let args ← p.args.getD? []
  let kind ← p.kind.getD? none
  let special ← p.special.getD? none
  let interfaces ← p.interfaces.getD? none
  some (.named name args kind special interfaces)

/-- The reference that the parts of an object make: an array, a type parameter or a named type,
whichever fits first. -/
def reference? (p : Parts) : Option Reference :=
  (p.array.required?.map .array) <|> (p.param.required?.map .param) <|> p.named?

end Parts

/-- The text of a value. -/
def text? : Json → Option String
  | .string s => some s
  | _ => none

/-- A text that may be absent. -/
def optionalText? : Json → Option (Option String)
  | .null => some none
  | .string s => some (some s)
  | _ => none

/-- A kind that may be absent. -/
def optionalKind? : Json → Option (Option DeclKind)
  | .null => some none
  | v => (DeclKind.ofJson? v).map some

mutual

/-- The reference that a value without flaws is. -/
def ofJson? : Json → Option Reference
  | .string name => some (.simple name)
  | .object fields _ => (partsOf {} fields).reference?
  | .array elements _ => (partsOfList 0 {} elements).named?
  | _ => none
termination_by structural v => v

/-- The references that the elements of a list are. -/
def ofElements? : List Json → Option (List Reference)
  | [] => some []
  | v :: rest =>
    match ofJson? v, ofElements? rest with
    | some r, some rs => some (r :: rs)
    | _, _ => none
termination_by structural vs => vs

/-- The list of references that a value is. -/
def listOfJson? : Json → Option (List Reference)
  | .array elements _ => ofElements? elements
  | _ => none
termination_by structural v => v

/-- The list of references that a value is, where it may be absent. -/
def optionalListOfJson? : Json → Option (Option (List Reference))
  | .null => some none
  | .array elements _ => (ofElements? elements).map some
  | _ => none
termination_by structural v => v

/-- Adds the fields of an object to the parts of a reference. -/
def partsOf (p : Parts) : List (String × Json) → Parts
  | [] => p
  | (key, v) :: rest =>
    let p :=
      match key with
      | "array" => { p with array := p.array.add (ofJson? v) }
      | "param" => { p with param := p.param.add (text? v) }
      | "name" => { p with name := p.name.add (text? v) }
      | "args" => { p with args := p.args.add (listOfJson? v) }
      | "kind" => { p with kind := p.kind.add (optionalKind? v) }
      | "special" => { p with special := p.special.add (optionalText? v) }
      | "interfaces" => { p with interfaces := p.interfaces.add (optionalListOfJson? v) }
      | _ => p
    partsOf p rest
termination_by structural fields => fields

/-- Adds the elements of a list, from position `i` on, to the parts of a named type. A list that
is too long fits nothing. -/
def partsOfList (i : Nat) (p : Parts) : List Json → Parts
  | [] => p
  | v :: rest =>
    let p :=
      match i with
      | 0 => { p with name := p.name.add (text? v) }
      | 1 => { p with args := p.args.add (listOfJson? v) }
      | 2 => { p with kind := p.kind.add (optionalKind? v) }
      | 3 => { p with special := p.special.add (optionalText? v) }
      | 4 => { p with interfaces := p.interfaces.add (optionalListOfJson? v) }
      | _ => { p with name := .unfit }
    partsOfList (i + 1) p rest
termination_by structural elements => elements

end

/-- Decodes a reference. It is read as a whole before its form is looked at. -/
def decode (v : Json) : Json.Decoded Reference := do
  v.settle
  match ofJson? v with
  | some r => .ok r
  | none => .error (.mismatch .noReference)

end Reference

end DeclGen
