import DeclGen.Json.Fault
import DeclGen.Json.Reader

/-!
# Decoding JSON values

A decoder takes a JSON value to a value of the domain, or tells the first fault in text order. The
decoders here are the general ones: for texts, words, lists and values that may be `null`, and for
*records*.

A record is written as an object or as a list of its fields in their fixed order. In an object the
fields may stand in any order, each known one at most once, and fields that are not known are
passed over. In a list, fields at the end may be left out. Which fields may be missing is for the
record to say.
-/

namespace DeclGen.Json

/-- The result of decoding. -/
abbrev Decoded (α : Type) := Except Fault α

/-- How messages show a value that is out of place; `none` where no value could be read. -/
def found : Json → Except Flaw Found
  | .null => .ok .null
  | .bool b => .ok (.bool b)
  | .number n => .ok (.number n)
  | .string s => .ok (.string s)
  | .array _ _ => .ok .sequence
  | .object _ _ => .ok .map
  | .unread flaw => .error flaw

/-- The fault of a value that stands where something else is expected. -/
def mismatch {α : Type} (expected : Expected) (v : Json) : Decoded α :=
  match v.found with
  | .ok f => .error (.mismatch (.invalidType f expected))
  | .error flaw => .error (.flaw flaw)

/-- Refuses a flaw. -/
def refuse (flaw? : Option Flaw) : Decoded Unit :=
  match flaw? with
  | some flaw => .error (.flaw flaw)
  | none => .ok ()

/-- Refuses a value that has a flaw anywhere. -/
def settle (v : Json) : Decoded Unit :=
  refuse v.flaw?

/-- Decodes a text. -/
def text : Json → Decoded String
  | .string s => .ok s
  | v => v.mismatch .string

/-- Decodes a value that may be absent, which is written `null`. -/
def optional {α : Type} (decode : Json → Decoded α) : Json → Decoded (Option α)
  | .null => .ok none
  | v => (decode v).map some

/-- Decodes a list. -/
def listOf {α : Type} (decode : Json → Decoded α) : Json → Decoded (List α)
  | .array elements ending => do
    let items ← elements.mapM decode
    refuse ending
    .ok items
  | v => v.mismatch .sequence

/-- Decodes a signed 64-bit integer. -/
def int64 : Json → Decoded Int64
  | .number (.natural n) =>
    if n < signedBound then .ok (Int64.ofNat n) else .error (.mismatch (.tooLarge n))
  | .number (.negative n) => .ok (Int64.ofInt (-n))
  | v => v.mismatch .int64

/-! ### Records -/

/-- A field of a record, as a step on the state `σ` of what has been decoded so far. -/
structure Field (σ : Type) where
  name : String
  /-- Whether the field has been decoded. -/
  isPresent : σ → Bool
  decode : Json → σ → Decoded σ

/-- A record that is decoded to values of type `α`. -/
structure Record (σ α : Type) where
  /-- The name that messages give the record. -/
  name : String
  /-- The fields in their fixed order. -/
  fields : List (Field σ)
  /-- The state before any field is decoded. -/
  start : σ
  /-- The decoded record, or the name of a field that is missing. -/
  finish : σ → Except String α

namespace Record

variable {σ α : Type}

/-- Decodes the fields of an object in text order. -/
def decodeFields (r : Record σ α) (s : σ) : List (String × Json) → Decoded σ
  | [] => .ok s
  | (key, v) :: rest =>
    match r.fields.find? (·.name == key) with
    | some field => do
      if field.isPresent s then .error (.mismatch (.duplicateField key))
      let s ← field.decode v s
      r.decodeFields s rest
    | none => do
      v.settle
      r.decodeFields s rest

/-- Decodes the elements of a list as the given fields; elements beyond the fields are left. -/
def decodeElements (s : σ) : List (Field σ) → List Json → Decoded σ
  | field :: fields, v :: rest => do
    let s ← field.decode v s
    decodeElements s fields rest
  | _, _ => .ok s

/-- Decodes a record. What to say of a list with too many elements, given their number, is up to
the caller. -/
def decode (r : Record σ α) (excess : Nat → Fault) : Json → Decoded α
  | .object fields ending => do
    let s ← r.decodeFields r.start fields
    refuse ending
    match r.finish s with
    | .ok a => .ok a
    | .error missing => .error (.mismatch (.missingField missing))
  | .array elements ending => do
    let s ← decodeElements r.start r.fields elements
    if r.fields.length < elements.length then .error (excess elements.length)
    refuse ending
    match r.finish s with
    | .ok a => .ok a
    | .error _ => .error (.mismatch (.tooFew elements.length r.name r.fields.length))
  | v => v.mismatch (.record r.name)

/-- Decodes a record inside a value that has been read as a whole. -/
def decodeWhole (r : Record σ α) : Json → Decoded α :=
  r.decode fun n => .mismatch (.tooMany n r.fields.length)

/-- Decodes a record whose parts are decoded as they are read: the text is expected to end a list
of the record's fields after the last one. -/
def decodeStreamed (r : Record σ α) : Json → Decoded α :=
  r.decode fun _ => .flaw .malformed

end Record

/-- Decodes a whole text, of which the outline tells the parts that are wanted. Only blanks may
follow the value. -/
def decodeText {α : Type} (o : Outline) (decode : Json → Decoded α) (s : String) : Decoded α := do
  let reading := read o maxDepth s.toList
  let a ← decode reading.result
  match reading.rest? with
  | some rest => if (skipBlanks rest.text).isEmpty then .ok a else .error (.flaw .malformed)
  | none => .error (.flaw (reading.result.flaw?.getD .malformed))

end DeclGen.Json
