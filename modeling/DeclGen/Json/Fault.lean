import DeclGen.Decimal.Shortest
import DeclGen.Json.Basic
import DeclGen.Text.Quoted

/-!
# Faults of a JSON text

A text is refused because it is not JSON (`Json.Flaw`), or because it is JSON of the wrong form
(`Json.Mismatch`). `Mismatch.message` is the one place of the wording.
-/

namespace DeclGen.Json

/-- What stands in a text, as far as messages tell it. -/
inductive Found where
  | null
  | bool (value : Bool)
  | number (value : Number)
  | string (value : String)
  | sequence
  | map

/-- What should stand in its place. -/
inductive Expected where
  | string
  | sequence
  | map
  | int64
  | unit
  /-- One of the four keywords for kinds. -/
  | keyword
  /-- A declaration, which carries its keyword. -/
  | declaration
  /-- A record, with the name that messages give it. -/
  | record (name : String)

/-- How a JSON value differs from the form that is wanted. -/
inductive Mismatch where
  | invalidType (found : Found) (expected : Expected)
  /-- A natural number that does not fit in a signed 64-bit word. -/
  | tooLarge (value : Nat)
  /-- A record written as a list that is too short. -/
  | tooFew (found : Nat) (record : String) (fields : Nat)
  /-- A record written as a list that is too long. -/
  | tooMany (found fields : Nat)
  | missingField (name : String)
  | duplicateField (name : String)
  | unknownKeyword (word : String)
  /-- A value that is no reference to a type in any of its written forms. -/
  | noReference

/-- Why a text is refused. -/
inductive Fault where
  | flaw (flaw : Flaw)
  | mismatch (mismatch : Mismatch)

/-! ### Wording -/

namespace Found

/-- How messages show what stands in a text. -/
def text : Found → String
  | .null => "null"
  | .bool b => "boolean `" ++ toString b ++ "`"
  | .number (.natural n) => "integer `" ++ toString n ++ "`"
  | .number (.negative n) => "integer `-" ++ toString n ++ "`"
  | .number (.float f) => "floating point `" ++ Decimal.text f ++ "`"
  | .string s => "string " ++ Text.quote s
  | .sequence => "sequence"
  | .map => "map"

end Found

namespace Expected

/-- How messages show what should stand in a text. -/
def text : Expected → String
  | .string => "a string"
  | .sequence => "a sequence"
  | .map => "a map"
  | .int64 => "i64"
  | .unit => "unit"
  | .keyword => "variant identifier"
  | .declaration => "internally tagged enum RawDeclaration"
  | .record name => "struct " ++ name

end Expected

namespace Mismatch

/-- The text of a mismatch. -/
def message : Mismatch → String
  | .invalidType found expected =>
    "invalid type: " ++ found.text ++ ", expected " ++ expected.text
  | .tooLarge value => "invalid value: integer `" ++ toString value ++ "`, expected i64"
  | .tooFew found record fields =>
    "invalid length " ++ toString found ++ ", expected struct " ++ record ++ " with "
      ++ toString fields ++ " elements"
  | .tooMany found fields =>
    "invalid length " ++ toString found ++ ", expected " ++ toString fields
      ++ " elements in sequence"
  | .missingField name => "missing field `" ++ name ++ "`"
  | .duplicateField name => "duplicate field `" ++ name ++ "`"
  | .unknownKeyword word =>
    "unknown variant `" ++ word ++ "`, expected one of `class`, `struct`, `interface`, `enum`"
  | .noReference => "data did not match any variant of untagged enum RawTypeRef"

end Mismatch

end DeclGen.Json
