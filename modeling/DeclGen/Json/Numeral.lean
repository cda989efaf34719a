import DeclGen.Json.Basic
import DeclGen.Json.Rest

/-!
# Numbers in a JSON text

A *numeral* is the written form of a number: a sign, whole digits without a superfluous zero in
front, and perhaps a fraction and an exponent. Its value is an integer when it has neither of the
two and fits in 64 bits, and a floating-point number otherwise.

The floating-point value comes from two steps. The digits are gathered into a significand of at
most 64 bits; digits that no longer fit are left out, and count only in the exponent. Then the
significand is multiplied with a power of ten, or divided by powers of ten. This rounds up to
three times, so the value may differ from the nearest one in its last bits.
-/

namespace DeclGen.Json

/-- The written form of a number. -/
structure Numeral where
  isNegative : Bool
  whole : List Char
  /-- The digits after the point. -/
  fraction? : Option (List Char)
  /-- Whether the exponent is negative, and its digits. -/
  exponent? : Option (Bool × List Char)

/-! ### Reading a numeral -/

/-- One digit or more, and the rest of the text. -/
def someDigits (s : List Char) : Except Flaw (List Char × Rest s) :=
  match s with
  | [] => .error .truncated
  | c :: r =>
    if c.isDigit then
      .ok (c :: r.takeWhile Char.isDigit, (RestLe.afterWhile Char.isDigit r).consLt c)
    else .error .malformed

/-- The whole digits of a numeral: a single zero, or digits that do not start with zero. -/
def wholeDigits (s : List Char) : Except Flaw (List Char × Rest s) := do
  let (digits, rest) ← someDigits s
  if digits.head? = some '0' ∧ digits.length ≠ 1 then .error .malformed
  else .ok (digits, rest)

/-- The fraction, if a point follows. -/
def fraction (s : List Char) : Except Flaw (Option (List Char) × RestLe s) :=
  match s with
  | '.' :: r => do
    let (digits, rest) ← someDigits r
    .ok (some digits, rest.le.cons _)
  | s => .ok (none, .all s)

/-- The sign in front of an exponent's digits. -/
def exponentSign (s : List Char) : Bool × RestLe s :=
  match s with
  | '-' :: r => (true, .afterFirst _ r)
  | '+' :: r => (false, .afterFirst _ r)
  | s => (false, .all s)

/-- The exponent, if its mark follows. -/
def exponent (s : List Char) : Except Flaw (Option (Bool × List Char) × RestLe s) :=
  match s with
  | c :: r =>
    if c = 'e' ∨ c = 'E' then do
      let (isNegative, unsigned) := exponentSign r
      let (digits, rest) ← someDigits unsigned.text
      .ok (some (isNegative, digits), (unsigned.trans rest.le).cons c)
    else .ok (none, .all (c :: r))
  | [] => .ok (none, .all [])

/-- The numeral at the start of a text whose sign has been read. -/
def unsignedNumeral (isNegative : Bool) (s : List Char) : Except Flaw (Numeral × Rest s) := do
  let (whole, r₁) ← wholeDigits s
  let (fraction?, r₂) ← fraction r₁.text
  let (exponent?, r₃) ← exponent (r₁.trans r₂).text
  .ok ({ isNegative, whole, fraction?, exponent? }, (r₁.trans r₂).trans r₃)

/-! ### The value of a numeral -/

/-- The first number that is too large for a 64-bit word. -/
def wordBound : Nat := 0x10000000000000000

/-- The first number that is too large for a signed 64-bit word. -/
def signedBound : Nat := 0x8000000000000000

namespace Numeral

/-- Appends a digit to a number, as long as the result fits in a 64-bit word. -/
def pushDigit? (n : Nat) (digit : Char) : Option Nat :=
  let m := n * 10 + (digit.toNat - '0'.toNat)
  if m < wordBound then some m else none

/-- Gathers whole digits into a significand, with the number of digits that did not fit. -/
def gatherWhole (n : Nat) : List Char → Nat × Nat
  | [] => (n, 0)
  | c :: rest =>
    match pushDigit? n c with
    | some m => gatherWhole m rest
    | none => (n, rest.length + 1)

/-- Gathers digits of a fraction into a significand, up to the first that does not fit, with the
number of digits gathered. -/
def gatherFraction (n : Nat) : List Char → Nat × Nat
  | [] => (n, 0)
  | c :: rest =>
    match pushDigit? n c with
    | some m => let (k, count) := gatherFraction m rest; (k, count + 1)
    | none => (n, 0)

/-- The number that digits write. -/
def ofDigits (digits : List Char) : Nat :=
  digits.foldl (fun n c => n * 10 + (c.toNat - '0'.toNat)) 0

/-- The exponent as it is written. -/
def writtenExponent (n : Numeral) : Int :=
  match n.exponent? with
  | none => 0
  | some (isNegative, digits) => if isNegative then -(ofDigits digits : Int) else ofDigits digits

/-- The power of ten with the given exponent. -/
def powerOfTen (e : Nat) : Float :=
  Float.ofScientific 1 false e

/-- Divides by the power of ten with the given exponent, by `10 ^ 308` at a time. -/
def divide (f : Float) (e : Nat) : Float :=
  if e ≤ 308 then f / powerOfTen e
  else if f == 0 then f
  else divide (f / powerOfTen 308) (e - 308)
termination_by e
decreasing_by omega

/-- Scales a significand by a power of ten; `none` if the result is too large. -/
def scale? (significand : Nat) (e : Int) : Option Float :=
  let f := Float.ofScientific significand false 0
  if e < 0 then some (divide f e.natAbs)
  else if e ≤ 308 then
    let g := f * powerOfTen e.natAbs
    if g.isInf then none else some g
  else if f == 0 then some f
  else none

/-- The value of a numeral; `none` if it is too large for a floating-point number. -/
def value? (n : Numeral) : Option Number :=
  let (w, left) := gatherWhole 0 n.whole
  let float (significand : Nat) (e : Int) : Option Number :=
    (scale? significand e).map fun f => .float (if n.isNegative then -f else f)
  match n.fraction?, n.exponent? with
  | none, none =>
    if left ≠ 0 then float w left
    else if !n.isNegative then some (.natural w)
    else if w ≠ 0 ∧ w ≤ signedBound then some (.negative w)
    else float w 0
  | none, some _ => float w (left + n.writtenExponent)
  | some digits, _ =>
    let (significand, count) := gatherFraction w digits
    float significand (left - count + n.writtenExponent)

end Numeral

/-- The number at the start of a text whose sign has been read. -/
def readNumber (isNegative : Bool) (s : List Char) : Except Flaw (Number × Rest s) := do
  let (n, rest) ← unsignedNumeral isNegative s
  match n.value? with
  | some v => .ok (v, rest)
  | none => .error .malformed

/-- Passes over a number whose value is not wanted. It may be too large, and a number that breaks
off is malformed. -/
def skipNumber (isNegative : Bool) (s : List Char) : Except Flaw (Rest s) :=
  match unsignedNumeral isNegative s with
  | .ok (_, rest) => .ok rest
  | .error _ => .error .malformed

end DeclGen.Json
