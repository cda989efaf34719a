/-!
# The shortest decimal of a floating-point number

A floating-point number stands for all the reals that round to it. Of the decimals among these
reals the *shortest* one is the one with the fewest digits, and of several with the fewest digits
the one nearest to the number itself. It is found by exact arithmetic: for one digit, two digits
and so on, the two neighbours of the number on the grid of that many digits are tested.

`Decimal.text` lays the digits out: positionally up to sixteen places before the point and four
zeros behind it, with a point and a digit after it in any case, and by an exponent with its sign
otherwise.
-/

namespace DeclGen.Decimal

/-- The positive number `mantissa * 2 ^ exponent`. -/
structure Binary where
  mantissa : Nat
  exponent : Int
  /-- Whether the number below is only half as far away as the number above. -/
  isNarrowBelow : Bool

/-- The absolute value of a finite number. -/
def Binary.ofFloat (f : Float) : Binary :=
  let bits := f.toBits
  let e := ((bits >>> 52) &&& 0x7FF).toNat
  let m := (bits &&& 0xFFFFFFFFFFFFF).toNat
  if e = 0 then ⟨m, -1074, false⟩ else ⟨0x10000000000000 + m, (e : Int) - 1075, m = 0 ∧ 1 < e⟩

/-- The number times the power of a base, if the exponent is positive. -/
def scaleUp (n base : Nat) (e : Int) : Nat :=
  n * Nat.pow base e.toNat

/-- Compares `a * 10 ^ i` with `b * 2 ^ j`. -/
def compareScaled (a : Nat) (i : Int) (b : Nat) (j : Int) : Ordering :=
  compare (scaleUp (scaleUp a 10 i) 2 (-j)) (scaleUp (scaleUp b 2 j) 10 (-i))

/-- Whether the decimal `digits * 10 ^ e` rounds to the number. The ends of the interval of reals
that do belong to it exactly when the mantissa is even. -/
def Binary.isReadFrom (x : Binary) (digits : Nat) (e : Int) : Bool :=
  let low := 4 * x.mantissa - (if x.isNarrowBelow then 1 else 2)
  let high := 4 * x.mantissa + 2
  let above := compareScaled digits e low (x.exponent - 2)
  let below := compareScaled digits e high (x.exponent - 2)
  let isEven := x.mantissa % 2 = 0
  (above = .gt ∨ above = .eq ∧ isEven) ∧ (below = .lt ∨ below = .eq ∧ isEven)

/-- The number divided by `10 ^ e`, rounded down. -/
def Binary.onGrid (x : Binary) (e : Int) : Nat :=
  scaleUp (scaleUp x.mantissa 2 x.exponent) 10 (-e) / scaleUp (scaleUp 1 2 (-x.exponent)) 10 e

/-- The decimal exponent of the leading digit, plus one. -/
def Binary.scale (x : Binary) : Int :=
  let estimate : Int := ((x.mantissa.log2 : Int) + x.exponent) * 30103 / 100000
  let candidates := [estimate - 1, estimate, estimate + 1, estimate + 2]
  (candidates.find? fun k => compareScaled 1 k x.mantissa x.exponent = .gt).getD (estimate + 3)

/-- The better of the two neighbours of the number on the grid `10 ^ e`, if one of them rounds to
the number: the nearer one, and the even one where both are equally near. -/
def Binary.neighbour? (x : Binary) (e : Int) : Option Nat :=
  let d := x.onGrid e
  match x.isReadFrom d e, x.isReadFrom (d + 1) e with
  | true, false => some d
  | false, true => some (d + 1)
  | false, false => none
  | true, true =>
    match compareScaled (2 * d + 1) e (2 * x.mantissa) x.exponent with
    | .gt => some d
    | .lt => some (d + 1)
    | .eq => some (if d % 2 = 0 then d else d + 1)

/-- The shortest decimal of a positive number, as digits and exponent. Seventeen digits always
suffice. -/
def Binary.shortest (x : Binary) : Nat × Int :=
  let k := x.scale
  let grids := (List.range 17).map fun n : Nat => k - (n + 1)
  (grids.findSome? fun e => (x.neighbour? e).map (·, e)).getD (x.onGrid (k - 17), k - 17)

/-- The digits without zeros at the end, and the exponent raised by their number. -/
def stripZeros (digits : List Char) (e : Int) : List Char × Int :=
  let stripped := (digits.reverse.dropWhile (· == '0')).reverse
  (stripped, e + (digits.length - stripped.length : Nat))

/-- Lays out digits whose last one counts `10 ^ e`. -/
def layOut (digits : List Char) (e : Int) : List Char :=
  let point := digits.length + e
  if 0 ≤ e ∧ point ≤ 16 then digits ++ List.replicate e.toNat '0' ++ ['.', '0']
  else if 0 < point ∧ point ≤ 16 then
    digits.take point.toNat ++ ['.'] ++ digits.drop point.toNat
  else if -5 < point ∧ point ≤ 0 then
    ['0', '.'] ++ List.replicate (-point).toNat '0' ++ digits
  else
    let fraction := if digits.length ≤ 1 then [] else '.' :: digits.drop 1
    let sign := if 0 < point then ['+'] else []
    digits.take 1 ++ fraction ++ ['e'] ++ sign ++ (toString (point - 1)).toList

/-- The text of a finite number. -/
def text (f : Float) : String :=
  let sign := if f.toBits >>> 63 = 1 then "-" else ""
  let x := Binary.ofFloat f
  if x.mantissa = 0 then sign ++ "0.0"
  else
    let (digits, e) := x.shortest
    let (digits, e) := stripZeros (Nat.toDigits 10 digits) e
    sign ++ String.ofList (layOut digits e)

end DeclGen.Decimal
