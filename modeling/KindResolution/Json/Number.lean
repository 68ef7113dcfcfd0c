import KindResolution.Binary64.Shortest

/-!
# JSON numbers

A number of a JSON value is an integer or a floating-point number, and the two are told apart also
where their magnitudes agree. `Number.Literal` is a number as it is spelled; its value is an integer
if it is spelled as one that fits 64 bits, and a floating-point number otherwise.
-/

namespace KindResolution.Json

open KindResolution.Text

/-- A number of a JSON value. -/
inductive Number where
  | integer (value : Int)
  | real (value : Binary64)
  deriving DecidableEq

namespace Number

/-- A natural number as a number of a JSON value. -/
def ofNat (n : Nat) : Number :=
  .integer (.ofNat n)

/-- The spelling of a number: whole digits, and optionally a fraction and a signed exponent. -/
structure Literal where
  negative : Bool
  whole : List Char
  fraction : Option (List Char)
  exponent : Option (Bool × List Char)
  deriving DecidableEq, Repr

namespace Literal

/-- The largest value of the digits that a floating-point number is read from. -/
def maxSignificand : Nat := Nat.pow 2 64 - 1

/-- Appends digits to a significand as long as it stays within 64 bits, and counts the digits that
were appended and those that were not. -/
def absorb (significand taken : Nat) : List Char → Nat × Nat × Nat
  | [] => (significand, taken, 0)
  | c :: rest =>
    let next := 10 * significand + (digitValue? c).getD 0
    if next ≤ maxSignificand then absorb next (taken + 1) rest
    else (significand, taken, rest.length + 1)

/-- The significand and the exponent of ten of the digits of a literal. Whole digits that do not fit
raise the exponent, digits of the fraction that do not fit are dropped. -/
def scientific (l : Literal) : Nat × Int :=
  let (significand, _, left) := absorb 0 0 l.whole
  match l.fraction with
  | none => (significand, Int.ofNat left)
  | some fraction =>
    let (significand, taken, _) := absorb significand 0 fraction
    (significand, Int.ofNat left - Int.ofNat taken)

/-- The largest magnitude of an exponent that is read as a number. -/
def maxExponent : Nat := Nat.pow 2 31 - 1

/-- The floating-point number that a literal is read as: the significand rounded, then scaled by the
power of ten. Nothing if it is too large. -/
def real? (l : Literal) : Option Binary64 := do
  let (significand, scale) := l.scientific
  let (negativeExponent, exponent) := match l.exponent with
    | none => (false, 0)
    | some (negative, digits) => (negative, ofDigits digits)
  if maxExponent < exponent then
    if significand ≠ 0 ∧ !negativeExponent then none
    else some (.zero l.negative)
  else
    let rounded ← Binary64.ofNat? significand
    let total := if negativeExponent then scale - Int.ofNat exponent else scale + Int.ofNat exponent
    let value ← rounded.scaleByTen? total
    some (value.withSign l.negative)

/-- The value of a literal, or nothing if it is out of range. A literal without fraction and
exponent is an integer if it fits 64 bits, with or without a sign; a negative zero is not one. -/
def value? (l : Literal) : Option Number :=
  let n := ofDigits l.whole
  if l.fraction.isNone && l.exponent.isNone && n ≤ maxSignificand then
    if !l.negative then some (.integer (Int.ofNat n))
    else if 0 < n && n ≤ Nat.pow 2 63 then some (.integer (-Int.ofNat n))
    else (Binary64.ofNat? n).map fun x => .real (x.withSign true)
  else l.real?.map .real

end Literal

/-- How floating-point numbers are written: positionally if the exponent of the first digit lies
between these two, and with one digit before the point and a signed exponent otherwise. -/
structure RealFormat where
  minPositional : Int
  maxPositional : Int

/-- Numbers are written positionally from `10 ^ -5` up to below `10 ^ 16`. -/
def realFormat : RealFormat := ⟨-5, 15⟩

/-- Digits with a point after the first, unless there is only one. -/
def pointAfterFirst : List Char → List Char
  | [] => []
  | [d] => [d]
  | d :: rest => d :: '.' :: rest

/-- The digits of a magnitude, given without zeros at the end together with the exponent of ten of
the first digit. A positional number has at least one digit on each side of the point. -/
def renderDigits (format : RealFormat) (digits : List Char) (exponent : Int) : List Char :=
  if format.minPositional ≤ exponent ∧ exponent ≤ format.maxPositional then
    match exponent with
    | .ofNat n =>
      let whole := digits.take (n + 1)
      let fraction := digits.drop (n + 1)
      whole ++ List.replicate (n + 1 - whole.length) '0' ++ '.' ::
        (if fraction.isEmpty then ['0'] else fraction)
    | .negSucc n => '0' :: '.' :: List.replicate n '0' ++ digits
  else
    match exponent with
    | .ofNat n => pointAfterFirst digits ++ 'e' :: '+' :: decimal n
    | .negSucc n => pointAfterFirst digits ++ 'e' :: '-' :: decimal (n + 1)

/-- The text of a floating-point number: the fewest digits that read back as the number. -/
def renderReal (x : Binary64) : List Char :=
  let magnitude :=
    if x.isZero then ['0', '.', '0']
    else
      let d := x.shortest
      let digits := decimal d.coefficient
      let leading := d.exponent + Int.ofNat (digits.length - 1)
      renderDigits realFormat ((digits.reverse.dropWhile (· == '0')).reverse) leading
  if x.negative then '-' :: magnitude else magnitude

/-- The text of a number. -/
def render : Number → List Char
  | .integer n => signedDecimal n
  | .real x => renderReal x

end Number

end KindResolution.Json
