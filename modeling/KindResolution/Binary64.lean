/-!
# Finite binary floating-point numbers

The finite numbers of the 64-bit binary format, as a sign, a significand and an exponent, and
arithmetic on them that is exact up to one rounding: to the nearest such number, a tie going to the
even significand.
-/

namespace KindResolution

/-- A finite number of the 64-bit binary format. Its magnitude is
`significand * 2 ^ exponent / 2 ^ 1074`, and zero has a sign. -/
structure Binary64 where
  negative : Bool
  significand : Nat
  exponent : Nat
  canonical : significand < Nat.pow 2 53 ∧ exponent ≤ 2045 ∧
    (exponent = 0 ∨ Nat.pow 2 52 ≤ significand)
  deriving DecidableEq

namespace Binary64

/-- Zero with the given sign. -/
def zero (negative : Bool) : Binary64 where
  negative := negative
  significand := 0
  exponent := 0
  canonical := by decide

/-- Whether a number is zero, of either sign. -/
def isZero (x : Binary64) : Bool :=
  x.significand == 0

/-- The same magnitude with the given sign. -/
def withSign (negative : Bool) (x : Binary64) : Binary64 :=
  { x with negative := negative }

/-- The number with the given parts, if they are those of a finite number. -/
def ofParts? (negative : Bool) (significand exponent : Nat) : Option Binary64 :=
  if h : significand < Nat.pow 2 53 ∧ exponent ≤ 2045 ∧
      (exponent = 0 ∨ Nat.pow 2 52 ≤ significand) then
    some ⟨negative, significand, exponent, h⟩
  else none

/-- The quotient of two natural numbers, rounded to the nearest integer and from the middle between
two integers to the even one. -/
def divNearest (num den : Nat) : Nat :=
  let quotient := num / den
  let twice := 2 * (num % den)
  if twice < den then quotient
  else if den < twice then quotient + 1
  else quotient + quotient % 2

/-- The number nearest to a quotient of natural numbers, or nothing if that lies beyond the largest
finite number. The exponent is the one under which the quotient has 53 binary digits, or the
smallest exponent if that leaves fewer. -/
def ofRatio? (negative : Bool) (num den : Nat) : Option Binary64 :=
  let scaled := num * Nat.pow 2 1074
  let exponent := (scaled / den).log2 - 52
  let significand := divNearest scaled (den * Nat.pow 2 exponent)
  -- rounding up can add a binary digit, which the next exponent takes off again
  if significand = Nat.pow 2 53 then ofParts? negative (Nat.pow 2 52) (exponent + 1)
  else ofParts? negative significand exponent

/-- The number nearest to a natural number. -/
def ofNat? (n : Nat) : Option Binary64 :=
  ofRatio? false n 1

/-- The numerator of the magnitude over the denominator `2 ^ 1074`. -/
def units (x : Binary64) : Nat :=
  x.significand * Nat.pow 2 x.exponent

/-- The rounded product, or nothing if it is too large. -/
def mul? (x y : Binary64) : Option Binary64 :=
  ofRatio? (x.negative != y.negative) (x.units * y.units) (Nat.pow 2 2148)

/-- The rounded quotient by a number other than zero, or nothing if it is too large. -/
def div? (x y : Binary64) : Option Binary64 :=
  ofRatio? (x.negative != y.negative) x.units y.units

/-- The number nearest to a power of ten, or nothing if that is too large. -/
def powerOfTen? (n : Nat) : Option Binary64 :=
  ofNat? (Nat.pow 10 n)

/-- The largest power of ten that is a finite number is the one with exponent 308. -/
def maxPowerOfTen : Nat := 308

/-- Divides by a power of ten given by its exponent, in steps of at most `10 ^ 308`. -/
def divPowerOfTen (x : Binary64) (n : Nat) : Option Binary64 :=
  if x.isZero then some x
  else if n ≤ maxPowerOfTen then do
    let power ← powerOfTen? n
    x.div? power
  else do
    let power ← powerOfTen? maxPowerOfTen
    let quotient ← x.div? power
    divPowerOfTen quotient (n - maxPowerOfTen)
termination_by n
decreasing_by simp_all [maxPowerOfTen]; omega

/-- Scales by a power of ten, or gives nothing if the result is too large: one rounded
multiplication by a power with exponent up to 308, or rounded divisions. -/
def scaleByTen? (x : Binary64) : Int → Option Binary64
  | .ofNat n =>
    if n ≤ maxPowerOfTen then do
      let power ← powerOfTen? n
      x.mul? power
    else if x.isZero then some x
    else none
  | .negSucc n => divPowerOfTen x (n + 1)

end Binary64

end KindResolution
