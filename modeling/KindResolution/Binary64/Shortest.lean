import KindResolution.Binary64
import KindResolution.Text.Numeral

/-!
# Shortest decimals

The decimal with the fewest digits among those that round to a given floating-point number, and of
several such the one nearest to the number. The decimals that round to a number fill an interval
around it, which contains its ends exactly when the significand is even. On each decimal grid it is
enough to look at the two neighbours of the number, and 17 digits always suffice.
-/

namespace KindResolution.Binary64

/-- The number `coefficient * 10 ^ exponent`. -/
structure Decimal where
  coefficient : Nat
  exponent : Int
  deriving DecidableEq, Repr

/-- The decimals that round to a number, scaled so that its magnitude and the ends of the interval
are the numerators `center`, `low` and `high` over `den`. -/
structure RoundingInterval where
  low : Nat
  center : Nat
  high : Nat
  den : Nat
  closed : Bool

/-- The interval of the decimals that round to a number. Below a power of two the numbers lie twice
as close, so there the lower end is nearer. -/
def roundingInterval (x : Binary64) : RoundingInterval :=
  let unit := Nat.pow 2 x.exponent
  let below := if x.significand = Nat.pow 2 52 ∧ x.exponent ≠ 0 then unit else 2 * unit
  { low := 4 * x.units - below
    center := 4 * x.units
    high := 4 * x.units + 2 * unit
    den := 4 * Nat.pow 2 1074
    closed := x.significand % 2 == 0 }

/-- The numerator of a decimal and the factor for the numerators of an interval that bring both to
one denominator. -/
def Decimal.align (d : Decimal) (den : Nat) : Nat × Nat :=
  match d.exponent with
  | .ofNat n => (d.coefficient * Nat.pow 10 n * den, 1)
  | .negSucc n => (d.coefficient * den, Nat.pow 10 (n + 1))

/-- Whether a decimal lies in an interval. -/
def RoundingInterval.contains (i : RoundingInterval) (d : Decimal) : Bool :=
  let (value, factor) := d.align i.den
  if i.closed then i.low * factor ≤ value && value ≤ i.high * factor
  else i.low * factor < value && value < i.high * factor

/-- The distance of a decimal from the number, over the denominator common to the grid. -/
def RoundingInterval.distance (i : RoundingInterval) (d : Decimal) : Nat :=
  let (value, factor) := d.align i.den
  let center := i.center * factor
  (value - center) + (center - value)

/-- The last point at or below the number on the grid of the multiples of a power of ten. -/
def RoundingInterval.floorOn (i : RoundingInterval) (exponent : Int) : Nat :=
  match exponent with
  | .ofNat n => i.center / (i.den * Nat.pow 10 n)
  | .negSucc n => i.center * Nat.pow 10 (n + 1) / i.den

/-- The neighbour of the number on a grid that rounds to it, the nearer one if both do, and of two
at the same distance the even one. -/
def RoundingInterval.neighbour? (i : RoundingInterval) (exponent : Int) : Option Decimal :=
  let n := i.floorOn exponent
  let below : Decimal := ⟨n, exponent⟩
  let above : Decimal := ⟨n + 1, exponent⟩
  match i.contains below, i.contains above with
  | true, true =>
    if i.distance below < i.distance above then some below
    else if i.distance above < i.distance below then some above
    else if n % 2 = 0 then some below
    else some above
  | true, false => some below
  | false, true => some above
  | false, false => none

/-- The exponent of ten of the first decimal digit of a magnitude other than zero. -/
def leadingExponent (i : RoundingInterval) : Int :=
  (Int.ofNat (Text.decimal (i.center * Nat.pow 10 400 / i.den)).length) - 401

/-- The first hit on grids that become finer by one digit, for the given number of grids. -/
def RoundingInterval.search (i : RoundingInterval) (exponent : Int) : Nat → Decimal
  | 0 => ⟨i.floorOn exponent, exponent⟩
  | grids + 1 =>
    match i.neighbour? exponent with
    | some d => d
    | none => search i (exponent - 1) grids

/-- The shortest decimal that rounds to the magnitude of a number other than zero. -/
def shortest (x : Binary64) : Decimal :=
  let i := x.roundingInterval
  i.search (leadingExponent i) 17

end KindResolution.Binary64
