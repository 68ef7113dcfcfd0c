import KindResolution.Text.Numeral

/-!
# Durations

Spans of time to the nanosecond and the way they are described: in the largest unit that leaves a
whole part, with as many decimals as it takes.
-/

namespace KindResolution

open Text

/-- A span of time. -/
structure Duration where
  nanoseconds : Nat
  deriving DecidableEq, Repr

namespace Duration

/-- A number of seconds. -/
def ofSeconds (n : Nat) : Duration := ⟨n * 1000000000⟩

/-- A number of milliseconds. -/
def ofMilliseconds (n : Nat) : Duration := ⟨n * 1000000⟩

/-- The whole milliseconds of a span. -/
def milliseconds (d : Duration) : Nat :=
  d.nanoseconds / 1000000

/-- A number of nanoseconds in a unit of a power of ten of them. -/
def describeIn (exponent : Nat) (unit : List Char) (nanoseconds : Nat) : List Char :=
  let whole := decimal (nanoseconds / Nat.pow 10 exponent)
  let decimals := paddedDecimal exponent (nanoseconds % Nat.pow 10 exponent)
  let shown := (decimals.reverse.dropWhile (· == '0')).reverse
  whole ++ (if shown.isEmpty then [] else '.' :: shown) ++ unit

/-- The description of a span. -/
def describe (d : Duration) : String :=
  let n := d.nanoseconds
  String.ofList <|
    if 1000000000 ≤ n then describeIn 9 ['s'] n
    else if 1000000 ≤ n then describeIn 6 ['m', 's'] n
    else if 1000 ≤ n then describeIn 3 ['µ', 's'] n
    else decimal n ++ ['n', 's']

end Duration

end KindResolution
