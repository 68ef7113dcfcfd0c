import KindResolution.Text.Blank
import KindResolution.Text.Numeral

/-!
# Timestamps

Points in time to the second, in the calendar of coordinated universal time. They are read from the
RFC 3339 form with any offset, in which blanks may stand around the numbers and a space may stand
for the letter between date and time, and written with the offset `Z`. A fraction of a second is
read over.
-/

namespace KindResolution

open Text

namespace Timestamp

/-- Whether a year of the calendar has 366 days. -/
def isLeapYear (year : Int) : Bool :=
  year % 4 == 0 && (year % 100 != 0 || year % 400 == 0)

/-- The number of days of a month. -/
def daysInMonth (year : Int) (month : Nat) : Nat :=
  if month = 2 then (if isLeapYear year then 29 else 28)
  else if month = 4 ∨ month = 6 ∨ month = 9 ∨ month = 11 then 30
  else 31

/-- The days from the start of 1970 to a date. The year is counted from March, so that the leap day
is its last, and 400 years have 146097 days. -/
def daysOfDate (year : Int) (month day : Nat) : Int :=
  let y := if month ≤ 2 then year - 1 else year
  let era := y / 400
  let yearOfEra := y - era * 400
  let shifted : Int := if month ≤ 2 then Int.ofNat month + 9 else Int.ofNat month - 3
  let dayOfYear := (153 * shifted + 2) / 5 + Int.ofNat day - 1
  let dayOfEra := yearOfEra * 365 + yearOfEra / 4 - yearOfEra / 100 + dayOfYear
  era * 146097 + dayOfEra - 719468

/-- The year, month and day of a number of days since the start of 1970. -/
def dateOfDays (days : Int) : Int × Nat × Nat :=
  let z := days + 719468
  let era := z / 146097
  let dayOfEra := z - era * 146097
  -- the days without the leap days before them, at 365 to a year
  let yearOfEra := (dayOfEra - dayOfEra / 1460 + dayOfEra / 36524 - dayOfEra / 146096) / 365
  let dayOfYear := dayOfEra - (365 * yearOfEra + yearOfEra / 4 - yearOfEra / 100)
  let shifted := (5 * dayOfYear + 2) / 153
  let day := dayOfYear - (153 * shifted + 2) / 5 + 1
  let month := if shifted < 10 then shifted + 3 else shifted - 9
  let year := yearOfEra + era * 400
  (if month ≤ 2 then year + 1 else year, month.toNat, day.toNat)

/-- The last year of the calendar; the first is one further from the year zero. -/
def maxYear : Int := 262142

/-- The first minute of the calendar, counted from the start of 1970. -/
def firstMinute : Int := daysOfDate (-(maxYear + 1)) 1 1 * 1440

/-- The last minute of the calendar, counted from the start of 1970. -/
def lastMinute : Int := daysOfDate maxYear 12 31 * 1440 + 1439

end Timestamp

/-- A point in time: whole minutes since the start of 1970, within the calendar, and the second in
the minute, which is 60 in a leap second. -/
structure Timestamp where
  minute : Int
  second : Nat
  firstMinute_le : Timestamp.firstMinute ≤ minute
  le_lastMinute : minute ≤ Timestamp.lastMinute
  second_le : second ≤ 60 := by omega
  deriving DecidableEq

namespace Timestamp

/-- The reasons why a text is not a timestamp. A date, time and offset can each be within bounds and
yet name no point in time, where the offset leads out of the calendar. -/
inductive Error where
  | invalidCharacters
  | prematureEnd
  | outOfRange
  | trailingInput
  | noPointInTime
  deriving DecidableEq, Repr

/-- The text of an error. -/
def Error.message : Error → String
  | .invalidCharacters => "input contains invalid characters"
  | .prematureEnd => "premature end of input"
  | .outOfRange => "input is out of range"
  | .trailingInput => "trailing input"
  | .noPointInTime => "no possible date and time matching input"

/-- A reader of one part of a timestamp, which returns the characters behind the part. -/
abbrev PartReader (α : Type) := List Char → Except Error (α × List Char)

/-- A number of at least one digit and at most the given number of digits. -/
def readNumber (width : Option Nat) : PartReader Nat := fun cs =>
  let digits := (cs.takeWhile isDigit).take (width.getD cs.length)
  match cs, digits with
  | [], _ => .error .prematureEnd
  | _, [] => .error .invalidCharacters
  | _, digits => .ok (ofDigits digits, cs.drop digits.length)

/-- A number of at most two digits within bounds, behind any blanks. -/
def readField (low high : Nat) : PartReader Nat := fun cs => do
  let (n, rest) ← readNumber (some 2) (trimStart cs)
  if low ≤ n ∧ n ≤ high then return (n, rest) else .error .outOfRange

/-- A given character, behind any blanks. -/
def readMark (mark : Char) (cs : List Char) : Except Error (List Char) :=
  match trimStart cs with
  | [] => .error .prematureEnd
  | c :: rest => if c = mark then .ok rest else .error .invalidCharacters

/-- A year: four digits at most, or any number of digits behind a sign. -/
def readYear : PartReader Int := fun cs => do
  let (year, rest) ← match trimStart cs with
    | '-' :: rest => do
      let (n, rest) ← readNumber none rest
      pure (-Int.ofNat n, rest)
    | '+' :: rest => do
      let (n, rest) ← readNumber none rest
      pure (Int.ofNat n, rest)
    | cs => do
      let (n, rest) ← readNumber (some 4) cs
      pure (Int.ofNat n, rest)
  if Int32.minValue.toInt ≤ year ∧ year ≤ Int32.maxValue.toInt then return (year, rest)
  else .error .outOfRange

/-- The characters behind a fraction of a second, if there is one. -/
def skipFraction : List Char → Except Error (List Char)
  | '.' :: rest => do
    let (_, rest) ← readNumber (some 9) rest
    return rest.dropWhile isDigit
  | cs => .ok cs

/-- Two digits, the first of which is not larger than the given one. -/
def readTwoDigits (maxFirst : Nat) : PartReader Nat
  | [] => .error .prematureEnd
  | [c] => .error (if c.utf8Size < 2 then .prematureEnd else .invalidCharacters)
  | a :: b :: rest =>
    match digitValue? a, digitValue? b with
    | some x, some y => if x ≤ maxFirst then .ok (10 * x + y, rest) else .error .outOfRange
    | _, _ => .error .invalidCharacters

/-- An offset from universal time in minutes: `Z`, `UTC` or a sign with hours and minutes. -/
def readOffset : PartReader Int := fun cs =>
  match cs with
  | [] => .error .prematureEnd
  | c :: rest =>
    if (cs.take 3).map Char.toUpper = ['U', 'T', 'C'] then .ok (0, cs.drop 3)
    else if c = 'Z' || c = 'z' then .ok (0, rest)
    else if c = '+' || c = '-' || c = '\u2212' then do
      let (hours, rest) ← readTwoDigits 9 rest
      let (minutes, rest) ← readTwoDigits 5 (rest.dropWhile fun c => c = ':' || isBlank c)
      let offset := Int.ofNat (60 * hours + minutes)
      return (if c = '+' then offset else -offset, rest)
    else .error .invalidCharacters

/-- Reads a timestamp. -/
def read (s : String) : Except Error Timestamp := do
  let (year, rest) ← readYear s.toList
  let (month, rest) ← readField 1 12 (← readMark '-' rest)
  let (day, rest) ← readField 1 31 (← readMark '-' rest)
  let rest ← match rest with
    | [] => .error .prematureEnd
    | c :: rest => if c = 'T' || c = 't' || c = ' ' then pure rest else .error .invalidCharacters
  let (hour, rest) ← readField 0 23 rest
  let (minute, rest) ← readField 0 59 (← readMark ':' rest)
  let (second, rest) ← readField 0 60 (← readMark ':' rest)
  let rest ← skipFraction rest
  let (offset, rest) ← readOffset (trimStart rest)
  if !(trimStart rest).isEmpty then .error .trailingInput
  else if h : -(maxYear + 1) ≤ year ∧ year ≤ maxYear ∧ day ≤ daysInMonth year month ∧
      offset.natAbs < 24 * 60 ∧ second ≤ 60 then
    let civil := (daysOfDate year month day * 24 + Int.ofNat hour) * 60 + Int.ofNat minute
    if h' : firstMinute ≤ civil - offset ∧ civil - offset ≤ lastMinute then
      return ⟨civil - offset, second, h'.1, h'.2, h.2.2.2.2⟩
    else .error .noPointInTime
  else .error .outOfRange

/-- The digits of a year: at least four, and a sign if they are not exactly four. -/
def renderYear (year : Int) : List Char :=
  let digits := paddedDecimal 4 year.natAbs
  if year < 0 then '-' :: digits
  else if year ≤ 9999 then digits
  else '+' :: digits

/-- The text of a timestamp. -/
def text (t : Timestamp) : String :=
  let (year, month, day) := dateOfDays (t.minute / 1440)
  let minute := (t.minute % 1440).toNat
  String.ofList <|
    renderYear year ++ '-' :: paddedDecimal 2 month ++ '-' :: paddedDecimal 2 day ++
      'T' :: paddedDecimal 2 (minute / 60) ++ ':' :: paddedDecimal 2 (minute % 60) ++
      ':' :: paddedDecimal 2 t.second ++ ['Z']

end Timestamp

end KindResolution
