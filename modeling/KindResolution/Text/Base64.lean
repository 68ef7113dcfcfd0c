import KindResolution.Text.Numeral

/-!
# Base64

The standard base64 alphabet with padding: three bytes become four symbols, and a shorter group at
the end is filled up with `=`. Reading accepts the canonical form only: the padding is complete and
the bits that carry no data are zero.
-/

namespace KindResolution.Text.Base64

/-- The symbol of a six-bit value. -/
def symbol (n : Nat) : Char :=
  if n < 26 then Char.ofNat (0x41 + n)
  else if n < 52 then Char.ofNat (0x61 + (n - 26))
  else if n < 62 then Char.ofNat (0x30 + (n - 52))
  else if n = 62 then '+'
  else '/'

/-- The six-bit value of a symbol, given by its byte. -/
def value? (b : UInt8) : Option Nat :=
  let n := b.toNat
  if 0x41 ≤ n && n ≤ 0x5A then some (n - 0x41)
  else if 0x61 ≤ n && n ≤ 0x7A then some (n - 0x61 + 26)
  else if 0x30 ≤ n && n ≤ 0x39 then some (n - 0x30 + 52)
  else if n = 0x2B then some 62
  else if n = 0x2F then some 63
  else none

/-- The encoding of a list of bytes. -/
def encode : List UInt8 → List Char
  | [] => []
  | [a] => [symbol (a.toNat / 4), symbol (a.toNat % 4 * 16), '=', '=']
  | [a, b] =>
    [symbol (a.toNat / 4), symbol (a.toNat % 4 * 16 + b.toNat / 16),
      symbol (b.toNat % 16 * 4), '=']
  | a :: b :: c :: rest =>
    symbol (a.toNat / 4) :: symbol (a.toNat % 4 * 16 + b.toNat / 16) ::
      symbol (b.toNat % 16 * 4 + c.toNat / 64) :: symbol (c.toNat % 64) :: encode rest

/-- The reasons why a text is not base64. -/
inductive Error where
  | invalidSymbol (byte : UInt8) (offset : Nat)
  | invalidLastSymbol (byte : UInt8) (offset : Nat)
  | invalidLength (length : Nat)
  | invalidPadding
  deriving DecidableEq, Repr

/-- The text of an error. -/
def Error.message : Error → String
  | .invalidSymbol byte offset =>
    "Invalid symbol " ++ String.ofList (decimal byte.toNat) ++ ", offset " ++
      String.ofList (decimal offset) ++ "."
  | .invalidLastSymbol byte offset =>
    "Invalid last symbol " ++ String.ofList (decimal byte.toNat) ++ ", offset " ++
      String.ofList (decimal offset) ++ "."
  | .invalidLength length => "Invalid input length: " ++ String.ofList (decimal length)
  | .invalidPadding => "Invalid padding"

/-- The value of the symbol at an offset. -/
def readSymbol (offset : Nat) (b : UInt8) : Except Error Nat :=
  match value? b with
  | some n => .ok n
  | none => .error (.invalidSymbol b offset)

/-- The symbols of the last group and the number of padding marks after them. The first padding
mark is the symbol in error if it stands too early or another symbol follows it. -/
def readLastGroup (offset index : Nat) (values : List (UInt8 × Nat)) (padding : Option Nat)
    (count : Nat) : List UInt8 → Except Error (List (UInt8 × Nat) × Nat)
  | [] => .ok (values, count)
  | b :: rest =>
    if b = 0x3D then
      if index < 2 then .error (.invalidSymbol b (offset + index))
      else readLastGroup offset (index + 1) values (padding <|> some index) (count + 1) rest
    else match padding with
      | some first => .error (.invalidSymbol 0x3D (offset + first))
      | none => do
        let n ← readSymbol (offset + index) b
        readLastGroup offset (index + 1) (values ++ [(b, n)]) none count rest

/-- The bytes of the last group, which may be shorter than four symbols. -/
def decodeLastGroup (offset : Nat) (group : List UInt8) : Except Error (List UInt8) := do
  let (values, padding) ← readLastGroup offset 0 [] none 0 group
  match values with
  | [] => if group.isEmpty then .ok [] else .error (.invalidLength offset)
  | [_] => .error (.invalidLength (offset + 1))
  | [(_, a), (last, b)] =>
    if (padding + 2) % 4 ≠ 0 then .error .invalidPadding
    else if b % 16 ≠ 0 then .error (.invalidLastSymbol last (offset + 1))
    else .ok [UInt8.ofNat (a * 4 + b / 16)]
  | [(_, a), (_, b), (last, c)] =>
    if (padding + 3) % 4 ≠ 0 then .error .invalidPadding
    else if c % 4 ≠ 0 then .error (.invalidLastSymbol last (offset + 2))
    else .ok [UInt8.ofNat (a * 4 + b / 16), UInt8.ofNat (b % 16 * 16 + c / 4)]
  | (_, a) :: (_, b) :: (_, c) :: (_, d) :: _ =>
    if padding ≠ 0 then .error .invalidPadding
    else .ok [UInt8.ofNat (a * 4 + b / 16), UInt8.ofNat (b % 16 * 16 + c / 4),
      UInt8.ofNat (c % 4 * 64 + d)]

/-- The bytes of groups of four symbols, the last of which may be short or padded. -/
def decodeGroups (offset : Nat) : List UInt8 → Except Error (List UInt8)
  | a :: b :: c :: d :: e :: rest => do
    let a ← readSymbol offset a
    let b ← readSymbol (offset + 1) b
    let c ← readSymbol (offset + 2) c
    let d ← readSymbol (offset + 3) d
    let bytes ← decodeGroups (offset + 4) (e :: rest)
    return UInt8.ofNat (a * 4 + b / 16) :: UInt8.ofNat (b % 16 * 16 + c / 4) ::
      UInt8.ofNat (c % 4 * 64 + d) :: bytes
  | group => decodeLastGroup offset group

/-- The bytes that a text encodes. A lone byte after complete groups that is no symbol, such as a
line break, is reported before anything else. -/
def decode (s : String) : Except Error (List UInt8) :=
  let input := s.toList.flatMap String.utf8EncodeChar
  match input.getLast? with
  | some last =>
    if input.length % 4 = 1 && last ≠ 0x3D && (value? last).isNone then
      .error (.invalidSymbol last (input.length - 1))
    else decodeGroups 0 input
  | none => decodeGroups 0 input

end KindResolution.Text.Base64
