import KindResolution.Text.Numeral

/-!
# Form encoding

The encoding `application/x-www-form-urlencoded` of parameters in a query. A text is written byte
by byte: a space as `+`, letters, digits and the four marks `*-._` as they are, every other byte as
`%` and two upper-case hexadecimal digits. `decodePairs` reads a query back.
-/

namespace KindResolution.Text.FormEncoding

/-- The bytes of a text in UTF-8. -/
def bytes (cs : List Char) : List UInt8 :=
  cs.flatMap String.utf8EncodeChar

/-- Whether a byte is written as the character with its code. -/
def isPlain (b : UInt8) : Bool :=
  let n := b.toNat
  (0x30 ≤ n && n ≤ 0x39) || (0x41 ≤ n && n ≤ 0x5A) || (0x61 ≤ n && n ≤ 0x7A) ||
    n == 0x2A || n == 0x2D || n == 0x2E || n == 0x5F

/-- An upper-case hexadecimal digit. -/
def hexDigit (n : Nat) : Char :=
  Char.ofNat (if n < 10 then 0x30 + n else 0x37 + n)

/-- The characters that one byte is written as. -/
def encodeByte (b : UInt8) : List Char :=
  if b = 0x20 then ['+']
  else if isPlain b then [Char.ofNat b.toNat]
  else ['%', hexDigit (b.toNat / 16), hexDigit (b.toNat % 16)]

/-- The encoding of a text. -/
def encode (s : String) : List Char :=
  (bytes s.toList).flatMap encodeByte

/-- A name and its value, with an equals sign between them. -/
def encodePair (p : String × String) : List Char :=
  encode p.1 ++ '=' :: encode p.2

/-- A list of parameters, each after an ampersand. -/
def encodePairs (ps : List (String × String)) : List Char :=
  ps.flatMap fun p => '&' :: encodePair p

/-- The bytes that an encoded text stands for. A percent sign without two hexadecimal digits after
it stands for itself. -/
def decodeBytes : List Char → List UInt8
  | [] => []
  | '%' :: a :: b :: rest =>
    match hexValue? a, hexValue? b with
    | some hi, some lo => UInt8.ofNat (16 * hi + lo) :: decodeBytes rest
    | _, _ => String.utf8EncodeChar '%' ++ decodeBytes (a :: b :: rest)
  | c :: rest => (if c = '+' then [0x20] else String.utf8EncodeChar c) ++ decodeBytes rest

/-- The text that an encoded text stands for, if its bytes are UTF-8. -/
def decode? (cs : List Char) : Option String :=
  String.fromUTF8? ⟨(decodeBytes cs).toArray⟩

/-- The parts of a text between the occurrences of a character. -/
def splitAt (sep : Char) : List Char → List (List Char)
  | [] => [[]]
  | c :: rest =>
    if c = sep then [] :: splitAt sep rest
    else match splitAt sep rest with
      | [] => [[c]]
      | part :: parts => (c :: part) :: parts

/-- The name and the value of one parameter: the value starts after the first equals sign, and is
empty where there is none. -/
def decodePair? (cs : List Char) : Option (String × String) := do
  let name ← decode? (cs.takeWhile (· != '='))
  let value ← decode? ((cs.dropWhile (· != '=')).drop 1)
  return (name, value)

/-- The parameters of a query. Empty parts between ampersands are skipped. -/
def decodePairs (cs : List Char) : Option (List (String × String)) :=
  ((splitAt '&' cs).filter (!·.isEmpty)).mapM decodePair?

end KindResolution.Text.FormEncoding
