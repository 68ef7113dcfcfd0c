import KindResolution.Json.Document

/-!
# Reading JSON texts

Takes a text apart into a document. Nothing is refused here: where the text is not JSON, the fault
becomes part of the document. Reading goes on behind a fault that somebody who skips the value does
not meet, and stops at any other.
-/

namespace KindResolution.Json.Reader

open KindResolution.Text

/-- Whether a character may stand between the tokens of a text. -/
def isSpace (c : Char) : Bool :=
  c = ' ' || c = '\n' || c = '\t' || c = '\r'

/-- The characters from the next token on. -/
def skipSpace (cs : List Char) : List Char :=
  cs.dropWhile isSpace

/-- A value, and the characters behind it unless reading has to stop. -/
structure Step where
  value : Document
  rest : Option (List Char)

/-- A value that ends the reading. -/
def Step.stop (start : Option Char) (fault : Fault) : Step :=
  ⟨.broken start fault, none⟩

/-- The characters behind a word, given what is left of the word. -/
def readWord : List Char → List Char → Except SyntaxError (List Char)
  | [], cs => .ok cs
  | _ :: _, [] => .error .endInValue
  | w :: word, c :: cs => if c = w then readWord word cs else .error .expectedIdentifier

/-- A word that stands for a value. -/
def wordStep (start : Char) (word : List Char) (value : Document) (cs : List Char) : Step :=
  match readWord word cs with
  | .ok rest => ⟨value, some rest⟩
  | .error e => .stop (some start) e.fault

/-- The fault of a number that lacks a digit: at the end of the text a reader asks for more. -/
def missingDigit : List Char → Fault
  | [] => ⟨.endInValue, some .invalidNumber⟩
  | _ :: _ => SyntaxError.invalidNumber.fault

/-- At least one digit, and the characters behind the digits. -/
def readDigits (cs : List Char) : Except Fault (List Char × List Char) :=
  match cs.span isDigit with
  | ([], rest) => .error (missingDigit rest)
  | (digits, rest) => .ok (digits, rest)

/-- The whole digits of a number. A zero in front stands alone. -/
def readWhole : List Char → Except Fault (List Char × List Char)
  | '0' :: c :: rest =>
    if isDigit c then .error SyntaxError.invalidNumber.fault else .ok (['0'], c :: rest)
  | cs => readDigits cs

/-- The fraction of a number, if there is one. -/
def readFraction : List Char → Except Fault (Option (List Char) × List Char)
  | '.' :: rest => do
    let (digits, rest) ← readDigits rest
    return (some digits, rest)
  | cs => .ok (none, cs)

/-- The exponent of a number, if there is one, with its sign. -/
def readExponent : List Char → Except Fault (Option (Bool × List Char) × List Char)
  | c :: rest =>
    if c = 'e' || c = 'E' then do
      let (negative, rest) := match rest with
        | '+' :: rest => (false, rest)
        | '-' :: rest => (true, rest)
        | rest => (false, rest)
      let (digits, rest) ← readDigits rest
      return (some (negative, digits), rest)
    else .ok (none, c :: rest)
  | [] => .ok (none, [])

/-- The spelling of a number behind its sign. -/
def readLiteral (negative : Bool) (cs : List Char) :
    Except Fault (Number.Literal × List Char) := do
  let (whole, rest) ← readWhole cs
  let (fraction, rest) ← readFraction rest
  let (exponent, rest) ← readExponent rest
  return (⟨negative, whole, fraction, exponent⟩, rest)

/-- A number behind its sign. One that is out of range is a fault to readers only. -/
def numberStep (start : Char) (negative : Bool) (cs : List Char) : Step :=
  match readLiteral negative cs with
  | .error fault => .stop (some start) fault
  | .ok (literal, rest) =>
    match literal.value? with
    | some value => ⟨.number value, some rest⟩
    | none => ⟨.broken (some start) ⟨.numberOutOfRange, none⟩, some rest⟩

/-- The content of a string and the characters behind it, or the fault that stops the reading. -/
abbrev StringEnd := Except Fault (Key × List Char)

/-- What is known inside a string: the characters so far, last first, a leading surrogate that still
needs its partner, and the first error that only readers meet. -/
structure StringState where
  reversed : List Char
  surrogate : Option Nat
  error : Option SyntaxError

namespace StringState

/-- The state at the start of a string. -/
def start : StringState := ⟨[], none, none⟩

/-- Notes an error that only readers meet, unless there was one before. -/
def note (st : StringState) (e : SyntaxError) : StringState :=
  { st with surrogate := none, error := st.error <|> some e }

/-- Anything but a second escape behind a leading surrogate is an error to readers. -/
def settle (st : StringState) : StringState :=
  if st.surrogate.isSome then st.note .unexpectedEndOfEscape else st

/-- Adds a character. -/
def push (st : StringState) (c : Char) : StringState :=
  { st with reversed := c :: st.reversed }

/-- Adds the code unit of a hexadecimal escape. -/
def pushUnit (st : StringState) (n : Nat) : StringState :=
  match st.surrogate with
  | some high =>
    if 0xDC00 ≤ n && n ≤ 0xDFFF then
      { st with surrogate := none }.push (Char.ofNat (0x10000 + (high - 0xD800) * 0x400 +
        (n - 0xDC00)))
    else st.note .loneSurrogate
  | none =>
    if 0xDC00 ≤ n && n ≤ 0xDFFF then st.note .loneSurrogate
    else if 0xD800 ≤ n && n ≤ 0xDBFF then { st with surrogate := some n }
    else st.push (Char.ofNat n)

/-- The fault of an error that stops everybody. -/
def fail (st : StringState) (e : SyntaxError) : StringEnd :=
  .error ⟨st.error.getD e, some e⟩

/-- The content of a finished string. -/
def content (st : StringState) : Key :=
  match st.settle.error with
  | some e => .error e
  | none => .ok (String.ofList st.reversed.reverse)

end StringState

/-- The character that an escape by a single letter stands for. -/
def escaped? (c : Char) : Option Char :=
  if c = '"' || c = '\\' || c = '/' then some c
  else if c = 'b' then some '\x08'
  else if c = 'f' then some '\x0c'
  else if c = 'n' then some '\n'
  else if c = 'r' then some '\r'
  else if c = 't' then some '\t'
  else none

/-- The number of bytes of a text in UTF-8. -/
def byteLength (cs : List Char) : Nat :=
  cs.foldl (fun bytes c => bytes + c.utf8Size) 0

/-- The code unit of four hexadecimal digits. -/
def hexUnit? (a b c d : Char) : Option Nat := do
  let a ← hexValue? a
  let b ← hexValue? b
  let c ← hexValue? c
  let d ← hexValue? d
  return ((a * 16 + b) * 16 + c) * 16 + d

/-- A string behind its opening quote. -/
def readString (st : StringState) : List Char → StringEnd
  | [] => st.fail .endInString
  | c :: rest =>
    if c = '"' then .ok (st.content, rest)
    else if c = '\\' then
      match rest with
      | [] => st.fail .endInString
      | e :: rest =>
        if e = 'u' then
          match rest with
          | h₁ :: h₂ :: h₃ :: h₄ :: rest =>
            match hexUnit? h₁ h₂ h₃ h₄ with
            | some n => readString (st.pushUnit n) rest
            | none => st.fail .invalidEscape
          | short => st.fail (if byteLength short < 4 then .endInString else .invalidEscape)
        else match escaped? e with
          | some c => readString (st.settle.push c) rest
          | none => st.settle.fail .invalidEscape
    else if c.toNat < 0x20 then st.settle.fail .controlCharacter
    else readString (st.settle.push c) rest

/-- A string behind its opening quote, as a value. -/
def stringStep (cs : List Char) : Step :=
  match readString .start cs with
  | .error fault => .stop (some '"') fault
  | .ok (.ok s, rest) => ⟨.string s, some rest⟩
  | .ok (.error e, rest) => ⟨.broken (some '"') ⟨e, none⟩, some rest⟩

/-- The documents read so far, the fault that ends them, and the characters behind them unless
reading has to stop. -/
structure Sequence (α : Type) where
  items : List α
  ending : Option Fault
  rest : Option (List Char)

namespace Sequence

variable {α : Type}

/-- A sequence that ends with a fault. -/
def faulty (fault : Fault) : Sequence α := ⟨[], some fault, none⟩

/-- A sequence that is closed properly. -/
def closed (rest : List Char) : Sequence α := ⟨[], none, some rest⟩

/-- Puts an item in front of a sequence. -/
def cons (item : α) (s : Sequence α) : Sequence α :=
  { s with items := item :: s.items }

end Sequence

mutual

/-- A value at the start of the characters. The first argument bounds the number of steps; twice the
number of characters is enough, since two steps in a row take at least one character. -/
def readValue : Nat → List Char → Step
  | 0, _ => .stop none SyntaxError.endInValue.fault
  | fuel + 1, cs =>
    match skipSpace cs with
    | [] => .stop none SyntaxError.endInValue.fault
    | c :: rest =>
      if c = 'n' then wordStep c ['u', 'l', 'l'] .null rest
      else if c = 't' then wordStep c ['r', 'u', 'e'] (.bool true) rest
      else if c = 'f' then wordStep c ['a', 'l', 's', 'e'] (.bool false) rest
      else if c = '-' then numberStep c true rest
      else if isDigit c then numberStep c false (c :: rest)
      else if c = '"' then stringStep rest
      else if c = '[' then
        match skipSpace rest with
        | [] => ⟨.array [] (some SyntaxError.endInArray.fault), none⟩
        | d :: after =>
          if d = ']' then ⟨.array [] none, some after⟩
          else
            let s := readElements fuel rest
            ⟨.array s.items s.ending, s.rest⟩
      else if c = '\x7b' then
        match skipSpace rest with
        | [] => ⟨.object [] (some SyntaxError.endInObject.fault), none⟩
        | d :: after =>
          if d = '\x7d' then ⟨.object [] none, some after⟩
          else if d = '"' then
            let s := readMembers fuel after
            ⟨.object s.items s.ending, s.rest⟩
          else ⟨.object [] (some SyntaxError.keyIsNoString.fault), none⟩
      else .stop (some c) SyntaxError.expectedValue.fault

/-- The elements of an array that has at least one left. -/
def readElements : Nat → List Char → Sequence Document
  | 0, _ => .faulty SyntaxError.endInArray.fault
  | fuel + 1, cs =>
    let step := readValue fuel cs
    match step.rest with
    | none => ⟨[step.value], none, none⟩
    | some rest =>
      match skipSpace rest with
      | [] => .cons step.value (.faulty SyntaxError.endInArray.fault)
      | c :: rest =>
        if c = ']' then .cons step.value (.closed rest)
        else if c = ',' then
          match skipSpace rest with
          | [] => .cons step.value (.faulty SyntaxError.endInValue.fault)
          | d :: _ =>
            -- a comma in front of the bracket: whoever skips the array looks for a value here
            if d = ']' then .cons step.value (.faulty ⟨.trailingComma, some .expectedValue⟩)
            else .cons step.value (readElements fuel rest)
        else .cons step.value (.faulty SyntaxError.expectedCommaOrBracket.fault)

/-- The members of an object, from behind the opening quote of the next key. -/
def readMembers : Nat → List Char → Sequence (Key × Document)
  | 0, _ => .faulty SyntaxError.endInObject.fault
  | fuel + 1, cs =>
    match readString .start cs with
    | .error fault => .faulty fault
    | .ok (key, rest) =>
      match skipSpace rest with
      | [] => ⟨[(key, .broken none SyntaxError.endInObject.fault)], none, none⟩
      | c :: rest =>
        if c ≠ ':' then ⟨[(key, .broken none SyntaxError.expectedColon.fault)], none, none⟩
        else
          let step := readValue fuel rest
          let member := (key, step.value)
          match step.rest with
          | none => ⟨[member], none, none⟩
          | some rest =>
            match skipSpace rest with
            | [] => .cons member (.faulty SyntaxError.endInObject.fault)
            | c :: rest =>
              if c = '\x7d' then .cons member (.closed rest)
              else if c = ',' then
                match skipSpace rest with
                | [] => .cons member (.faulty ⟨.endInValue, some .endInObject⟩)
                | d :: after =>
                  if d = '"' then .cons member (readMembers fuel after)
                  else if d = '\x7d' then
                    .cons member (.faulty ⟨.trailingComma, some .keyIsNoString⟩)
                  else .cons member (.faulty SyntaxError.keyIsNoString.fault)
              else .cons member (.faulty SyntaxError.expectedCommaOrBrace.fault)

end

/-- The document of a text, and whether anything but space stands behind it. -/
def read (s : String) : Document × Bool :=
  let cs := s.toList
  let step := readValue (2 * cs.length + 2) cs
  (step.value, (step.rest.map fun rest => !(skipSpace rest).isEmpty).getD false)

end KindResolution.Json.Reader
