import KindResolution.Json.Reader
import KindResolution.Text.Base64
import KindResolution.Text.Quoted
import KindResolution.Timestamp

/-!
# Decoding JSON

Decoders turn documents into values of other types. A document is walked in its own order, and the
first thing that does not fit is the error: a value of the wrong type, a missing or repeated field,
or a place where the text is not JSON. Decoding a value and decoding a text differ in a few rules,
so a decoder is told the `Source` of its document; for a text that includes how many more levels of
nesting are allowed.
-/

namespace KindResolution.Json

open KindResolution.Text

/-- Where a document comes from: from a value, or from a text with the given number of levels of
nesting left. -/
inductive Source where
  | value
  | text (levels : Nat)
  deriving DecidableEq, Repr

/-- The number of levels of nesting that a text is read with. One of them is never used up. -/
def maxLevels : Nat := 128

/-- The kinds of things that can stand in the place of another. -/
inductive Unexpected where
  | null
  | bool (value : Bool)
  | integer (value : Int)
  | real (value : Binary64)
  | string (value : String)
  | sequence
  | map
  deriving DecidableEq

/-- The description of a thing in an error message. -/
def Unexpected.text : Unexpected → String
  | .null => "null"
  | .bool true => "boolean `true`"
  | .bool false => "boolean `false`"
  | .integer n => "integer `" ++ String.ofList (signedDecimal n) ++ "`"
  | .real x => "floating point `" ++ String.ofList (Number.renderReal x) ++ "`"
  | .string s => "string " ++ quote s
  | .sequence => "sequence"
  | .map => "map"

/-- The reasons why a document does not decode. -/
inductive DecodeError where
  | malformed (error : SyntaxError)
  | invalidType (found : Unexpected) (expected : String)
  | invalidValue (found : Unexpected) (expected : String)
  | invalidLength (length : Nat) (expected : String)
  | unknownVariant (name : String) (variants : List String)
  | missingField (name : String)
  | duplicateField (name : String)
  | invalidTimestamp (error : Timestamp.Error)
  | invalidBase64 (error : Base64.Error)
  deriving DecidableEq

/-- The names between which a choice would have been, each between accents. -/
def alternatives : List String → String
  | [] => "nothing"
  | [name] => "`" ++ name ++ "`"
  | [first, second] => "`" ++ first ++ "` or `" ++ second ++ "`"
  | names => "one of " ++ ", ".intercalate (names.map fun name => "`" ++ name ++ "`")

/-- The text of an error. -/
def DecodeError.message : DecodeError → String
  | .malformed e => e.message
  | .invalidType found expected => "invalid type: " ++ found.text ++ ", expected " ++ expected
  | .invalidValue found expected => "invalid value: " ++ found.text ++ ", expected " ++ expected
  | .invalidLength length expected =>
    "invalid length " ++ String.ofList (decimal length) ++ ", expected " ++ expected
  | .unknownVariant name variants =>
    "unknown variant `" ++ name ++ "`, expected " ++ alternatives variants
  | .missingField name => "missing field `" ++ name ++ "`"
  | .duplicateField name => "duplicate field `" ++ name ++ "`"
  | .invalidTimestamp e => e.message
  | .invalidBase64 e => e.message

/-- A way to turn documents into values of a type. -/
abbrev Decoder (α : Type) := Source → Document → Except DecodeError α

/-- The source of what is inside an array or object. -/
def Source.enter : Source → Except DecodeError Source
  | .value => .ok .value
  | .text levels =>
    if 1 < levels then .ok (.text (levels - 1)) else .error (.malformed .recursionLimit)

/-- The error of a document that is not of the expected type. -/
def Document.mismatch (d : Document) (expected : String) : DecodeError :=
  match d with
  | .null => .invalidType .null expected
  | .bool b => .invalidType (.bool b) expected
  | .number (.integer n) => .invalidType (.integer n) expected
  | .number (.real x) => .invalidType (.real x) expected
  | .string s => .invalidType (.string s) expected
  | .broken _ fault => .malformed fault.reading
  | .array _ _ => .invalidType .sequence expected
  | .object _ _ => .invalidType .map expected

/-- Skips a document. -/
def Document.skip (d : Document) : Except DecodeError Unit :=
  match d.skipError? with
  | some e => .error (.malformed e)
  | none => .ok ()

/-- The text of a key. -/
def readKey : Key → Except DecodeError String
  | .ok key => .ok key
  | .error e => .error (.malformed e)

/-- Meets the end of an array or object. -/
def readEnding : Option Fault → Except DecodeError Unit
  | some fault => .error (.malformed fault.reading)
  | none => .ok ()

namespace Decoder

/-- Decodes a value. -/
def ofValue {α : Type} (d : Decoder α) (v : Json) : Except DecodeError α :=
  d .value (Document.ofJson v)

/-- Decodes a text, behind which nothing but space may stand. -/
def ofText {α : Type} (d : Decoder α) (s : String) : Except DecodeError α := do
  let (document, trailing) := Reader.read s
  let result ← d (.text maxLevels) document
  if trailing then .error (.malformed .trailingCharacters) else return result

/-- Decodes a string. -/
def string : Decoder String
  | _, .string s => .ok s
  | _, d => .error (d.mismatch "a string")

/-- Decodes a truth value. -/
def bool : Decoder Bool
  | _, .bool b => .ok b
  | _, d => .error (d.mismatch "a boolean")

/-- Decodes an integer with 64 bits and a sign. -/
def int64 : Decoder Int64
  | _, .number (.integer n) =>
    if Int64.minValue.toInt ≤ n ∧ n ≤ Int64.maxValue.toInt then .ok (Int64.ofInt n)
    else .error (.invalidValue (.integer n) "i64")
  | _, d => .error (d.mismatch "i64")

/-- Decodes a timestamp. -/
def timestamp : Decoder Timestamp
  | _, .string s => (Timestamp.read s).mapError .invalidTimestamp
  | _, d => .error (d.mismatch "an RFC 3339 formatted date and time string")

/-- Decodes bytes in base64; null stands for no bytes. -/
def base64 : Decoder (List UInt8)
  | _, .null => .ok []
  | _, .string s => (Base64.decode s).mapError .invalidBase64
  | _, d => .error (d.mismatch "a base64-encoded string")

/-- Decodes something that null is the absence of. -/
def option {α : Type} (decoder : Decoder α) : Decoder (Option α)
  | _, .null => .ok none
  | s, d => (decoder s d).map some

/-- Decodes elements one after the other. -/
def elements {α : Type} (decoder : Decoder α) (s : Source) :
    List Document → Except DecodeError (List α)
  | [] => .ok []
  | element :: rest => do
    let first ← decoder s element
    let others ← elements decoder s rest
    return first :: others

/-- Decodes an array of things. -/
def list {α : Type} (decoder : Decoder α) : Decoder (List α)
  | s, .array items ending => do
    let s ← s.enter
    let decoded ← elements decoder s items
    readEnding ending
    return decoded
  | _, d => .error (d.mismatch "a sequence")

/-- Decodes members one after the other into pairs. -/
def pairs {α : Type} (decoder : Decoder α) (s : Source) :
    List (Key × Document) → Except DecodeError (List (String × α))
  | [] => .ok []
  | (key, value) :: rest => do
    let key ← readKey key
    let first ← decoder s value
    let others ← pairs decoder s rest
    return (key, first) :: others

/-- Decodes an object as a map; of two members with one key the later counts. -/
def map {α : Type} (decoder : Decoder α) : Decoder (SortedMap α)
  | s, .object members ending => do
    let s ← s.enter
    let decoded ← pairs decoder s members
    readEnding ending
    return SortedMap.ofList decoded
  | _, d => .error (d.mismatch "a map")

mutual

/-- Decodes any value. -/
def any : Source → Document → Except DecodeError Json
  | _, .null => .ok .null
  | _, .bool b => .ok (.bool b)
  | _, .number n => .ok (.number n)
  | _, .string s => .ok (.string s)
  | _, .broken _ fault => .error (.malformed fault.reading)
  | s, .array items ending => do
    let s ← s.enter
    let decoded ← anyElements s items
    readEnding ending
    return .array decoded
  | s, .object members ending => do
    let s ← s.enter
    let decoded ← anyMembers s members
    readEnding ending
    return .object (Entries.insertAll [] decoded)

/-- Decodes any elements. -/
def anyElements : Source → List Document → Except DecodeError (List Json)
  | _, [] => .ok []
  | s, element :: rest => do
    let first ← any s element
    let others ← anyElements s rest
    return first :: others

/-- Decodes any members. -/
def anyMembers : Source → List (Key × Document) → Except DecodeError (List (String × Json))
  | _, [] => .ok []
  | s, (key, value) :: rest => do
    let key ← readKey key
    let first ← any s value
    let others ← anyMembers s rest
    return (key, first) :: others

end

end Decoder

/-- A field of a record that is being decoded: its key, whether it may not come again, and how its
value is put into the record. -/
structure RecordField (σ : Type) where
  key : String
  taken : σ → Bool
  read : σ → Decoder σ

namespace RecordField

/-- A field that may come once. -/
def once {σ α : Type} (key : String) (get : σ → Option α) (set : σ → α → σ)
    (decoder : Decoder α) : RecordField σ where
  key := key
  taken st := (get st).isSome
  read st s d := (decoder s d).map (set st)

/-- A field that may be null, and of which the last occurrence counts. -/
def optional {σ α : Type} (key : String) (set : σ → Option α → σ) (decoder : Decoder α) :
    RecordField σ where
  key := key
  taken _ := false
  read st s d := (Decoder.option decoder s d).map (set st)

/-- A field that has to hold a given text if it is there. -/
def constant {σ : Type} (key : String) (text : String) : RecordField σ where
  key := key
  taken _ := false
  read st s d := do
    let found ← Decoder.string s d
    if found = text then return st else .error (.invalidValue (.string found) text)

/-- Reads members into a record. Members that are no fields are skipped. -/
def readMembers {σ : Type} (fields : List (RecordField σ)) (s : Source) (st : σ) :
    List (Key × Document) → Except DecodeError σ
  | [] => .ok st
  | (key, value) :: rest => do
    let key ← readKey key
    match fields.find? fun field => field.key == key with
    | some field =>
      if field.taken st then .error (.duplicateField key)
      else
        let st ← field.read st s value
        readMembers fields s st rest
    | none =>
      value.skip
      readMembers fields s st rest

/-- The error of an array that ends after the given number of fields, out of all of them. -/
def tooShort (name : String) (count index : Nat) : Option Fault → DecodeError
  | some fault => .malformed fault.reading
  | none =>
    .invalidLength index
      ("struct " ++ name ++ " with " ++ String.ofList (decimal count) ++
        (if count = 1 then " element" else " elements"))

/-- Reads the elements of an array into the fields, one each, and returns the elements left. -/
def readElements {σ : Type} (name : String) (count : Nat) (s : Source) (ending : Option Fault) :
    List (RecordField σ) → Nat → σ → List Document → Except DecodeError (σ × List Document)
  | [], _, st, left => .ok (st, left)
  | _ :: _, index, _, [] => .error (tooShort name count index ending)
  | field :: fields, index, st, element :: rest => do
    let st ← field.read st s element
    readElements name count s ending fields (index + 1) st rest

/-- Meets the end of an array whose elements should be used up. -/
def readEndOfElements (count : Nat) (left : List Document) (ending : Option Fault) :
    Source → Except DecodeError Unit
  | .value =>
    if left.isEmpty then .ok ()
    else .error (.invalidLength (count + left.length) "fewer elements in array")
  | .text _ =>
    if !left.isEmpty then .error (.malformed .trailingCharacters)
    else match ending with
      | none => .ok ()
      | some fault =>
        if fault.reading = .trailingComma ∨ fault.reading = .endInArray then
          .error (.malformed fault.reading)
        else .error (.malformed .trailingCharacters)

end RecordField

namespace Decoder

/-- Decodes a record from an object, or from an array of the values of all fields in their order. -/
def record {σ α : Type} (name : String) (fields : List (RecordField σ)) (start : σ)
    (finish : σ → Except DecodeError α) : Decoder α
  | s, .array items ending => do
    let inner ← s.enter
    let (st, left) ← RecordField.readElements name fields.length inner ending fields 0 start items
    let result ← finish st
    RecordField.readEndOfElements fields.length left ending s
    return result
  | s, .object members ending => do
    let s ← s.enter
    let st ← RecordField.readMembers fields s start members
    readEnding ending
    finish st
  | _, d => .error (d.mismatch ("struct " ++ name))

/-- Decodes a record with defaults for all fields from an object. -/
def resource {σ : Type} (name : String) (fields : List (RecordField σ)) (start : σ) : Decoder σ
  | s, .object members ending => do
    let s ← s.enter
    let st ← RecordField.readMembers fields s start members
    readEnding ending
    return st
  | _, d => .error (d.mismatch name)

/-- The value of a field that has to be there. -/
def required {α : Type} (name : String) : Option α → Except DecodeError α
  | some value => .ok value
  | none => .error (.missingField name)

end Decoder

end KindResolution.Json
