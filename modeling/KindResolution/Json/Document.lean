import KindResolution.Json.Basic

/-!
# JSON documents

A document is what a text holds before anything is asked of it. It keeps the members of an object
in their order and with all repetitions, and it keeps the places where the text is not JSON: whoever
reads the document meets the error at the point where the reading gets there, after everything that
stands before it.

Parts of a document that nobody asks for are skipped. Skipping is more lenient than reading: a
number out of range or a lone surrogate in a string is an error only to a reader.
-/

namespace KindResolution.Json

/-- The ways in which a text can fail to be JSON. -/
inductive SyntaxError where
  | endInArray
  | endInObject
  | endInString
  | endInValue
  | expectedColon
  | expectedCommaOrBracket
  | expectedCommaOrBrace
  | expectedIdentifier
  | expectedValue
  | invalidEscape
  | invalidNumber
  | numberOutOfRange
  | controlCharacter
  | keyIsNoString
  | loneSurrogate
  | unexpectedEndOfEscape
  | trailingComma
  | trailingCharacters
  | recursionLimit
  deriving DecidableEq, Repr

/-- The text of an error. -/
def SyntaxError.message : SyntaxError → String
  | .endInArray => "EOF while parsing a list"
  | .endInObject => "EOF while parsing an object"
  | .endInString => "EOF while parsing a string"
  | .endInValue => "EOF while parsing a value"
  | .expectedColon => "expected `:`"
  | .expectedCommaOrBracket => "expected `,` or `]`"
  | .expectedCommaOrBrace => "expected `,` or `\x7d`"
  | .expectedIdentifier => "expected ident"
  | .expectedValue => "expected value"
  | .invalidEscape => "invalid escape"
  | .invalidNumber => "invalid number"
  | .numberOutOfRange => "number out of range"
  | .controlCharacter => "control character (\\u0000-\\u001F) found while parsing a string"
  | .keyIsNoString => "key must be a string"
  | .loneSurrogate => "lone leading surrogate in hex escape"
  | .unexpectedEndOfEscape => "unexpected end of hex escape"
  | .trailingComma => "trailing comma"
  | .trailingCharacters => "trailing characters"
  | .recursionLimit => "recursion limit exceeded"

/-- A place where a text is not JSON: the error that a reader meets there, and the one that somebody
who skips the value meets, if it stops them at all. -/
structure Fault where
  reading : SyntaxError
  skipping : Option SyntaxError
  deriving DecidableEq, Repr

/-- A fault that is the same error to everybody. -/
def SyntaxError.fault (e : SyntaxError) : Fault := ⟨e, some e⟩

/-- The key of a member, or the error in the string that should be the key. -/
abbrev Key := Except SyntaxError String

/-- A document. A broken value comes with its first character, if the place of a value was reached,
and an array or object with the fault that ends it early. -/
inductive Document where
  | null
  | bool (value : Bool)
  | number (value : Number)
  | string (value : String)
  | broken (start : Option Char) (fault : Fault)
  | array (elements : List Document) (ending : Option Fault)
  | object (members : List (Key × Document)) (ending : Option Fault)

namespace Document

mutual

/-- The document of a value. -/
def ofJson : Json → Document
  | .null => .null
  | .bool b => .bool b
  | .number n => .number n
  | .string s => .string s
  | .array elements => .array (ofElements elements) none
  | .object members => .object (ofMembers members) none

/-- The documents of the elements of an array. -/
def ofElements : List Json → List Document
  | [] => []
  | element :: rest => ofJson element :: ofElements rest

/-- The documents of the members of an object. -/
def ofMembers : List (String × Json) → List (Key × Document)
  | [] => []
  | (key, value) :: rest => (.ok key, ofJson value) :: ofMembers rest

end

mutual

/-- The first error that stops somebody who skips a document. -/
def skipError? : Document → Option SyntaxError
  | .broken _ fault => fault.skipping
  | .array elements ending => skipElements? elements <|> ending.bind Fault.skipping
  | .object members ending => skipMembers? members <|> ending.bind Fault.skipping
  | _ => none

/-- The first error that stops somebody who skips the elements of an array. -/
def skipElements? : List Document → Option SyntaxError
  | [] => none
  | element :: rest => skipError? element <|> skipElements? rest

/-- The first error that stops somebody who skips the members of an object. -/
def skipMembers? : List (Key × Document) → Option SyntaxError
  | [] => none
  | (_, value) :: rest => skipError? value <|> skipMembers? rest

end

end Document

end KindResolution.Json
