import KindResolution.Json.Basic

/-!
# The text of JSON values

Values are written without spaces and with the members of objects in the order in which they are
listed. In strings only the quote, the backslash and the control characters below the space are
escaped.
-/

namespace KindResolution.Json

open KindResolution.Text

/-- The characters that a character of a string is written as. -/
def escapeChar (c : Char) : List Char :=
  if c = '"' then ['\\', '"']
  else if c = '\\' then ['\\', '\\']
  else if c = '\x08' then ['\\', 'b']
  else if c = '\x0c' then ['\\', 'f']
  else if c = '\n' then ['\\', 'n']
  else if c = '\r' then ['\\', 'r']
  else if c = '\t' then ['\\', 't']
  else if c.toNat < 0x20 then
    ['\\', 'u', '0', '0', Nat.digitChar (c.toNat / 16), Nat.digitChar (c.toNat % 16)]
  else [c]

/-- A text as a string of JSON. -/
def renderString (s : String) : List Char :=
  '"' :: s.toList.flatMap escapeChar ++ ['"']

mutual

/-- The text of a value. -/
def render : Json → List Char
  | .null => ['n', 'u', 'l', 'l']
  | .bool true => ['t', 'r', 'u', 'e']
  | .bool false => ['f', 'a', 'l', 's', 'e']
  | .number n => n.render
  | .string s => renderString s
  | .array elements => '[' :: renderElements elements ++ [']']
  | .object members => '\x7b' :: renderMembers members ++ ['\x7d']

/-- The texts of the elements of an array, with commas between them. -/
def renderElements : List Json → List Char
  | [] => []
  | [element] => render element
  | element :: next :: rest => render element ++ ',' :: renderElements (next :: rest)

/-- The texts of the members of an object, with commas between them. -/
def renderMembers : List (String × Json) → List Char
  | [] => []
  | [(key, value)] => renderString key ++ ':' :: render value
  | (key, value) :: next :: rest =>
    renderString key ++ ':' :: render value ++ ',' :: renderMembers (next :: rest)

end

/-- The text of a value. -/
def text (v : Json) : String :=
  String.ofList v.render

end KindResolution.Json
