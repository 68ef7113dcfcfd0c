import KindResolution.Text.FormEncoding
import KindResolution.Text.Numeral

/-!
# Header fields

Names and values of header fields and lists of fields. A name is kept in lower case, so that names
which differ only in case are the same. A list may hold several fields of one name; the order among
those counts.
-/

namespace KindResolution.Http

open Text

/-- The reason why a text is not the name of a header field. -/
inductive HeaderNameError where
  | invalid
  deriving DecidableEq, Repr

/-- The text of an error. -/
def HeaderNameError.message : HeaderNameError → String
  | .invalid => "invalid HTTP header name"

/-- The reason why a text is not the value of a header field. -/
inductive HeaderValueError where
  | invalid
  deriving DecidableEq, Repr

/-- The text of an error. -/
def HeaderValueError.message : HeaderValueError → String
  | .invalid => "failed to parse header value"

/-- Whether a character may stand in the name of a header field. -/
def isNameChar (c : Char) : Bool :=
  c.isAlphanum || "!#$%&'*+-.^_\x60|~".toList.contains c

/-- Whether a character may stand in the value of a header field: anything but control characters,
of which only the tab is allowed. -/
def isValueChar (c : Char) : Bool :=
  c = '\t' || (0x20 ≤ c.toNat && c.toNat != 0x7F)

/-- The name of a header field, in lower case. -/
structure HeaderName where
  text : String
  deriving DecidableEq, Repr

/-- The value of a header field. A sensitive value is not shown in descriptions. -/
structure HeaderValue where
  text : String
  sensitive : Bool := false
  deriving DecidableEq, Repr

/-- The largest number of characters of the name of a header field. -/
def maxNameLength : Nat := 65535

/-- Reads the name of a header field. -/
def HeaderName.parse (s : String) : Except HeaderNameError HeaderName :=
  if !s.toList.isEmpty && s.toList.length ≤ maxNameLength && s.toList.all isNameChar then
    .ok ⟨String.ofList (s.toList.map Char.toLower)⟩
  else .error .invalid

/-- Reads the value of a header field. -/
def HeaderValue.parse (s : String) : Except HeaderValueError HeaderValue :=
  if s.toList.all isValueChar then .ok { text := s } else .error .invalid

namespace HeaderValue

/-- How a byte of a value is described: a quote is escaped, and what lies outside of ASCII is shown
by its code. -/
def describeByte (b : UInt8) : List Char :=
  if b = 0x22 then ['\\', '"']
  else if b = 0x09 ∨ (0x20 ≤ b ∧ b < 0x7F) then [Char.ofNat b.toNat]
  else '\\' :: 'x' :: hexadecimal b.toNat

/-- The description of a value, between quotes. -/
def describe (v : HeaderValue) : String :=
  if v.sensitive then "Sensitive"
  else String.ofList ('"' :: (FormEncoding.bytes v.text.toList).flatMap describeByte ++ ['"'])

end HeaderValue

/-- A list of header fields. -/
structure HeaderList where
  fields : List (HeaderName × HeaderValue) := []
  deriving DecidableEq, Repr

namespace HeaderList

/-- The values of the fields of a name, in their order. -/
def values (h : HeaderList) (name : HeaderName) : List HeaderValue :=
  (h.fields.filter fun field => field.1 = name).map (·.2)

/-- The value of a name, which is the first one if there are several. -/
def value? (h : HeaderList) (name : HeaderName) : Option HeaderValue :=
  (h.values name).head?

/-- Whether there is a field of a name. -/
def contains (h : HeaderList) (name : HeaderName) : Bool :=
  h.fields.any fun field => field.1 = name

/-- Adds a field behind those of the same name. -/
def append (h : HeaderList) (name : HeaderName) (value : HeaderValue) : HeaderList :=
  { fields := h.fields ++ [(name, value)] }

/-- Puts a field in place of all those of the same name. -/
def insert (h : HeaderList) (name : HeaderName) (value : HeaderValue) : HeaderList :=
  { fields := (h.fields.filter fun field => field.1 ≠ name) ++ [(name, value)] }

/-- Adds a field, unless its name occurs already. -/
def insertIfAbsent (h : HeaderList) (name : HeaderName) (value : HeaderValue) : HeaderList :=
  if h.contains name then h else h.insert name value

/-- Adds the fields of another list one after the other, each unless its name occurs already. -/
def withDefaults (h defaults : HeaderList) : HeaderList :=
  defaults.fields.foldl (fun list field => list.insertIfAbsent field.1 field.2) h

/-- A list contains a name exactly if it has values for it. -/
theorem contains_iff (h : HeaderList) (name : HeaderName) :
    h.contains name = true ↔ h.values name ≠ [] := by
  simp [contains, values]

/-- An insertion leaves exactly the new value under its name. -/
theorem values_insert (h : HeaderList) (name other : HeaderName) (value : HeaderValue) :
    (h.insert name value).values other = if other = name then [value] else h.values other := by
  by_cases hn : other = name
  · subst hn
    simp [insert, values, List.filter_filter]
  · have hne : ¬name = other := fun e => hn e.symm
    simp only [insert, values, List.filter_append, List.filter_filter, List.map_append, hn,
      if_false]
    rw [show List.filter (fun field : HeaderName × HeaderValue => decide (field.1 = other))
      [(name, value)] = [] by simp [hne]]
    simp only [List.map_nil, List.append_nil]
    congr 1
    apply List.filter_congr
    intro field _
    by_cases hf : field.1 = other
    · simp [hf, hn]
    · simp [hf]

end HeaderList

end KindResolution.Http
