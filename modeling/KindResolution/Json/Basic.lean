import KindResolution.Json.Number
import KindResolution.SortedMap

/-!
# JSON values

JSON values, with the members of an object in a list. A value is `Ordered` if the keys of every
object in it ascend strictly, which is the one form of a value whose objects are maps; `normalize`
brings any value to that form, the last of several members with one key being the one that counts.
-/

namespace KindResolution

/-- A JSON value. -/
inductive Json where
  | null
  | bool (value : Bool)
  | number (value : Json.Number)
  | string (value : String)
  | array (elements : List Json)
  | object (members : List (String × Json))

namespace Json

/-- Values of JSON default to null. -/
instance : Inhabited Json := ⟨.null⟩

mutual

/-- Whether the keys of every object in a value ascend strictly. -/
def Ordered : Json → Prop
  | .array elements => OrderedElements elements
  | .object members => Entries.Sorted members ∧ OrderedMembers members
  | _ => True

/-- Whether all elements of a list are ordered. -/
def OrderedElements : List Json → Prop
  | [] => True
  | element :: rest => Ordered element ∧ OrderedElements rest

/-- Whether all values in a list of members are ordered. -/
def OrderedMembers : List (String × Json) → Prop
  | [] => True
  | (_, value) :: rest => Ordered value ∧ OrderedMembers rest

end

mutual

/-- The ordered form of a value. -/
def normalize : Json → Json
  | .array elements => .array (normalizeElements elements)
  | .object members => .object (Entries.insertAll [] (normalizeMembers members))
  | value => value

/-- The ordered forms of the elements of a list. -/
def normalizeElements : List Json → List Json
  | [] => []
  | element :: rest => normalize element :: normalizeElements rest

/-- The ordered forms of the values in a list of members. -/
def normalizeMembers : List (String × Json) → List (String × Json)
  | [] => []
  | (key, value) :: rest => (key, normalize value) :: normalizeMembers rest

end

/-- A natural number as a value. -/
def ofNat (n : Nat) : Json :=
  .number (.ofNat n)

/-- The member of an object under a key. -/
def member? (key : String) : Json → Option Json
  | .object members => Entries.find? key members
  | _ => none

/-- The text of a string value. -/
def string? : Json → Option String
  | .string s => some s
  | _ => none

/-- The members of an object whose values are present, in the given order. -/
def presentMembers (members : List (String × Option Json)) : List (String × Json) :=
  members.filterMap fun member => member.2.map fun value => (member.1, value)

/-- A map with text values as an object. -/
def ofTextMap (m : SortedMap String) : Json :=
  .object (m.entries.map fun entry => (entry.1, .string entry.2))

/-- A list of texts as an array. -/
def ofTexts (texts : List String) : Json :=
  .array (texts.map .string)

end Json

end KindResolution
