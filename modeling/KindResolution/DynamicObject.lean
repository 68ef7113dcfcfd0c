import KindResolution.Kind.Json
import KindResolution.Metadata

/-!
# Objects without a schema

A `DynamicObject` stands for an object of any kind: it keeps the names of its type, if it has both
of them, its metadata, and all other members as they are. The three parts share one JSON object.
-/

namespace KindResolution

open Json

/-- An object of any kind. -/
structure DynamicObject where
  typeMeta : Option TypeMeta := none
  objectMeta : ObjectMeta := {}
  data : Json := .null

/-- The reason why a value cannot be written: something other than an object or null should become
members of an object. -/
inductive EncodeError where
  | noMembers (found : String)
  deriving DecidableEq, Repr

/-- The text of an error. -/
def EncodeError.message : EncodeError → String
  | .noMembers found => "can only flatten structs and maps (got " ++ found ++ ")"

/-- The members that a value adds to the object around it. Null adds none. -/
def Json.flatMembers : Json → Except EncodeError (List (String × Json))
  | .null => .ok []
  | .object members => .ok members
  | .bool _ => .error (.noMembers "a boolean")
  | .number (.integer _) => .error (.noMembers "an integer")
  | .number (.real _) => .error (.noMembers "a float")
  | .string _ => .error (.noMembers "a string")
  | .array _ => .error (.noMembers "a sequence")

/-- The members of the names of a type that may be absent. -/
def TypeMeta.optionalMembers : Option TypeMeta → List (String × Json)
  | some typeMeta => typeMeta.members
  | none => []

/-- Takes the names of a type out of the members of an object, in their order, until one of them comes
again or is no string. The members that are left come with the type, if there is one. -/
def TypeMeta.extract (apiVersion kind : Option String) :
    List (String × Json) → Option TypeMeta × List (String × Json)
  | [] =>
    match apiVersion, kind with
    | some apiVersion, some kind => (some ⟨apiVersion, kind⟩, [])
    | _, _ => (none, [])
  | (key, value) :: rest =>
    if key = "apiVersion" then
      match apiVersion, value with
      | none, .string s => extract (some s) kind rest
      -- the search ends here, and the members behind this one are left as they are
      | _, _ => (none, rest)
    else if key = "kind" then
      match kind, value with
      | none, .string s => extract apiVersion (some s) rest
      | _, _ => (none, rest)
    else
      let (typeMeta, left) := extract apiVersion kind rest
      (typeMeta, (key, value) :: left)

namespace DynamicObject

/-- An object of a kind with a name and nothing else. -/
def ofName (name : String) (kind : GroupVersionKind) : DynamicObject :=
  { typeMeta := some (.ofKind kind), objectMeta := { name := some name } }

/-- The object with other data. -/
def withData (o : DynamicObject) (data : Json) : DynamicObject :=
  { o with data := data }

/-- The object in a namespace. -/
def inNamespace (o : DynamicObject) (namespaceName : String) : DynamicObject :=
  { o with objectMeta := { o.objectMeta with namespaceName := some namespaceName } }

/-- The object without the names of a type. -/
def withoutTypeMeta (o : DynamicObject) : DynamicObject :=
  { o with typeMeta := none }

/-- The kind that the object declares, if it declares one. -/
def groupVersionKind? (o : DynamicObject) : Option (Except MalformedApiVersion GroupVersionKind) :=
  o.typeMeta.map TypeMeta.groupVersionKind

/-- The members of the object in the order in which they are written. A key may occur twice. -/
def members (o : DynamicObject) : Except EncodeError (List (String × Json)) := do
  let data ← o.data.flatMembers
  return TypeMeta.optionalMembers o.typeMeta ++ ("metadata", o.objectMeta.toJson) :: data

/-- The object as it is written. -/
def toJson (o : DynamicObject) : Except EncodeError Json :=
  o.members.map .object

/-- The object as a value: of two members with one key the later counts. -/
def toValue (o : DynamicObject) : Except EncodeError Json :=
  o.toJson.map normalize

/-- Reads the members of an object into its metadata and all else. -/
def readMembers (s : Source) (found : Option ObjectMeta) :
    List (Key × Document) → Except DecodeError (Option ObjectMeta × List (String × Json))
  | [] => .ok (found, [])
  | (key, value) :: rest => do
    let key ← readKey key
    if key = "metadata" then
      if found.isSome then .error (.duplicateField key)
      else
        let objectMeta ← ObjectMeta.decoder s value
        readMembers s (some objectMeta) rest
    else
      let value ← Decoder.any s value
      let (found, others) ← readMembers s found rest
      return (found, (key, value) :: others)

/-- Decodes an object of any kind. -/
def decoder : Decoder DynamicObject
  | s, .object members ending => do
    let s ← s.enter
    let (found, others) ← readMembers s none members
    readEnding ending
    let (typeMeta, left) := TypeMeta.extract none none others
    return { typeMeta := typeMeta, objectMeta := found.getD {}
             data := .object (Entries.insertAll [] left) }
  | _, d => .error (d.mismatch "struct DynamicObject")

/-- The reasons why an object does not turn into one of another type. -/
inductive ParseError where
  | encode (error : EncodeError)
  | decode (error : DecodeError)
  deriving DecidableEq

/-- The text of an error. -/
def ParseError.message (e : ParseError) : String :=
  "failed to parse this DynamicObject into a typed object: " ++
    match e with
    | .encode e => e.message
    | .decode e => e.message

/-- Turns an object into one of another type. -/
def parseAs {α : Type} (o : DynamicObject) (d : Decoder α) : Except ParseError α := do
  let value ← o.toValue.mapError .encode
  (d.ofValue value).mapError .decode

end DynamicObject

end KindResolution
