import KindResolution.DynamicObject

/-!
# Lists of objects

A container of objects of one type, with the names of its own type if it has both of them, and with
metadata of its own. Members of its JSON object other than these are read over.
-/

namespace KindResolution

open Json

/-- A list of objects. -/
structure ObjectList (α : Type) where
  typeMeta : Option TypeMeta := none
  listMeta : ListMeta := {}
  items : List α

namespace ObjectList

variable {α : Type}

/-- A list that does not name its type. -/
def ofItems (items : List α) : ObjectList α :=
  { items := items }

/-- The list with the names of its type. -/
def withTypeMeta (l : ObjectList α) (typeMeta : TypeMeta) : ObjectList α :=
  { l with typeMeta := some typeMeta }

/-- The list as it is written, given how its items are. -/
def toJson (item : α → Except EncodeError Json) (l : ObjectList α) : Except EncodeError Json := do
  let items ← l.items.mapM item
  return .object (TypeMeta.optionalMembers l.typeMeta ++
    [("metadata", l.listMeta.toJson), ("items", .array items)])

/-- The list as a value. -/
def toValue (item : α → Except EncodeError Json) (l : ObjectList α) : Except EncodeError Json :=
  (l.toJson item).map normalize

/-- The parts of a list read so far. -/
structure Fields (α : Type) where
  listMeta : Option ListMeta := none
  items : Option (List α) := none
  others : List (String × Json) := []

/-- Reads the members of a list into its metadata, its items and all else. -/
def readMembers (item : Decoder α) (s : Source) (st : Fields α) :
    List (Key × Document) → Except DecodeError (Fields α)
  | [] => .ok st
  | (key, value) :: rest => do
    let key ← readKey key
    if key = "metadata" then
      if st.listMeta.isSome then .error (.duplicateField key)
      else
        let listMeta ← ListMeta.decoder s value
        readMembers item s { st with listMeta := some listMeta } rest
    else if key = "items" then
      if st.items.isSome then .error (.duplicateField key)
      else
        let items ← Decoder.list item s value
        readMembers item s { st with items := some items } rest
    else
      let value ← Decoder.any s value
      readMembers item s { st with others := st.others ++ [(key, value)] } rest

/-- Decodes a list, given how its items are decoded. -/
def decoder (item : Decoder α) : Decoder (ObjectList α)
  | s, .object members ending => do
    let s ← s.enter
    let st ← readMembers item s {} members
    readEnding ending
    let items ← Decoder.required "items" st.items
    return { typeMeta := (TypeMeta.extract none none st.others).1, listMeta := st.listMeta.getD {}
             items := items }
  | _, d => .error (d.mismatch "struct ObjectList")

end ObjectList

end KindResolution
