import KindResolution.ApiType
import KindResolution.ObjectList
import KindResolution.Text.Quoted

/-!
# Objects

The objects that can be exchanged with an API, by type. An `ObjectType` is built in, added by a
program, the one type of all objects without a schema, or the type of lists of objects of a type;
`Object t` are the objects of the type `t`. An object is either known by its type, or its type says
nothing about its kind and it declares the kind itself.
-/

namespace KindResolution

open Json

/-- A type of objects. -/
inductive ObjectType where
  | api (type : ApiType)
  | custom (name : String)
  | dynamic
  | list (item : ObjectType)
  deriving DecidableEq, Repr

namespace ObjectType

/-- The name of a type. It is for people; types with one name can be different. -/
def name : ObjectType → String
  | .api t => t.name
  | .custom name => name
  | .dynamic => "DynamicObject"
  | .list item => "ObjectList<" ++ name item ++ ">"

/-- How a type is described as a key. -/
def describe (t : ObjectType) : String :=
  "TypeKey(" ++ Text.quote t.name ++ ")"

/-- Whether the objects of a type declare their kinds themselves. -/
def declaresKind : ObjectType → Bool
  | .dynamic => true
  | .list item => declaresKind item
  | _ => false

/-- Whether the objects of a type are lists. -/
def isList : ObjectType → Bool
  | .list _ => true
  | _ => false

end ObjectType

/-- An object of a built-in type: its metadata, and members of its own other than the names of its
type and the metadata. -/
structure ApiObject where
  objectMeta : ObjectMeta := {}
  body : SortedMap Json := .empty

/-- An object of a type that a program adds. It may expose metadata, and is written as some value. -/
structure CustomObject where
  objectMeta : Option ObjectMeta
  value : Json

/-- The objects of a type. -/
def Object : ObjectType → Type
  | .api _ => ApiObject
  | .custom _ => CustomObject
  | .dynamic => DynamicObject
  | .list item => ObjectList (Object item)

/-- How an object is identified: by its type, or by the names of a type that it declares. -/
inductive Identity where
  | ofType (type : ObjectType)
  | declared (typeMeta : Option TypeMeta)
  deriving DecidableEq, Repr

/-- Whether an object declares its kind itself. -/
def Identity.isDeclared : Identity → Bool
  | .ofType _ => false
  | .declared _ => true

/-- The value of an object of a built-in type. The names of its type are its own. -/
def ApiObject.toJson (t : ApiType) (o : ApiObject) : Json :=
  let body := ((o.body.insert "apiVersion" (.string t.kind.apiVersion)).insert
    "kind" (.string t.kind.kind)).insert "metadata" o.objectMeta.toJson
  .object body.entries

/-- An object of a built-in type with the given metadata and nothing else. -/
def ApiObject.ofMeta (t : ApiType) (objectMeta : ObjectMeta) : ApiObject where
  objectMeta := objectMeta
  body := .ofList t.requiredMembers

namespace Object

/-- The names of a type that an object declares. -/
def typeMeta? : {t : ObjectType} → Object t → Option TypeMeta
  | .api _, _ => none
  | .custom _, _ => none
  | .dynamic, o => DynamicObject.typeMeta o
  | .list _, l => ObjectList.typeMeta l

/-- How an object is identified. A list is identified the way its items are. -/
def identity {t : ObjectType} (o : Object t) : Identity :=
  if t.declaresKind then .declared o.typeMeta? else .ofType t

/-- An object declares its kind if its type leaves that to the objects. -/
@[simp] theorem isDeclared_identity {t : ObjectType} (o : Object t) :
    o.identity.isDeclared = t.declaresKind := by
  unfold identity
  cases t.declaresKind <;> rfl

/-- An object whose type leaves the kind to the objects is identified by what it declares. -/
theorem identity_of_declares {t : ObjectType} (o : Object t) (declares : t.declaresKind = true) :
    o.identity = .declared o.typeMeta? :=
  if_pos declares

/-- Any other object is identified by its type. -/
theorem identity_of_not_declares {t : ObjectType} (o : Object t)
    (typed : t.declaresKind = false) : o.identity = .ofType t :=
  if_neg (by simp [typed])

/-- The metadata of an object, if it exposes any. Lists do not. -/
def objectMeta? : {t : ObjectType} → Object t → Option ObjectMeta
  | .api _, o => some (ApiObject.objectMeta o)
  | .custom _, o => CustomObject.objectMeta o
  | .dynamic, o => some (DynamicObject.objectMeta o)
  | .list _, _ => none

/-- An object as it is written. -/
def toJson : {t : ObjectType} → Object t → Except EncodeError Json
  | .api t, o => .ok (ApiObject.toJson t o)
  | .custom _, o => .ok (CustomObject.value o)
  | .dynamic, o => DynamicObject.toJson o
  | .list _, l => ObjectList.toJson toJson l

/-- An object as a value. -/
def toValue {t : ObjectType} (o : Object t) : Except EncodeError Json :=
  o.toJson.map normalize

end Object

end KindResolution
