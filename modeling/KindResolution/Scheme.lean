import KindResolution.Object
import KindResolution.Table

/-!
# Schemes

A scheme knows the kinds of object types. Whoever adds a type also adds the type of lists of its
objects, under the kind of lists. An object without a schema declares its kind, and the scheme is
not asked.
-/

namespace KindResolution

/-- The reasons why the kind of an object is not known. -/
inductive KindError where
  | unknownType (typeName : String)
  | undeclared
  | malformedVersion (error : MalformedApiVersion)
  deriving DecidableEq, Repr

/-- The text of an error. -/
def KindError.message : KindError → String
  | .unknownType typeName => "no kind is registered for type " ++ typeName
  | .undeclared => "schema-less object does not declare apiVersion and kind"
  | .malformedVersion e => "invalid apiVersion: " ++ e.message

/-- The kind that an object without a schema declares. It needs the names of a type, with a kind
that is not empty. -/
def kindDeclared (typeMeta : Option TypeMeta) : Except KindError GroupVersionKind :=
  match typeMeta with
  | none => .error .undeclared
  | some typeMeta =>
    if typeMeta.kind = "" then .error .undeclared
    else typeMeta.groupVersionKind.mapError .malformedVersion

/-- The kinds of object types. -/
structure Scheme where
  kinds : Table ObjectType GroupVersionKind := .empty

namespace Scheme

/-- Adds a type under a kind, and its lists under the kind of lists. -/
def insert (s : Scheme) (type : ObjectType) (kind : GroupVersionKind) : Scheme :=
  { kinds := (s.kinds.insert (.list type) kind.listKind).insert type kind }

/-- Adds a built-in type under its own kind. -/
def insertType (s : Scheme) (type : ApiType) : Scheme :=
  s.insert (.api type) type.kind

/-- The kind of a type. -/
def find? (s : Scheme) (type : ObjectType) : Option GroupVersionKind :=
  s.kinds.find? type

/-- Whether a type has been added. -/
def contains (s : Scheme) (type : ObjectType) : Bool :=
  s.kinds.contains type

/-- The kind of an object. -/
def kindOf (s : Scheme) {type : ObjectType} (o : Object type) :
    Except KindError GroupVersionKind :=
  match o.identity with
  | .ofType type =>
    match s.find? type with
    | some kind => .ok kind
    | none => .error (.unknownType type.name)
  | .declared typeMeta => kindDeclared typeMeta

/-- The kind of an object without a schema is the one that it declares. -/
theorem kindOf_of_declares (s : Scheme) {t : ObjectType} (o : Object t)
    (declares : t.declaresKind = true) : s.kindOf o = kindDeclared o.typeMeta? := by
  rw [kindOf, o.identity_of_declares declares]

/-- The kind of any other object depends on its type only. -/
theorem kindOf_eq_of_not_declares (s : Scheme) {t : ObjectType} (o o' : Object t)
    (typed : t.declaresKind = false) : s.kindOf o = s.kindOf o' := by
  rw [kindOf, kindOf, o.identity_of_not_declares typed, o'.identity_of_not_declares typed]

end Scheme

end KindResolution
