import KindResolution.Scheme

/-!
# Histories of a scheme

Sequences of types that are added to a scheme. A type may be added again, under another kind.
-/

namespace KindResolution

namespace Scheme

/-- The ways in which a type is added: under any kind, or a built-in type under its own. -/
inductive Change where
  | insert (type : ObjectType) (kind : GroupVersionKind)
  | insertType (type : ApiType)
  deriving DecidableEq, Repr

/-- The type that is added. -/
def Change.type : Change → ObjectType
  | .insert type _ => type
  | .insertType type => .api type

/-- The scheme after a change. -/
def change (s : Scheme) : Change → Scheme
  | .insert type kind => s.insert type kind
  | .insertType type => s.insertType type

/-- The scheme after a sequence of changes. -/
def after (s : Scheme) (history : List Change) : Scheme :=
  history.foldl change s

end Scheme

end KindResolution
