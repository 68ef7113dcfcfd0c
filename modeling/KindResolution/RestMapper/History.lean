import KindResolution.RestMapper

/-!
# Histories of a mapper

Sequences of changes to a mapper, each of which is one of the ways in which it is filled.
-/

namespace KindResolution

namespace RestMapper

/-- The ways in which a mapper is filled. -/
inductive Change where
  | insert (kind : GroupVersionKind) (plural : String) (scope : Scope)
  | insertRegular (kind : GroupVersionKind) (scope : Scope)
  | insertType (type : ApiType)
  | insertList (list : ResourceList)
  deriving DecidableEq, Repr

/-- The mapper after a change. A list that is refused changes nothing. -/
def change (m : RestMapper) : Change → RestMapper
  | .insert kind plural scope => m.insert kind plural scope
  | .insertRegular kind scope => m.insertRegular kind scope
  | .insertType type => m.insertType type
  | .insertList list =>
    match m.insertList list with
    | .ok changed => changed
    | .error _ => m

/-- The mapper after a sequence of changes. -/
def after (m : RestMapper) (history : List Change) : RestMapper :=
  history.foldl change m

end RestMapper

end KindResolution
