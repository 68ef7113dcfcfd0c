import KindResolution.Kind

/-!
# The order of kinds

Kinds are ordered by group, then by version, then by the name of the kind; texts are compared code
point by code point. `sortDistinct` lists things in their order and each only once.
-/

namespace KindResolution

/-- The names of a kind, the more significant first. -/
def GroupVersionKind.names (k : GroupVersionKind) : List String :=
  [k.group, k.version, k.kind]

/-- The names of a kind without version, the more significant first. -/
def GroupKind.names (k : GroupKind) : List String :=
  [k.group, k.kind]

/-- Puts a list of names into its place in an ascending list, unless it is there. -/
def insertDistinct (names : List String) : List (List String) → List (List String)
  | [] => [names]
  | next :: rest =>
    if names < next then names :: next :: rest
    else if names = next then next :: rest
    else next :: insertDistinct names rest

/-- Lists of names in ascending order, each once. -/
def sortDistinct (all : List (List String)) : List (List String) :=
  all.foldr insertDistinct []

end KindResolution
