import KindResolution.Cache

/-!
# Histories of a cache

Sequences of calls on one cache, with the same collaborators all along.
-/

namespace KindResolution

/-- The ways in which a cache is asked about an object. -/
inductive Question where
  | resolve
  | byType
  | byKind
  | objectMeta
  deriving DecidableEq, Repr

/-- A question about an object. -/
structure CacheCall where
  question : Question
  type : ObjectType
  object : Object type

namespace Cache

variable {C : Type}

/-- Answers a question about an object with the record for it. -/
def answer (c : Cache C) (w : Collaborators C) (call : CacheCall) : Resolution C (Stored C) :=
  match call.question with
  | .resolve => c.resolve w call.object
  | .byType => c.resolveUnderType w call.object
  | .byKind => c.resolveUnderKind w call.object
  | .objectMeta =>
    let found := c.resolveWithMetadata w call.object
    ⟨found.attempt.bind fun pair => { outcome := .ok pair.1 }, found.cache⟩

/-- The cache after a sequence of calls. -/
def after (c : Cache C) (w : Collaborators C) (history : List CacheCall) : Cache C :=
  history.foldl (fun c call => (c.answer w call).cache) c

end Cache

/-- The cache over a scheme and a mapper after a sequence of calls, from the time when it knows
nothing. -/
def Registry.cacheAfter (r : Registry) (config : Config) (history : List CacheCall) :
    Cache Client :=
  (Cache.ofConfig config).after r.collaborators history

end KindResolution
