import KindResolution.Cache.History

/-!
# Runs of a cache

Sequences of calls on one cache with collaborators that need not stay the same: a resolver can go
offline between two calls, or learn where a kind is served.
-/

namespace KindResolution

/-- A call, and those whom the cache asks when it answers the call. -/
structure Turn (C : Type) where
  collaborators : Collaborators C
  call : CacheCall

/-- Whether a call to the collaborators completes a record. Where the kind is served is the last
thing that is asked for a record, so that answer completes it. -/
def Call.completes {C : Type} (w : Collaborators C) : Call → Bool
  | .mappingOf kind version => (w.resolver.mappingOf kind version).isOk
  | _ => false

namespace Cache

variable {C : Type}

/-- Answers the call of a turn. -/
def take (c : Cache C) (turn : Turn C) : Resolution C (Stored C) :=
  c.answer turn.collaborators turn.call

/-- The cache after a run. -/
def run (c : Cache C) (turns : List (Turn C)) : Cache C :=
  turns.foldl (fun c turn => (c.take turn).cache) c

/-- The outcomes of the calls of a run. -/
def runOutcomes : Cache C → List (Turn C) → List (Except ResolveError (Stored C))
  | _, [] => []
  | c, turn :: rest => (c.take turn).attempt.outcome :: runOutcomes (c.take turn).cache rest

/-- The number of records that are completed in a run. -/
def completions : Cache C → List (Turn C) → Nat
  | _, [] => 0
  | c, turn :: rest =>
    (c.take turn).attempt.calls.countP (Call.completes turn.collaborators) +
      completions (c.take turn).cache rest

end Cache

end KindResolution
