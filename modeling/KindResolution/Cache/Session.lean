import KindResolution.Cache.History

/-!
# Sessions

What a program does with one cache: it asks for records, and it has bodies written and requests
completed by the clients of the records that it was handed. A client is named by the number of
records that were handed out before its own.
-/

namespace KindResolution

open Http

/-- What a program can do. -/
inductive Action where
  | ask (call : CacheCall)
  | askWithMetadata (type : ObjectType) (object : Object type)
  | encode (client : Nat) (value : Json)
  | encodeObject (client : Nat) (type : ObjectType) (object : Object type)
  | complete (client : Nat) (request : Request)

/-- What comes of it. -/
inductive Reply where
  | record (outcome : Except ResolveError (Stored Client))
  | object (outcome : Except ResolveError (Stored Client × ObjectMeta))
  | body (outcome : Except ClientError String)
  | request (outcome : Except ClientError Request)
  | noClient

/-- A cache, and the clients that it handed out, in their order. -/
structure Session where
  cache : Cache Client
  clients : List Client := []

namespace Session

/-- The client of a record, if there is one. -/
def clientsOf (outcome : Except ResolveError (Stored Client)) : List Client :=
  match outcome with
  | .ok stored => [stored.record.client]
  | .error _ => []

/-- Does what the program says. -/
def act (s : Session) (w : Collaborators Client) : Action → Reply × Session
  | .ask call =>
    let found := s.cache.answer w call
    (.record found.attempt.outcome,
      { cache := found.cache, clients := s.clients ++ clientsOf found.attempt.outcome })
  | .askWithMetadata _ object =>
    let found := s.cache.resolveWithMetadata w object
    let record := found.attempt.outcome.map Prod.fst
    (.object found.attempt.outcome,
      { cache := found.cache, clients := s.clients ++ clientsOf record })
  | .encode client value =>
    (s.clients[client]?.elim .noClient fun c => .body (c.encode value), s)
  | .encodeObject client _ object =>
    (s.clients[client]?.elim .noClient fun c => .body (c.encodeObject object), s)
  | .complete client request =>
    (s.clients[client]?.elim .noClient fun c => .request (c.completeRequest request), s)

/-- What comes of a sequence of actions. -/
def replies (w : Collaborators Client) : Session → List Action → List Reply
  | _, [] => []
  | s, action :: rest => (s.act w action).1 :: replies w (s.act w action).2 rest

end Session

/-- What comes of a sequence of actions on a cache over a scheme and a mapper that knows nothing. -/
def Registry.replies (r : Registry) (config : Config) (actions : List Action) : List Reply :=
  Session.replies r.collaborators { cache := .ofConfig config } actions

end KindResolution
