import KindResolution.Client
import KindResolution.KindRecord
import KindResolution.Registry

/-!
# The cache

The cache finds out what is known of the kinds of objects and remembers it. There are two tables:
one by the type of an object, for objects whose type says their kind, and one by the kind that an
object declares. A record is built when it is first asked for, and from then on the same record is
handed out; an attempt that fails leaves nothing behind. A record that is stored has a number, by
which it is told apart from an equal one that was built another time.
-/

namespace KindResolution

/-- The error of an object that does not expose metadata. -/
structure MissingMetadata where
  typeName : String
  deriving DecidableEq, Repr

/-- The text of the error. -/
def MissingMetadata.message (e : MissingMetadata) : String :=
  "object of type " ++ e.typeName ++ " does not expose object metadata"

/-- The reasons why a resolution fails. -/
inductive ResolveError where
  | kind (error : KindError)
  | mapping (error : MappingError)
  | client (error : ClientError)
  | metadata (error : MissingMetadata)
  deriving DecidableEq, Repr

/-- The text of an error. -/
def ResolveError.message : ResolveError → String
  | .kind e => "failed to determine kind: " ++ e.message
  | .mapping e => "failed to map kind to a resource: " ++ e.message
  | .client e => "failed to build client: " ++ e.message
  | .metadata e => "failed to access object metadata: " ++ e.message

/-- What a cache asks of others. -/
inductive Call where
  | kindOf
  | build (codec : Codec) (kind : GroupVersionKind)
  | mappingOf (kind : GroupKind) (version : String)
  deriving DecidableEq, Repr

/-- An outcome, and the calls it took. -/
structure Attempt (α : Type) where
  outcome : Except ResolveError α
  calls : List Call := []

namespace Attempt

variable {α β : Type}

/-- Goes on with the result of an attempt that succeeds. -/
def bind (a : Attempt α) (f : α → Attempt β) : Attempt β :=
  match a.outcome with
  | .error e => { outcome := .error e, calls := a.calls }
  | .ok x => { outcome := (f x).outcome, calls := a.calls ++ (f x).calls }

/-- The outcome of two steps does not depend on how calls are counted. -/
@[simp] theorem outcome_bind (a : Attempt α) (f : α → Attempt β) :
    (a.bind f).outcome = a.outcome.bind fun x => (f x).outcome := by
  unfold bind
  cases a.outcome <;> rfl

end Attempt

/-- Those that a cache asks: a resolver and a factory of clients. -/
structure Collaborators (C : Type) where
  resolver : Resolver
  factory : ClientFactory C

/-- The kind of the records for an object of a kind: for a list that of its items, if the name of
the kind says that it is one of lists. -/
def recordKind (type : ObjectType) (kind : GroupVersionKind) : GroupVersionKind :=
  if type.isList then kind.itemKind?.getD kind else kind

/-- The codec for the bodies of objects of a type. -/
def Codec.ofType (type : ObjectType) : Codec :=
  if type.declaresKind then .schemaless else .typed

namespace Collaborators

variable {C : Type} (w : Collaborators C)

/-- Asks for the kind of an object. -/
def kindOf {type : ObjectType} (o : Object type) : Attempt GroupVersionKind :=
  { outcome := (w.resolver.kindOf o).mapError .kind, calls := [.kindOf] }

/-- Asks for a client. -/
def build (codec : Codec) (kind : GroupVersionKind) (config : Config) : Attempt C :=
  { outcome := (w.factory.build codec kind config).mapError .client
    calls := [.build codec kind] }

/-- Asks where a kind is served. -/
def mappingOf (kind : GroupVersionKind) : Attempt RestMapping :=
  { outcome := (w.resolver.mappingOf kind.groupKind kind.version).mapError .mapping
    calls := [.mappingOf kind.groupKind kind.version] }

/-- Finds out what is known of the kind of an object: first the kind, then a client for it, then
where it is served. -/
def assemble (config : Config) {type : ObjectType} (o : Object type) :
    Attempt (KindRecord C) :=
  (w.kindOf o).bind fun kind =>
    let kind := recordKind type kind
    (w.build (.ofType type) kind config).bind fun client =>
      (w.mappingOf kind).bind fun mapping =>
        { outcome := .ok { client := client, kind := kind, mapping := mapping } }

end Collaborators

/-- A record in a cache, with the number of records that were built before it. -/
structure Stored (C : Type) where
  number : Nat
  record : KindRecord C

/-- What a cache has found out, with the number of records built so far. -/
structure Cache (C : Type) where
  config : Config
  byType : Table ObjectType (Stored C) := .empty
  byKind : Table GroupVersionKind (Stored C) := .empty
  built : Nat := 0

/-- The place of a record in a cache. -/
inductive CacheKey where
  | type (type : ObjectType)
  | kind (kind : GroupVersionKind)
  deriving DecidableEq, Repr

/-- An attempt to resolve something, and the cache after it. -/
structure Resolution (C α : Type) where
  attempt : Attempt α
  cache : Cache C

namespace Cache

variable {C : Type}

/-- A cache that knows nothing. -/
def ofConfig (config : Config) : Cache C :=
  { config := config }

/-- The record in a place. -/
def find? (c : Cache C) : CacheKey → Option (Stored C)
  | .type t => c.byType.find? t
  | .kind k => c.byKind.find? k

/-- Puts a record that was just built into a place. -/
def store (c : Cache C) (key : CacheKey) (record : KindRecord C) : Cache C :=
  let stored : Stored C := { number := c.built, record := record }
  match key with
  | .type t => { c with byType := c.byType.insert t stored, built := c.built + 1 }
  | .kind k => { c with byKind := c.byKind.insert k stored, built := c.built + 1 }

/-- A cache that is made for a configuration holds nothing. -/
@[simp] theorem find?_ofConfig (config : Config) (key : CacheKey) :
    (ofConfig config : Cache C).find? key = none := by
  cases key <;> rfl

/-- A cache that is made for a configuration keeps it. -/
@[simp] theorem config_ofConfig (config : Config) :
    (ofConfig config : Cache C).config = config := rfl

/-- What is stored does not touch the configuration. -/
@[simp] theorem config_store (c : Cache C) (key : CacheKey) (record : KindRecord C) :
    (c.store key record).config = c.config := by
  cases key <;> rfl

/-- A lookup after a record was put into a place finds it there, and elsewhere what was there. -/
@[simp] theorem find?_store (c : Cache C) (key place : CacheKey) (record : KindRecord C) :
    (c.store key record).find? place =
      if place = key then some { number := c.built, record := record } else c.find? place := by
  cases key <;> cases place <;> simp [store, find?]

/-- The number of types with a record. -/
def typeCount (c : Cache C) : Nat :=
  c.byType.size

/-- The number of kinds with a record. -/
def kindCount (c : Cache C) : Nat :=
  c.byKind.size

/-- Whether a type has a record. -/
def knowsType (c : Cache C) (type : ObjectType) : Bool :=
  c.byType.contains type

/-- Whether a kind has a record. -/
def knowsKind (c : Cache C) (kind : GroupVersionKind) : Bool :=
  c.byKind.contains kind

/-- The record in a place, or else the one that an attempt to build it gives. -/
def fetch (c : Cache C) (key : CacheKey) (assemble : Attempt (KindRecord C)) :
    Resolution C (Stored C) :=
  match c.find? key with
  | some stored => ⟨{ outcome := .ok stored }, c⟩
  | none =>
    match assemble.outcome with
    | .ok record =>
      ⟨{ outcome := .ok { number := c.built, record := record }, calls := assemble.calls },
        c.store key record⟩
    -- a failure is not remembered
    | .error e => ⟨{ outcome := .error e, calls := assemble.calls }, c⟩

/-- The place of an object in the table of kinds: the kind that it declares, or that is known for
its type. -/
def kindKey (w : Collaborators C) {type : ObjectType} (o : Object type) :
    Attempt GroupVersionKind :=
  match o.identity with
  | .declared typeMeta => { outcome := (kindDeclared typeMeta).mapError .kind }
  | .ofType _ => w.kindOf o

/-- Resolves an object by its type. -/
def resolveUnderType (c : Cache C) (w : Collaborators C) {type : ObjectType} (o : Object type) :
    Resolution C (Stored C) :=
  c.fetch (.type type) (w.assemble c.config o)

/-- Resolves an object by its kind. -/
def resolveUnderKind (c : Cache C) (w : Collaborators C) {type : ObjectType} (o : Object type) :
    Resolution C (Stored C) :=
  let key := kindKey w o
  match key.outcome with
  | .error e => ⟨{ outcome := .error e, calls := key.calls }, c⟩
  | .ok kind =>
    let found := c.fetch (.kind kind) (w.assemble c.config o)
    ⟨{ found.attempt with calls := key.calls ++ found.attempt.calls }, found.cache⟩

/-- Resolves an object: by its kind if it declares one, and by its type otherwise. -/
def resolve (c : Cache C) (w : Collaborators C) {type : ObjectType} (o : Object type) :
    Resolution C (Stored C) :=
  if o.identity.isDeclared then c.resolveUnderKind w o else c.resolveUnderType w o

/-- The metadata of an object. -/
def metadataOf {type : ObjectType} (o : Object type) : Except ResolveError ObjectMeta :=
  match o.objectMeta? with
  | some objectMeta => .ok objectMeta
  | none => .error (.metadata ⟨type.name⟩)

/-- Resolves an object and takes its metadata. -/
def resolveWithMetadata (c : Cache C) (w : Collaborators C) {type : ObjectType} (o : Object type) :
    Resolution C (Stored C × ObjectMeta) :=
  let found := c.resolve w o
  ⟨found.attempt.bind fun stored =>
      { outcome := (metadataOf o).map fun objectMeta => (stored, objectMeta) },
    found.cache⟩

/-- The description of a cache. -/
def describe (c : Cache C) : String :=
  "ResourceMetadataCache \x7b config: " ++ c.config.describe ++
    ", cached_types: " ++ String.ofList (Text.decimal c.typeCount) ++
    ", cached_kinds: " ++ String.ofList (Text.decimal c.kindCount) ++ ", .. \x7d"

end Cache

namespace Registry

/-- Those that a cache over a scheme and a mapper asks. -/
def collaborators (r : Registry) : Collaborators Client :=
  { resolver := r.resolver, factory := Client.factory }

end Registry

end KindResolution
