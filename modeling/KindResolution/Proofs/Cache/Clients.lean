import KindResolution.Proofs.Cache.Answer

/-!
# Clients in a cache

A cache does not look into the clients that it hands out. If something is made of every client, the
answers and the caches after them are those that come of making it of all clients from the start:
`Cache.answer_mapClients` and `Cache.resolveWithMetadata_mapClients`.
-/

namespace KindResolution

variable {C D α β γ : Type}

namespace Table

variable {κ : Type}

/-- Makes something of every value in a table. -/
def map (f : α → β) (t : Table κ α) : Table κ β where
  entries := t.entries.map fun entry => (entry.1, f entry.2)
  nodup := by
    rw [List.map_map]
    exact t.nodup

variable [DecidableEq κ]

/-- A mapped table holds the mapped values. -/
lemma find?_map (f : α → β) (t : Table κ α) (key : κ) :
    (t.map f).find? key = (t.find? key).map f := by
  obtain ⟨entries, nodup⟩ := t
  show findIn? key (entries.map _) = (findIn? key entries).map f
  clear nodup
  induction entries with
  | nil => rfl
  | cons entry rest ih =>
    rw [List.map_cons, findIn?, findIn?, ih]
    split <;> rfl

/-- Mapping commutes with the insertion of a value. -/
lemma map_insert (f : α → β) (t : Table κ α) (key : κ) (value : α) :
    (t.insert key value).map f = (t.map f).insert key (f value) := by
  obtain ⟨entries, nodup⟩ := t
  have mapped : (insertEntry key value entries).map (fun entry => (entry.1, f entry.2)) =
      insertEntry key (f value) (entries.map fun entry => (entry.1, f entry.2)) := by
    clear nodup
    induction entries with
    | nil => rfl
    | cons entry rest ih =>
      rw [List.map_cons, insertEntry, insertEntry, ← ih]
      split <;> rfl
  simp only [map, insert, mapped]

end Table

namespace Attempt

/-- Makes something of the result of an attempt. -/
def map (f : α → β) (a : Attempt α) : Attempt β :=
  { outcome := a.outcome.map f, calls := a.calls }

/-- A mapped attempt goes on with the mapped result. -/
lemma bind_map (a : Attempt α) (f : α → β) (g : β → Attempt γ) :
    (a.map f).bind g = a.bind fun x => g (f x) := by
  obtain ⟨_ | _, _⟩ := a <;> rfl

/-- The result of two attempts in a row is mapped in the second. -/
lemma map_bind (a : Attempt α) (f : α → Attempt β) (g : β → γ) :
    (a.bind f).map g = a.bind fun x => (f x).map g := by
  obtain ⟨_ | _, _⟩ := a <;> rfl

end Attempt

/-- The record with something made of its client. -/
def KindRecord.mapClient (f : C → D) (m : KindRecord C) : KindRecord D :=
  { client := f m.client, kind := m.kind, mapping := m.mapping }

/-- The stored record with something made of its client. -/
def Stored.mapClient (f : C → D) (stored : Stored C) : Stored D :=
  { number := stored.number, record := stored.record.mapClient f }

/-- The cache with something made of every client in it. Its configuration is another one. -/
def Cache.mapClients (f : C → D) (config : Config) (c : Cache C) : Cache D :=
  { config := config, byType := c.byType.map (Stored.mapClient f)
    byKind := c.byKind.map (Stored.mapClient f), built := c.built }

/-- The resolution with something made of the result and of every client. -/
def Resolution.mapClients (f : C → D) (config : Config) (g : α → β) (r : Resolution C α) :
    Resolution D β :=
  { attempt := r.attempt.map g, cache := r.cache.mapClients f config }

namespace Collaborators

/-- The collaborators that make something of every client that is built for a configuration. They
build for that configuration, whatever the one they are asked to build for. -/
def mapClients (f : C → D) (config : Config) (w : Collaborators C) : Collaborators D where
  resolver := w.resolver
  factory := ⟨fun codec kind _ => (w.factory.build codec kind config).map f⟩

variable {f : C → D} {config other : Config} {w : Collaborators C}

/-- Collaborators with mapped clients build the mapped client. -/
lemma build_mapClients (codec : Codec) (kind : GroupVersionKind) :
    (w.mapClients f config).build codec kind other = (w.build codec kind config).map f := by
  show Attempt.mk (((w.factory.build codec kind config).map f).mapError _) _ =
    Attempt.mk (((w.factory.build codec kind config).mapError _).map f) _
  cases w.factory.build codec kind config <;> rfl

/-- Collaborators with mapped clients assemble the mapped record. -/
lemma assemble_mapClients {t : ObjectType} (o : Object t) :
    (w.mapClients f config).assemble other o =
      (w.assemble config o).map (KindRecord.mapClient f) := by
  simp only [assemble, build_mapClients, Attempt.bind_map, Attempt.map_bind]
  rfl

end Collaborators

namespace Cache

variable {f : C → D} {config : Config}

/-- A cache with mapped clients holds the mapped records. -/
lemma find?_mapClients (c : Cache C) (key : CacheKey) :
    (c.mapClients f config).find? key = (c.find? key).map (Stored.mapClient f) := by
  cases key with
  | type t => exact Table.find?_map _ _ _
  | kind k => exact Table.find?_map _ _ _

/-- Mapping the clients commutes with storing a record. -/
lemma store_mapClients (c : Cache C) (key : CacheKey) (m : KindRecord C) :
    (c.mapClients f config).store key (m.mapClient f) = (c.store key m).mapClients f config := by
  cases key with
  | type t => simp only [store, mapClients, Table.map_insert, Stored.mapClient]
  | kind k => simp only [store, mapClients, Table.map_insert, Stored.mapClient]

/-- Mapping the clients commutes with fetching a record under a key. -/
lemma fetch_mapClients (c : Cache C) (key : CacheKey) (a : Attempt (KindRecord C)) :
    (c.mapClients f config).fetch key (a.map (KindRecord.mapClient f)) =
      (c.fetch key a).mapClients f config (Stored.mapClient f) := by
  obtain ⟨outcome, calls⟩ := a
  unfold fetch
  rw [find?_mapClients]
  cases c.find? key with
  | some stored => rfl
  | none =>
    cases outcome with
    | error e => rfl
    | ok m =>
      show Resolution.mk _ _ = Resolution.mk _ _
      rw [← store_mapClients]
      rfl

/-- Mapping the clients commutes with fetching a record under a place. -/
lemma fetchPlace_mapClients (f : C → D) (config : Config) (c : Cache C)
    (place : Except ResolveError CacheKey) (asked : List Call) (a : Attempt (KindRecord C)) :
    (c.mapClients f config).fetchPlace place asked (a.map (KindRecord.mapClient f)) =
      (c.fetchPlace place asked a).mapClients f config (Stored.mapClient f) := by
  cases place with
  | error e => rfl
  | ok key =>
    simp only [fetchPlace, fetch_mapClients]
    rfl

/-- Mapping the clients commutes with resolving an object. -/
lemma resolve_mapClients (c : Cache C) (w : Collaborators C) {t : ObjectType} (o : Object t) :
    (c.mapClients f config).resolve (w.mapClients f c.config) o =
      (c.resolve w o).mapClients f config (Stored.mapClient f) := by
  rw [resolve_eq, resolve_eq, Collaborators.assemble_mapClients]
  exact fetchPlace_mapClients f config c _ _ _

/-- What is made of the clients from the start comes out of each answer. -/
theorem answer_mapClients (c : Cache C) (w : Collaborators C) (call : CacheCall) :
    (c.mapClients f config).answer (w.mapClients f c.config) call =
      (c.answer w call).mapClients f config (Stored.mapClient f) := by
  rw [answer_eq, answer_eq, Collaborators.assemble_mapClients]
  have fetched := fetchPlace_mapClients f config c (call.place w) (call.placeCalls w)
    (w.assemble c.config call.object)
  simp only [Resolution.mapClients, Attempt.map, call.map_bind_finish]
  exact congrArg (fun found => Resolution.mk
    ⟨found.attempt.outcome.bind call.finish, found.attempt.calls⟩ found.cache) fetched

/-- The same holds of answers that come with the metadata of the object. -/
theorem resolveWithMetadata_mapClients (c : Cache C) (w : Collaborators C) {t : ObjectType}
    (o : Object t) :
    (c.mapClients f config).resolveWithMetadata (w.mapClients f c.config) o =
      (c.resolveWithMetadata w o).mapClients f config (Prod.map (Stored.mapClient f) id) := by
  unfold resolveWithMetadata
  rw [resolve_mapClients]
  simp only [Resolution.mapClients, Attempt.bind_map, Attempt.map_bind]
  congr 2
  funext stored
  show Attempt.mk ((metadataOf o).map _) _ = Attempt.mk (((metadataOf o).map _).map _) _
  rw [map_map]
  rfl

end Cache

end KindResolution
