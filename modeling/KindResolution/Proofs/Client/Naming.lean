import KindResolution.Proofs.Cache.Transparency
import KindResolution.Proofs.DynamicObject.Parts
import KindResolution.Proofs.Kind.ApiVersion
import KindResolution.Proofs.Scheme.Lists

/-!
# The kind that a body names

A body that a client writes names the type of the object in it. Where the object is written with the
names of its type, the client leaves them as they are (`Client.eq_of_completeBody`), so that the body
of an object that was resolved over built-in types names the object's own kind:
`Registry.encoded_names`. A list of objects with a schema is written with whatever names are
attached to it, and these may be those of another kind: `Registry.encoded_names_not_own`.
-/

namespace KindResolution

open Json

/-- Names in front of members that do not repeat them are found in the ordered value. -/
lemma Json.names_normalize {names : TypeMeta} {rest : List (String × Json)}
    (apiVersion : Entries.find? "apiVersion" rest = none)
    (kind : Entries.find? "kind" rest = none) :
    (normalize (.object (TypeMeta.optionalMembers (some names) ++ rest))).Names names := by
  unfold Names
  rw [member?_normalize, member?_normalize, List.reverse_append, Entries.find?_append,
    Entries.find?_append, Entries.find?_reverse_eq_none apiVersion,
    Entries.find?_reverse_eq_none kind]
  exact ⟨rfl, rfl⟩

/-- The members of flat data are those of the data. -/
lemma Json.find?_flatMembers {data : Json} {members : List (String × Json)} (key : String)
    (flat : data.flatMembers = .ok members) : Entries.find? key members = data.member? key := by
  cases data with
  | null | object => cases flat; rfl
  | bool | string | array => cases flat
  | number n => cases n <;> cases flat

namespace Object

/-- The data of an object without a schema does not repeat the names of its type. -/
def DataUnnamed : {t : ObjectType} → Object t → Prop
  | .dynamic, o =>
    (DynamicObject.data o).member? "apiVersion" = none ∧
      (DynamicObject.data o).member? "kind" = none
  | _, _ => True

/-- An object that declares the names of a type is written with them. -/
lemma names_of_declared {t : ObjectType} {o : Object t} {names : TypeMeta} {v : Json}
    (unnamed : o.DataUnnamed) (declared : o.typeMeta? = some names) (written : o.toValue = .ok v) :
    v.Names names := by
  cases t with
  | api | custom => cases declared
  | dynamic =>
    change DynamicObject.typeMeta o = some names at declared
    change (DynamicObject.toJson o).map normalize = .ok v at written
    cases flat : (DynamicObject.data o).flatMembers with
    | error e =>
      simp only [DynamicObject.toJson, DynamicObject.members, flat] at written
      cases written
    | ok data =>
      simp only [DynamicObject.toJson, DynamicObject.members, flat, declared] at written
      cases written
      -- the data is written behind the names and the metadata, and a later member counts
      have absent : ∀ key, "metadata" ≠ key → (DynamicObject.data o).member? key = none →
          Entries.find? key (("metadata", (DynamicObject.objectMeta o).toJson) :: data) = none := by
        intro key ne none
        rw [Entries.find?, if_neg ne, find?_flatMembers key flat, none]
      exact names_normalize (absent _ (by decide) unnamed.1) (absent _ (by decide) unnamed.2)
  | list item =>
    change ObjectList.typeMeta o = some names at declared
    change (ObjectList.toJson toJson o).map normalize = .ok v at written
    cases items : (ObjectList.items o).mapM toJson with
    | error e =>
      simp only [ObjectList.toJson, items] at written
      cases written
    | ok elements =>
      simp only [ObjectList.toJson, items, declared] at written
      cases written
      exact names_normalize rfl rfl

/-- An object of a built-in type is written with the names of its type. -/
lemma names_of_api {a : ApiType} {o : Object (.api a)} {v : Json} (written : o.toValue = .ok v) :
    v.Names (.ofKind a.kind) := by
  change Except.ok (normalize (ApiObject.toJson a o)) = .ok v at written
  cases written
  unfold Names ApiObject.toJson
  rw [member?_normalize, member?_normalize, Entries.find?_reverse (SortedMap.sorted _),
    Entries.find?_reverse (SortedMap.sorted _)]
  constructor
  · show (SortedMap.find? _ "apiVersion").map normalize = _
    rw [SortedMap.find?_insert, if_neg (by decide), SortedMap.find?_insert, if_neg (by decide),
      SortedMap.find?_insert, if_pos rfl]
    rfl
  · show (SortedMap.find? _ "kind").map normalize = _
    rw [SortedMap.find?_insert, if_neg (by decide), SortedMap.find?_insert, if_pos rfl]
    rfl

end Object

namespace Client

/-- The value whose text a client sends as the body for an object. -/
def Sends (c : Client) {t : ObjectType} (o : Object t) (v : Json) : Prop :=
  ∃ written, o.toValue = .ok written ∧ c.completeBody written = .ok v

/-- A body is the text of a value that the client sends. -/
lemma encodeObject_eq_ok_iff {c : Client} {t : ObjectType} {o : Object t} {body : String} :
    c.encodeObject o = .ok body ↔ ∃ v, c.Sends o v ∧ body = v.text := by
  unfold encodeObject Sends encode Object.toValue
  cases o.toJson with
  | error e =>
    constructor
    · intro h; cases h
    · rintro ⟨v, ⟨w, h, _⟩, _⟩; cases h
  | ok v =>
    show (c.completeBody v.normalize).map Json.text = .ok body ↔ _
    cases completed : c.completeBody v.normalize with
    | error e => simp [Except.map, completed]
    | ok w => simp [Except.map, completed, eq_comm]

/-- A client leaves a value as it is that has the names of a type. -/
lemma eq_of_completeBody {c : Client} {v completed : Json} {names : TypeMeta}
    (named : v.Names names) (ok : c.completeBody v = .ok completed) : completed = v := by
  cases v with
  | object members =>
    obtain ⟨apiVersion, kind⟩ := named
    change Entries.find? "apiVersion" members = _ at apiVersion
    change Entries.find? "kind" members = _ at kind
    cases codec : c.codec with
    | typed =>
      simp only [completeBody, codec, insertIfAbsent, apiVersion, kind] at ok
      exact (Except.ok.inj ok).symm
    | schemaless =>
      simp only [completeBody, codec] at ok
      split at ok
      · exact (Except.ok.inj ok).symm
      · cases ok
  | null | bool | number | string | array => cases ok

/-- A body is one that a client sends for an object, and it has the names of a type. -/
def BodyNames (c : Client) {t : ObjectType} (o : Object t) (body : String) (names : TypeMeta) :
    Prop :=
  ∃ v, c.Sends o v ∧ body = v.text ∧ v.Names names

/-- An object that is written with names has them in its body. -/
lemma bodyNames_of_encodeObject {c : Client} {t : ObjectType} {o : Object t} {body : String}
    {names : TypeMeta} (encoded : c.encodeObject o = .ok body)
    (named : ∀ written, o.toValue = .ok written → written.Names names) :
    c.BodyNames o body names := by
  obtain ⟨v, sent, text⟩ := encodeObject_eq_ok_iff.1 encoded
  refine ⟨v, sent, text, ?_⟩
  obtain ⟨written, ok, completed⟩ := sent
  rw [eq_of_completeBody (named written ok) completed]
  exact named written ok

end Client

/-- An object that does not declare its kind is of the kind that the scheme knows for its type. -/
lemma Scheme.kindOf_eq_ok_iff {s : Scheme} {t : ObjectType} {o : Object t} {kind : GroupVersionKind}
    (typed : t.declaresKind = false) : s.kindOf o = .ok kind ↔ s.find? t = some kind := by
  rw [s.kindOf_of_not_declares o typed]
  cases s.find? t <;> simp

/-- The names of a built-in type are read as its kind. -/
lemma ApiType.groupVersionKind_ofKind (a : ApiType) :
    (TypeMeta.ofKind a.kind).groupVersionKind = .ok a.kind :=
  TypeMeta.groupVersionKind_ofKind a.version_ne_empty a.slash_not_mem_group a.slash_not_mem_version

namespace Registry

/-- The registry of some built-in types. -/
def ofTypes (types : List ApiType) : Registry :=
  types.foldl insertType {}

/-- A registry of built-in types knows these under their own kinds, and their lists under the kinds
of lists. -/
lemma find?_ofTypes {types : List ApiType} {t : ObjectType} {kind : GroupVersionKind}
    (found : (ofTypes types).scheme.find? t = some kind) :
    (∃ a : ApiType, t = .api a ∧ kind = a.kind) ∨
      ∃ a : ApiType, t = .list (.api a) ∧ kind = a.kind.listKind := by
  -- the induction is on the types that are still to be added, whatever has been added before
  suffices keeps : ∀ r : Registry, (types.foldl insertType r).scheme.find? t = some kind →
      r.scheme.find? t = some kind ∨ (∃ a : ApiType, t = .api a ∧ kind = a.kind) ∨
        ∃ a : ApiType, t = .list (.api a) ∧ kind = a.kind.listKind by
    obtain before | added := keeps {} found
    · cases before
    · exact added
  clear found
  induction types with
  | nil => exact fun r found => .inl found
  | cons a rest ih =>
    intro r found
    obtain before | added := ih (r.insertType a) found
    · change (r.scheme.insert (.api a) a.kind).find? t = some kind at before
      rw [Scheme.find?_insert] at before
      split at before
      · next same => exact .inr (.inl ⟨a, same, (Option.some.inj before).symm⟩)
      · split at before
        · next same => exact .inr (.inr ⟨a, same, (Option.some.inj before).symm⟩)
        · exact .inl before
    · exact .inr added

/-- An object that resolves is of a known kind. -/
lemma kindOf_of_resolve {r : Registry} {config : Config} {t : ObjectType} {o : Object t}
    {stored : Stored Client}
    (resolved : ((Cache.ofConfig config).resolve r.collaborators o).attempt.outcome = .ok stored) :
    ∃ kind, r.scheme.kindOf o = .ok kind := by
  have assembled := r.firstOutcome_eq config o
  rw [firstOutcome, Resolution.recordOutcome, resolved] at assembled
  obtain ⟨kind, known, _⟩ := Collaborators.assemble_eq_ok_iff.1 assembled.symm
  exact ⟨kind, known⟩

/-- The body for an object names the object's own kind, or for a list of objects with a schema the
type whose names are attached to it. -/
theorem encoded_names (types : List ApiType) (config : Config) {t : ObjectType} (o : Object t)
    (unnamed : o.DataUnnamed)
    (attached : t.isList = true → t.declaresKind = false → o.typeMeta? ≠ none)
    {stored : Stored Client} {body : String}
    (resolved : ((Cache.ofConfig config).resolve (ofTypes types).collaborators o).attempt.outcome =
      .ok stored)
    (encoded : stored.record.client.encodeObject o = .ok body) :
    ∃ names kind, stored.record.client.BodyNames o body names ∧
      (ofTypes types).scheme.kindOf o = .ok kind ∧
      if t.isList = true ∧ t.declaresKind = false then o.typeMeta? = some names
      else names.groupVersionKind = .ok kind := by
  obtain ⟨kind, known⟩ := kindOf_of_resolve resolved
  cases declares : t.declaresKind with
  | true =>
    have declared := ((ofTypes types).scheme.kindOf_of_declares o declares).symm.trans known
    obtain ⟨names, carried, _, read⟩ := kindDeclared_eq_ok_iff.1 declared
    have named := Client.bodyNames_of_encodeObject encoded fun _ =>
      Object.names_of_declared unnamed carried
    exact ⟨names, kind, named, known, by simpa using read⟩
  | false =>
    obtain ⟨a, rfl, rfl⟩ | ⟨a, rfl, _⟩ := find?_ofTypes ((Scheme.kindOf_eq_ok_iff declares).1 known)
    · have named := Client.bodyNames_of_encodeObject encoded fun _ => Object.names_of_api
      exact ⟨.ofKind a.kind, a.kind, named, known, a.groupVersionKind_ofKind⟩
    · obtain ⟨names, carried⟩ := Option.ne_none_iff_exists'.1 (attached rfl declares)
      have named := Client.bodyNames_of_encodeObject encoded fun _ =>
        Object.names_of_declared unnamed carried
      exact ⟨names, kind, named, known, carried⟩

end Registry

/-! ## Lists of pods

A registry with pods, and lists of them with and without the names of a type. -/

namespace Pods

/-- Pods and deployments. -/
def registry : Registry :=
  .ofTypes [.deployment, .pod]

/-- A list of one pod to which names of a type may be attached. -/
def list (typeMeta : Option TypeMeta) : Object (.list (.api .pod)) :=
  ({ typeMeta := typeMeta, items := [({} : ApiObject)] } : ObjectList ApiObject)

end Pods

namespace Registry

/-- A list of pods with the names of its own type attached is written with these names. -/
theorem encoded_names_pods : ∃ stored body kind,
    ((Cache.ofConfig Widgets.config).resolve Pods.registry.collaborators
        (Pods.list (some ⟨"v1", "PodList"⟩))).attempt.outcome = .ok stored ∧
      stored.record.client.encodeObject (Pods.list (some ⟨"v1", "PodList"⟩)) = .ok body ∧
      stored.record.client.BodyNames (Pods.list (some ⟨"v1", "PodList"⟩)) body ⟨"v1", "PodList"⟩ ∧
      Pods.registry.scheme.kindOf (Pods.list (some ⟨"v1", "PodList"⟩)) = .ok kind := by
  let pods := Pods.list (some ⟨"v1", "PodList"⟩)
  let found := ((Cache.ofConfig Widgets.config).resolve Pods.registry.collaborators pods).attempt
  have succeeds : (found.outcome.toOption.bind fun stored =>
      (stored.record.client.encodeObject pods).toOption).isSome = true := by decide
  cases resolved : found.outcome with
  | error e => rw [resolved] at succeeds; cases succeeds
  | ok stored =>
    rw [resolved] at succeeds
    cases encoded : stored.record.client.encodeObject pods with
    | error e =>
      simp only [Except.toOption, Option.bind_some, encoded] at succeeds
      cases succeeds
    | ok body =>
      obtain ⟨names, kind, named, known, carried⟩ := encoded_names [.deployment, .pod]
        Widgets.config pods trivial (by intro _ _ e; cases e) resolved encoded
      cases carried
      exact ⟨stored, body, kind, rfl, encoded, named, known⟩

/-- Whatever body is written for an object by the client to which it resolves on an empty cache
names the object's own kind. -/
def EncodesOwnKind (r : Registry) (config : Config) {t : ObjectType} (o : Object t) : Prop :=
  ∀ stored body,
    ((Cache.ofConfig config).resolve r.collaborators o).attempt.outcome = .ok stored →
    stored.record.client.encodeObject o = .ok body →
    ∃ names kind, stored.record.client.BodyNames o body names ∧ r.scheme.kindOf o = .ok kind ∧
      names.groupVersionKind = .ok kind

/-- The kind that the body for an object names, if there is a body. -/
def encodedKind? (r : Registry) (config : Config) {t : ObjectType} (o : Object t) :
    Option String := do
  let stored ← ((Cache.ofConfig config).resolve r.collaborators o).attempt.outcome.toOption
  let written ← o.toValue.toOption
  let sent ← (stored.record.client.completeBody written).toOption
  let kind ← sent.member? "kind"
  kind.string?

/-- If a body names the own kind of an object, it has its name. -/
lemma kind_of_encodesOwnKind {r : Registry} {config : Config} {t : ObjectType} {o : Object t}
    {name : String} (own : r.EncodesOwnKind config o)
    (encoded : r.encodedKind? config o = some name) :
    (r.scheme.kindOf o).toOption.map (·.kind) = some name := by
  simp only [encodedKind?, Option.bind_eq_bind, Option.bind_eq_some_iff] at encoded
  obtain ⟨stored, resolved, written, value, sent, completed, _, member, text⟩ := encoded
  have toOption : ∀ {ε α : Type} {x : Except ε α} {a : α}, x.toOption = some a → x = .ok a := by
    intro ε α x a e
    cases x <;> cases e
    rfl
  have sends : stored.record.client.Sends o sent := ⟨written, toOption value, toOption completed⟩
  obtain ⟨names, kind, ⟨v, ⟨_, value', completed'⟩, _, named⟩, known, read⟩ := own stored sent.text
    (toOption resolved) (Client.encodeObject_eq_ok_iff.2 ⟨sent, sends, rfl⟩)
  cases value'.symm.trans (toOption value)
  cases completed'.symm.trans (toOption completed)
  cases member.symm.trans named.2
  cases text
  obtain rfl := (TypeMeta.groupVersionKind_eq_ok_iff.1 read).1
  rw [known]
  rfl

/-- Not every body names the own kind of its object: a list of pods is written with the names that
are attached to it, or with none of its own. -/
theorem encoded_names_not_own :
    ¬ Pods.registry.EncodesOwnKind Widgets.config (Pods.list (some ⟨"v1", "ConfigMapList"⟩)) ∧
      ¬ Pods.registry.EncodesOwnKind Widgets.config (Pods.list none) := by
  constructor
  · intro own
    have encoded : Pods.registry.encodedKind? Widgets.config
        (Pods.list (some ⟨"v1", "ConfigMapList"⟩)) = some "ConfigMapList" := by decide
    exact absurd (kind_of_encodesOwnKind own encoded) (by decide)
  · intro own
    have encoded : Pods.registry.encodedKind? Widgets.config (Pods.list none) = some "Pod" := by
      decide
    exact absurd (kind_of_encodesOwnKind own encoded) (by decide)

end Registry

end KindResolution
