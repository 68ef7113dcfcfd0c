import KindResolution.Client
import KindResolution.Proofs.Json.Ordered

/-!
# Bodies

What a client writes for a value. A client for objects without a schema writes the value itself, and
only if that names a type; a typed client writes the value with the names of its kind where it has
none. Both are said without the steps of the client in `Client.Writes`, and a body is the text of
such a value (`Client.encode_eq_ok_iff`). So where both kinds of clients write a value they write
the same, and what a client has written it writes again as it is: `Client.codecs_agree`.
-/

namespace KindResolution

open Json

namespace Json

/-- A value is an object. -/
def IsObject (v : Json) : Prop :=
  ∃ members, v = .object members

/-- A member of an object is a text that is not empty. -/
def HasText (v : Json) (key : String) : Prop :=
  ∃ s, v.member? key = some (.string s) ∧ s ≠ ""

/-- An object is another one with the names of a kind in the places where that has none. -/
structure Completed (kind : GroupVersionKind) (v completed : Json) : Prop where
  source : v.IsObject
  isObject : completed.IsObject
  ordered : completed.Ordered
  apiVersion : completed.member? "apiVersion" =
    some ((v.member? "apiVersion").getD (.string kind.apiVersion))
  kind : completed.member? "kind" = some ((v.member? "kind").getD (.string kind.kind))
  others : ∀ key, key ≠ "apiVersion" → key ≠ "kind" → completed.member? key = v.member? key

/-- There is one completed object only. -/
lemma Completed.unique {kind : GroupVersionKind} {v w w' : Json} (completed : Completed kind v w)
    (completed' : Completed kind v w') : w = w' := by
  obtain ⟨members, rfl⟩ := completed.isObject
  obtain ⟨members', rfl⟩ := completed'.isObject
  congr 1
  apply Entries.eq_of_find? completed.ordered.1 completed'.ordered.1
  intro key
  by_cases apiVersion : key = "apiVersion"
  · subst apiVersion
    exact completed.apiVersion.trans completed'.apiVersion.symm
  by_cases kind : key = "kind"
  · subst kind
    exact completed.kind.trans completed'.kind.symm
  · exact (completed.others key apiVersion kind).trans (completed'.others key apiVersion kind).symm

/-- An ordered object with both names is complete for every kind. -/
lemma completed_self {v apiVersion name : Json} (isObject : v.IsObject) (ordered : v.Ordered)
    (versioned : v.member? "apiVersion" = some apiVersion) (named : v.member? "kind" = some name)
    (kind : GroupVersionKind) : Completed kind v v where
  source := isObject
  isObject := isObject
  ordered := ordered
  apiVersion := by rw [versioned]; rfl
  kind := by rw [named]; rfl
  others _ _ _ := rfl

/-- A completed object is complete for every kind. -/
lemma Completed.again {kind : GroupVersionKind} {v w : Json} (completed : Completed kind v w)
    (kind' : GroupVersionKind) : Completed kind' w w :=
  completed_self completed.isObject completed.ordered completed.apiVersion completed.kind kind'

/-- An ordered object with two names that are not empty is complete for every kind. -/
lemma completed_of_hasText {v : Json} (isObject : v.IsObject) (ordered : v.Ordered)
    (apiVersion : v.HasText "apiVersion") (name : v.HasText "kind") (kind : GroupVersionKind) :
    Completed kind v v := by
  obtain ⟨_, versioned, _⟩ := apiVersion
  obtain ⟨_, named, _⟩ := name
  exact completed_self isObject ordered versioned named kind

end Json

namespace Client

/-- Under its key an insertion leaves what was there, or else the new value. -/
lemma find?_insertIfAbsent (key : String) (value : Json) {members : List (String × Json)}
    (sorted : Entries.Sorted members) (k : String) :
    Entries.find? k (insertIfAbsent key value members) =
      if k = key then some ((Entries.find? key members).getD value)
      else Entries.find? k members := by
  unfold insertIfAbsent
  split
  · next present =>
    split
    · next same => rw [same, present]; rfl
    · rfl
  · next absent => rw [Entries.find?_insert sorted, absent]; rfl

/-- The insertion of an ordered value keeps an object ordered. -/
lemma ordered_insertIfAbsent (key : String) {value : Json} {members : List (String × Json)}
    (ordered : (object members).Ordered) (valueOrdered : value.Ordered) :
    (object (insertIfAbsent key value members)).Ordered := by
  unfold insertIfAbsent
  split
  · exact ordered
  · refine ⟨ordered.1.insert, orderedMembers_iff.2 ?_⟩
    intro member inserted
    obtain rfl | old := Entries.mem_of_mem_insert inserted
    · exact valueOrdered
    · exact orderedMembers_iff.1 ordered.2 member old

/-- The two insertions of a typed client complete an ordered object. -/
lemma completed_insertIfAbsent {members : List (String × Json)}
    (ordered : (object members).Ordered) (kind : GroupVersionKind) :
    Completed kind (object members) (object (insertIfAbsent "kind" (.string kind.kind)
      (insertIfAbsent "apiVersion" (.string kind.apiVersion) members))) := by
  -- the name of the kind is inserted into what the insertion of the version has left
  have versioned :
      (object (insertIfAbsent "apiVersion" (.string kind.apiVersion) members)).Ordered :=
    ordered_insertIfAbsent _ ordered trivial
  have found := find?_insertIfAbsent "kind" (.string kind.kind) versioned.1
  have foundBelow := find?_insertIfAbsent "apiVersion" (.string kind.apiVersion) ordered.1
  refine ⟨⟨_, rfl⟩, ⟨_, rfl⟩, ordered_insertIfAbsent _ versioned trivial, ?_, ?_, ?_⟩
  · show Entries.find? _ _ = _
    rw [found, if_neg (by decide), foundBelow, if_pos rfl]
    rfl
  · show Entries.find? _ _ = _
    rw [found, if_pos rfl, foundBelow, if_neg (by decide)]
    rfl
  · intro key notVersion notKind
    show Entries.find? _ _ = _
    rw [found, if_neg notKind, foundBelow, if_neg notVersion]
    rfl

/-- A key is declared exactly if there is a text under it that is not empty. -/
lemma declares_iff {members : List (String × Json)} {key : String} :
    declares members key = true ↔ (object members).HasText key := by
  unfold declares HasText
  show _ ↔ ∃ s, Entries.find? key members = some (.string s) ∧ s ≠ ""
  split
  · next s found => simp [found]
  · next other =>
    constructor
    · intro e; cases e
    · rintro ⟨s, found, _⟩
      exact absurd found (other s)

/-- The value that a client writes for an ordered value. -/
def Writes (c : Client) (v written : Json) : Prop :=
  match c.codec with
  | .typed => Completed c.kind v written
  | .schemaless => v.IsObject ∧ v.HasText "apiVersion" ∧ v.HasText "kind" ∧ written = v

/-- A typed client writes the completed object. -/
lemma writes_of_typed {c : Client} (typed : c.codec = .typed) {v written : Json} :
    c.Writes v written ↔ Completed c.kind v written := by
  rw [Writes, typed]

/-- A client for objects without a schema writes an object that has both names. -/
lemma writes_of_schemaless {c : Client} (schemaless : c.codec = .schemaless) {v written : Json} :
    c.Writes v written ↔
      v.IsObject ∧ v.HasText "apiVersion" ∧ v.HasText "kind" ∧ written = v := by
  rw [Writes, schemaless]

/-- A client writes objects only. -/
lemma Writes.isObject {c : Client} {v written : Json} (writes : c.Writes v written) :
    v.IsObject := by
  cases codec : c.codec with
  | typed => exact ((writes_of_typed codec).1 writes).source
  | schemaless => exact ((writes_of_schemaless codec).1 writes).1

/-- The value that a client sends is what it writes. -/
lemma completeBody_eq_ok_iff {c : Client} {v written : Json} (ordered : v.Ordered) :
    c.completeBody v = .ok written ↔ c.Writes v written := by
  cases v with
  | object members =>
    cases codec : c.codec with
    | typed =>
      have completed := completed_insertIfAbsent ordered c.kind
      rw [writes_of_typed codec, completeBody, codec]
      constructor
      · intro e
        cases e
        exact completed
      · intro completed'
        rw [completed.unique completed']
    | schemaless =>
      rw [writes_of_schemaless codec, completeBody, codec, ← declares_iff, ← declares_iff]
      cases declares members "apiVersion" <;> cases declares members "kind" <;>
        simp [IsObject, eq_comm]
  | null | bool | number | string | array =>
    constructor
    · intro e
      cases e
    · intro writes
      obtain ⟨_, e⟩ := writes.isObject
      cases e

/-- A body is the text of what the client writes for the ordered form of a value. -/
lemma encode_eq_ok_iff {c : Client} {v : Json} {body : String} :
    c.encode v = .ok body ↔ ∃ written, c.Writes v.normalize written ∧ written.text = body := by
  rw [encode, map_eq_ok_iff]
  simp only [completeBody_eq_ok_iff (ordered_normalize v)]

/-- Whatever a client writes has both names and is ordered, so that it is complete for all kinds. -/
lemma Writes.completed {c : Client} {v written : Json} (ordered : v.Ordered)
    (writes : c.Writes v written) (kind : GroupVersionKind) : Completed kind written written := by
  cases codec : c.codec with
  | typed => exact ((writes_of_typed codec).1 writes).again kind
  | schemaless =>
    obtain ⟨isObject, apiVersion, name, rfl⟩ := (writes_of_schemaless codec).1 writes
    exact completed_of_hasText isObject ordered apiVersion name kind

/-- What a client has written, every client with its codec writes again. -/
lemma Writes.again {c c' : Client} {v written : Json} (ordered : v.Ordered)
    (writes : c.Writes v written) (same : c'.codec = c.codec) : c'.Writes written written := by
  have completed := writes.completed ordered c'.kind
  cases codec : c.codec with
  | typed => exact (writes_of_typed (same.trans codec)).2 completed
  | schemaless =>
    obtain ⟨isObject, apiVersion, name, rfl⟩ := (writes_of_schemaless codec).1 writes
    exact (writes_of_schemaless (same.trans codec)).2 ⟨isObject, apiVersion, name, rfl⟩

/-- What is complete already is written as it is. -/
lemma Writes.eq_of_completed {c : Client} {v written : Json} (writes : c.Writes v written)
    (completed : Completed c.kind v v) : written = v := by
  cases codec : c.codec with
  | typed => exact ((writes_of_typed codec).1 writes).unique completed
  | schemaless => exact ((writes_of_schemaless codec).1 writes).2.2.2

/-- A client for objects without a schema sends the value as it is, if it is an object with both
names. -/
lemma encode_eq_ok_iff_of_schemaless {c : Client} (schemaless : c.codec = .schemaless) {v : Json}
    {body : String} :
    c.encode v = .ok body ↔
      (v.normalize.IsObject ∧ v.normalize.HasText "apiVersion" ∧ v.normalize.HasText "kind") ∧
        body = v.normalize.text := by
  simp only [encode_eq_ok_iff, writes_of_schemaless schemaless]
  constructor
  · rintro ⟨_, ⟨isObject, apiVersion, name, rfl⟩, rfl⟩
    exact ⟨⟨isObject, apiVersion, name⟩, rfl⟩
  · rintro ⟨⟨isObject, apiVersion, name⟩, rfl⟩
    exact ⟨_, ⟨isObject, apiVersion, name, rfl⟩, rfl⟩

/-- A typed client sends the completed object. -/
lemma encode_eq_ok_iff_of_typed {c : Client} (typed : c.codec = .typed) {v : Json}
    {body : String} :
    c.encode v = .ok body ↔
      ∃ written, Completed c.kind v.normalize written ∧ written.text = body := by
  simp only [encode_eq_ok_iff, writes_of_typed typed]

/-- A typed client has a body for every object. -/
lemma exists_encode_iff_of_typed {c : Client} (typed : c.codec = .typed) {v : Json} :
    (∃ body, c.encode v = .ok body) ↔ v.normalize.IsObject := by
  constructor
  · rintro ⟨body, encoded⟩
    obtain ⟨_, completed, _⟩ := (encode_eq_ok_iff_of_typed typed).1 encoded
    exact completed.source
  · rintro ⟨members, isObject⟩
    have ordered := ordered_normalize v
    rw [isObject] at ordered
    have completed := completed_insertIfAbsent ordered c.kind
    rw [← isObject] at completed
    exact ⟨_, (encode_eq_ok_iff_of_typed typed).2 ⟨_, completed, rfl⟩⟩

/-- What a client for objects without a schema sends, typed clients send as well. -/
lemma encode_typed_of_schemaless {c c' : Client} (schemaless : c.codec = .schemaless)
    (typed : c'.codec = .typed) {v : Json} {body : String} (encoded : c.encode v = .ok body) :
    c'.encode v = .ok body := by
  obtain ⟨written, writes, text⟩ := encode_eq_ok_iff.1 encoded
  -- what names a type is complete, so that the typed client has nothing to insert
  have completed := writes.completed (ordered_normalize v) c'.kind
  obtain ⟨_, _, _, rfl⟩ := (writes_of_schemaless schemaless).1 writes
  exact encode_eq_ok_iff.2 ⟨_, (writes_of_typed typed).2 completed, text⟩

/-- What a client has written is sent again as it is, by whatever client sends it at all. -/
lemma encode_again {c : Client} {v : Json} {body : String} (encoded : c.encode v = .ok body) :
    ∃ written, c.Writes v.normalize written ∧ written.text = body ∧
      (∀ c' : Client, c'.codec = c.codec → c'.encode written = .ok body) ∧
      ∀ (c' : Client) (again : String), c'.encode written = .ok again → again = body := by
  obtain ⟨written, writes, text⟩ := encode_eq_ok_iff.1 encoded
  have completed := writes.completed (ordered_normalize v)
  have same : written.normalize = written := normalize_of_ordered (completed c.kind).ordered
  refine ⟨written, writes, text, ?_, ?_⟩
  · intro c' codec
    refine encode_eq_ok_iff.2 ⟨written, ?_, text⟩
    rw [same]
    exact writes.again (ordered_normalize v) codec
  · intro c' again encodedAgain
    obtain ⟨written', writes', rfl⟩ := encode_eq_ok_iff.1 encodedAgain
    rw [same] at writes'
    rw [writes'.eq_of_completed (completed c'.kind), text]

/-- Either codec writes what `Writes` says, both write the same where both write at all, and what a
client has written is written again as it is. -/
theorem codecs_agree (v : Json) :
    (∀ c : Client, c.codec = .schemaless → ∀ body, c.encode v = .ok body ↔
      (v.normalize.IsObject ∧ v.normalize.HasText "apiVersion" ∧ v.normalize.HasText "kind") ∧
        body = v.normalize.text) ∧
    (∀ c : Client, c.codec = .typed →
      ((∃ body, c.encode v = .ok body) ↔ v.normalize.IsObject) ∧
      ∀ body, c.encode v = .ok body ↔
        ∃ written, Completed c.kind v.normalize written ∧ written.text = body) ∧
    (∀ c c' : Client, c.codec = .schemaless → c'.codec = .typed → ∀ body,
      c.encode v = .ok body → c'.encode v = .ok body) ∧
    ∀ (c : Client) (body : String), c.encode v = .ok body →
      ∃ written, c.Writes v.normalize written ∧ written.text = body ∧
        (∀ c' : Client, c'.codec = c.codec → c'.encode written = .ok body) ∧
        ∀ (c' : Client) (again : String), c'.encode written = .ok again → again = body := by
  refine ⟨?_, ?_, ?_, ?_⟩
  · intro c schemaless body
    exact encode_eq_ok_iff_of_schemaless schemaless
  · intro c typed
    exact ⟨exists_encode_iff_of_typed typed, fun body => encode_eq_ok_iff_of_typed typed⟩
  · intro c c' schemaless typed body encoded
    exact encode_typed_of_schemaless schemaless typed encoded
  · intro c body encoded
    exact encode_again encoded

/-- A widget with the names of its type, not in their order. -/
def widget : Json :=
  .object [("spec", .null), ("kind", .string "Widget"), ("apiVersion", .string "apps/v1")]

/-- A client for pods. -/
def forPods (codec : Codec) : Client where
  scheme := "https"
  authority := "cluster.example:6443"
  basePath := ""
  kind := ApiType.pod.kind
  codec := codec
  headers := standardHeaders
  timeout := none
  acceptInvalidCerts := false

/-- Both clients for pods write a widget as it is, and what they wrote they write again. -/
theorem codecs_agree_widget :
    (forPods .schemaless).encode widget = .ok widget.normalize.text ∧
      (forPods .typed).encode widget = .ok widget.normalize.text ∧
      ∃ written : Json, written.text = widget.normalize.text ∧
        (forPods .typed).encode written = .ok widget.normalize.text := by
  have names : (widget.normalize.IsObject ∧ widget.normalize.HasText "apiVersion" ∧
      widget.normalize.HasText "kind") :=
    ⟨⟨_, rfl⟩, ⟨"apps/v1", rfl, by decide⟩, ⟨"Widget", rfl, by decide⟩⟩
  obtain ⟨schemaless, _, agree, again⟩ := codecs_agree widget
  have encoded := (schemaless (forPods .schemaless) rfl widget.normalize.text).2 ⟨names, rfl⟩
  have encodedTyped := agree (forPods .schemaless) (forPods .typed) rfl rfl _ encoded
  obtain ⟨written, _, text, stable, _⟩ := again (forPods .typed) _ encodedTyped
  exact ⟨encoded, encodedTyped, written, text, stable (forPods .typed) rfl⟩

end Client

end KindResolution
