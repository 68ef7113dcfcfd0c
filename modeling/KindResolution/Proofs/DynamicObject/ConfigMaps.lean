import KindResolution.ConfigMap
import KindResolution.Proofs.DynamicObject.Kept
import KindResolution.Proofs.Kind.ApiVersion

/-!
# Config maps as objects without a schema

A config map that is read back from its own value is also read back if it goes through an object
without a schema on the way: `DynamicObject.parseAs_of_configMap`. What this needs to know about
the decoder of config maps is that the metadata comes from its own field alone
(`Json.RecordField.readMembers_of_find?`).
-/

namespace KindResolution

open Json Entries

namespace Json.RecordField

variable {σ β : Type} {fields : List (RecordField σ)} {key : String} {view : σ → β}

/-- A field does not change a part of a record. -/
def Keeps (field : RecordField σ) (view : σ → β) : Prop :=
  ∀ st d st', field.read st .value d = .ok st' → view st' = view st

/-- The fields of other keys do not change a part of a record. -/
def OthersKeep (fields : List (RecordField σ)) (key : String) (view : σ → β) : Prop :=
  ∀ field ∈ fields, field.key ≠ key → field.Keeps view

/-- A constant field changes no part of a record. -/
lemma keeps_constant (key text : String) : (constant key text).Keeps view := by
  intro st d st' read
  obtain ⟨_, _, read⟩ := bind_eq_ok_iff.1 read
  split at read
  · cases read
    rfl
  · cases read

/-- An optional field changes no part that its value is not stored in. -/
lemma keeps_optional {α : Type} {set : σ → Option α → σ} (decoder : Decoder α)
    (keep : ∀ st value, view (set st value) = view st) : (optional key set decoder).Keeps view := by
  intro st d st' read
  obtain ⟨value, _, rfl⟩ := map_eq_ok_iff.1 read
  exact keep st value

/-- What reading a member does to a record: what its field says, or else nothing. -/
def Reads (fields : List (RecordField σ)) (name : String) (value : Json) (st st' : σ) : Prop :=
  match fields.find? fun field => field.key == name with
  | some field => field.read st .value (Document.ofJson value) = .ok st'
  | none => st' = st

/-- Members are read one by one, the first as its field says. -/
lemma readMembers_cons {st st' : σ} {name : String} {value : Json} {rest : List (String × Json)}
    (read : readMembers fields .value st (Document.ofMembers ((name, value) :: rest)) = .ok st') :
    ∃ next, readMembers fields .value next (Document.ofMembers rest) = .ok st' ∧
      Reads fields name value st next := by
  rw [Document.ofMembers, readMembers] at read
  obtain ⟨_, isName, read⟩ := bind_eq_ok_iff.1 read
  cases isName
  unfold Reads
  cases found : fields.find? fun field => field.key == name with
  | none =>
    rw [found] at read
    obtain ⟨_, _, read⟩ := bind_eq_ok_iff.1 read
    exact ⟨st, read, rfl⟩
  | some field =>
    rw [found] at read
    dsimp only at read
    split at read
    · cases read
    · obtain ⟨next, first, read⟩ := bind_eq_ok_iff.1 read
      exact ⟨next, read, first⟩

/-- A member with another key does not change the part of the record. -/
lemma OthersKeep.step (keep : OthersKeep fields key view) {st st' : σ} {name : String} {value : Json}
    (other : name ≠ key) (step : Reads fields name value st st') : view st' = view st := by
  unfold Reads at step
  cases found : fields.find? fun field => field.key == name with
  | none =>
    rw [found] at step
    exact congrArg view step
  | some field =>
    rw [found] at step
    have isName : field.key = name := by simpa using List.find?_some found
    exact keep field (List.mem_of_find?_eq_some found) (isName ▸ other) _ _ _ step

/-- Members without the key do not change the part of the record. -/
lemma view_of_absent (keep : OthersKeep fields key view) {st st' : σ}
    {members : List (String × Json)} (absent : find? key members = none)
    (read : readMembers fields .value st (Document.ofMembers members) = .ok st') :
    view st' = view st := by
  induction members generalizing st with
  | nil =>
    cases read
    rfl
  | cons member rest ih =>
    obtain ⟨other, absent⟩ := find?_cons_eq_none_iff.1 absent
    obtain ⟨next, read, first⟩ := readMembers_cons read
    rw [ih absent read]
    exact keep.step other first

/-- A part that only the field of one key changes is what this field reads from its member. -/
theorem readMembers_of_find? (keep : OthersKeep fields key view) {field : RecordField σ}
    (isField : (fields.find? fun field => field.key == key) = some field) {st st' : σ}
    {members : List (String × Json)} {value : Json} (sorted : Sorted members)
    (found : find? key members = some value)
    (read : readMembers fields .value st (Document.ofMembers members) = .ok st') :
    ∃ before after, field.read before .value (Document.ofJson value) = .ok after ∧
      view st' = view after := by
  induction members generalizing st with
  | nil => cases found
  | cons member rest ih =>
    obtain ⟨name, first⟩ := member
    obtain ⟨next, read, step⟩ := readMembers_cons read
    by_cases same : name = key
    · subst same
      rw [find?, if_pos rfl] at found
      cases found
      rw [Reads, isField] at step
      exact ⟨st, next, step, view_of_absent keep sorted.find?_head read⟩
    · rw [find?, if_neg same] at found
      exact ih (List.pairwise_cons.1 sorted).2 found read

end Json.RecordField

namespace ConfigMap

/-- The members of the value of a config map. -/
structure Written (c : ConfigMap) (members : List (String × Json)) : Prop where
  isValue : c.toJson.normalize = .object members
  ordered : (Json.object members).Ordered
  names : (Json.object members).Names (.ofKind groupVersionKind)
  metadata : find? "metadata" members = some c.objectMeta.toJson.normalize

/-- Every config map is written with its names and its metadata. -/
lemma exists_written (c : ConfigMap) : ∃ members, c.Written members := by
  refine ⟨_, rfl, ordered_normalize c.toJson, ⟨?_, ?_⟩, ?_⟩
  all_goals
    refine (member?_normalize _ _).trans ?_
    obtain ⟨binaryData, data, immutable, objectMeta⟩ := c
    cases binaryData <;> cases data <;> cases immutable <;> rfl

/-- The metadata of a config map comes from its own field. -/
lemma exists_fields : ∃ fields : List (RecordField ConfigMap),
    decoder = Decoder.resource "ConfigMap" fields {} ∧
      RecordField.OthersKeep fields "metadata" objectMeta ∧
      (fields.find? fun field => field.key == "metadata") =
        some (.optional "metadata" (fun c v => { c with objectMeta := v.getD {} })
          ObjectMeta.decoder) := by
  refine ⟨_, rfl, ?_, rfl⟩
  intro field isField other
  simp only [List.mem_cons, List.not_mem_nil, or_false] at isField
  obtain rfl | rfl | rfl | rfl | rfl | rfl := isField
  · exact RecordField.keeps_constant _ _
  · exact RecordField.keeps_constant _ _
  · exact RecordField.keeps_optional _ fun _ _ => rfl
  · exact RecordField.keeps_optional _ fun _ _ => rfl
  · exact RecordField.keeps_optional _ fun _ _ => rfl
  · exact absurd rfl other

/-- If a config map reads back, so does its metadata. -/
lemma Written.ofMeta {c : ConfigMap} {members : List (String × Json)} (written : c.Written members)
    (readsBack : decoder.ofValue c.toJson.normalize = .ok c) :
    ObjectMeta.decoder.ofValue c.objectMeta.toJson.normalize = .ok c.objectMeta := by
  obtain ⟨fields, isDecoder, othersKeep, isField⟩ := exists_fields
  rw [written.isValue, isDecoder] at readsBack
  change Except.bind (RecordField.readMembers fields .value {} (Document.ofMembers members)) _ = _
    at readsBack
  obtain ⟨last, read, ends⟩ := bind_eq_ok_iff.1 readsBack
  cases ends
  obtain ⟨before, after, step, same⟩ :=
    RecordField.readMembers_of_find? othersKeep isField written.ordered.1 written.metadata read
  obtain ⟨value, ofField, rfl⟩ := map_eq_ok_iff.1 step
  -- the value of the metadata is an object, so that it is not taken for absent metadata
  obtain ⟨objectMeta, ofMeta, isValue⟩ := map_eq_ok_iff.1 ofField
  have isMeta : c.objectMeta = objectMeta := same.trans (congrArg (Option.getD · {}) isValue.symm)
  rw [isMeta] at ofMeta ⊢
  exact ofMeta

end ConfigMap

namespace DynamicObject

/-- An object is written as the value it was read from if the names of its type are there whole
and its metadata is written as it was. -/
lemma toValue_of_decoded {v : Json} {o : DynamicObject} (ordered : v.Ordered)
    (decoded : decoder.ofValue v = .ok o) (whole : v.NamesWhole)
    (metadata : v.member? "metadata" = some o.objectMeta.toJson.normalize) :
    o.toValue = .ok v := by
  obtain ⟨written, encoded, rewrites⟩ := rewrites_of_decoded ordered decoded
  obtain ⟨members, _, rfl, _, _⟩ := (ofValue_eq_ok_iff ordered).1 decoded
  obtain ⟨writtenMembers, rfl⟩ := rewrites.isObject
  rw [encoded]
  apply congrArg Except.ok
  apply congrArg object
  apply eq_of_find? rewrites.ordered.1 ordered.1
  intro key
  by_cases isMetadata : key = "metadata"
  · exact isMetadata ▸ rewrites.metadata.trans metadata.symm
  · exact rewrites.keptIn whole key isMetadata

/-- A config map that reads back can be read as an object without a schema, which turns into the
config map and into itself. -/
theorem parseAs_of_configMap {c : ConfigMap}
    (readsBack : ConfigMap.decoder.ofValue c.toJson.normalize = .ok c) :
    ∃ d, decoder.ofValue c.toJson.normalize = .ok d ∧
      d.groupVersionKind? = some (.ok ConfigMap.groupVersionKind) ∧
      d.parseAs ConfigMap.decoder = .ok c ∧ d.parseAs decoder = .ok d := by
  obtain ⟨members, written⟩ := c.exists_written
  have ofMeta : readMetadata? members = .ok (some c.objectMeta) := by
    rw [readMetadata?, written.metadata]
    exact congrArg (Except.map some) (written.ofMeta readsBack)
  have decoded : decoder.ofValue (.object members) = .ok (ofParts members (some c.objectMeta)) :=
    (ofValue_eq_ok_iff written.ordered).2 ⟨members, _, rfl, ofMeta, rfl⟩
  have encoded : (ofParts members (some c.objectMeta)).toValue = .ok (.object members) :=
    toValue_of_decoded written.ordered decoded (.inl ⟨_, written.names⟩) written.metadata
  rw [written.isValue] at readsBack ⊢
  refine ⟨ofParts members (some c.objectMeta), decoded, ?_, ?_, ?_⟩
  · rw [groupVersionKind?, ofParts, TypeMeta.ofMembers?_eq_some_iff.2 written.names]
    exact congrArg some (TypeMeta.groupVersionKind_ofKind (by decide) (by decide) (by decide))
  · rw [parseAs, encoded]
    exact congrArg (Except.mapError ParseError.decode) readsBack
  · rw [parseAs, encoded]
    exact congrArg (Except.mapError ParseError.decode) decoded

/-- A config map with texts, bytes and labels. -/
def settings : ConfigMap where
  binaryData := some { entries := [("logo", [0, 255])] }
  data := some { entries := [("mode", "fast"), ("url", "https://example.com")] }
  objectMeta :=
    { name := some "settings", namespaceName := some "default"
      labels := some { entries := [("app", "demo")] } }

/-- The config map goes through an object without a schema. -/
theorem parseAs_of_configMap_settings :
    ConfigMap.decoder.ofValue settings.toJson.normalize = .ok settings ∧
      ∃ d, decoder.ofValue settings.toJson.normalize = .ok d ∧
        d.groupVersionKind? = some (.ok ConfigMap.groupVersionKind) ∧
        d.parseAs ConfigMap.decoder = .ok settings ∧ d.parseAs decoder = .ok d := by
  have readsBack : ConfigMap.decoder.ofValue settings.toJson.normalize = .ok settings := rfl
  exact ⟨readsBack, parseAs_of_configMap readsBack⟩

end DynamicObject

end KindResolution
