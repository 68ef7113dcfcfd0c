import KindResolution.ObjectList
import KindResolution.Proofs.DynamicObject.Kept

/-!
# Reading back what was written

An object without a schema is read back from what is written for it, if its data is a JSON object
that shares no key with the other parts. A list is read back if its items are, whatever these are
(`ObjectList.readsBack`), and so lists of such objects are: `DynamicObject.decoding_undoes_encoding`.
-/

namespace KindResolution

open Json Entries

/-- A thing is read back from the value that is written for it. -/
def Json.ReadsBack {α : Type} (encode : α → Except EncodeError Json) (decoder : Decoder α)
    (a : α) : Prop :=
  ∃ v, (encode a).map normalize = .ok v ∧ decoder.ofValue v = .ok a

/-- The metadata of an object is read back from its own value. -/
def ObjectMeta.ReadsBack (m : ObjectMeta) : Prop :=
  ObjectMeta.decoder.ofValue m.toJson.normalize = .ok m

/-- The metadata of a list is read back from its own value. -/
def ListMeta.ReadsBack (m : ListMeta) : Prop :=
  ListMeta.decoder.ofValue m.toJson.normalize = .ok m

namespace DynamicObject

/-- The data of an object is a JSON object in its ordered form that does not share a key with the
names of the type and the metadata, and the metadata is read back. -/
structure Separate (o : DynamicObject) : Prop where
  isObject : ∃ members, o.data = .object members
  ordered : o.data.Ordered
  noVersion : o.data.member? "apiVersion" = none
  noKind : o.data.member? "kind" = none
  noMetadata : o.data.member? "metadata" = none
  metadata : o.objectMeta.ReadsBack

/-- Each member of what is written for an object with separate parts is of one of the parts. -/
structure Writes (o : DynamicObject) (members : List (String × Json)) : Prop where
  ordered : (Json.object members).Ordered
  others : ∀ key, key ≠ "apiVersion" → key ≠ "kind" → key ≠ "metadata" →
    find? key members = o.data.member? key
  metadata : find? "metadata" members = some o.objectMeta.toJson.normalize
  names : TypeMeta.ofMembers? members = o.typeMeta
  whole : (Json.object members).NamesWhole

/-- A separate object is written as an object with its parts. -/
lemma Separate.writes {o : DynamicObject} (separate : o.Separate) :
    ∃ members, o.toValue = .ok (.object members) ∧ o.Writes members := by
  obtain ⟨typeMeta, objectMeta, data⟩ := o
  obtain ⟨⟨data, rfl⟩, ordered, noVersion, noKind, noMetadata, _⟩ := separate
  have finds := member?_written typeMeta objectMeta.toJson ordered
  change find? "apiVersion" data = none at noVersion
  change find? "kind" data = none at noKind
  change find? "metadata" data = none at noMetadata
  refine ⟨_, toValue_of_flatMembers rfl, ?_⟩
  have version := finds "apiVersion"
  have kind := finds "kind"
  have metadata := finds "metadata"
  rw [noVersion] at version
  rw [noKind] at kind
  rw [noMetadata] at metadata
  constructor
  case ordered => exact ordered_normalize (.object _)
  case others =>
    intro key notVersion notKind notMetadata
    refine (finds key).trans ?_
    rw [find?, if_neg (Ne.symm notMetadata), find?_optionalMembers_other _ notVersion notKind]
    exact Option.or_none
  case metadata => exact metadata
  case names =>
    cases typeMeta with
    | none =>
      apply ofMembers?_eq_none
      intro names named
      cases version.symm.trans named.1
    | some names => exact TypeMeta.ofMembers?_eq_some_iff.2 ⟨version, kind⟩
  case whole =>
    cases typeMeta with
    | none => exact .inr ⟨version, kind⟩
    | some names => exact .inl ⟨names, version, kind⟩

/-- The data of a separate object is read off what is written for it. -/
lemma Writes.dataOf_eq {o : DynamicObject} {members data : List (String × Json)}
    (writes : o.Writes members) (separate : o.Separate) (isObject : o.data = .object data) :
    dataOf members = data := by
  have ordered := separate.ordered
  rw [isObject] at ordered
  apply eq_of_find? (ordered_dataOf writes.ordered).1 ordered.1
  intro key
  have inData : o.data.member? key = find? key data := by rw [isObject, member?]
  rw [← inData]
  by_cases isVersion : key = "apiVersion"
  · rw [isVersion, find?_dataOf_apiVersion, separate.noVersion]
  by_cases isKind : key = "kind"
  · rw [isKind, find?_dataOf_kind, separate.noKind]
    obtain ⟨names, named⟩ | ⟨_, noKind⟩ := writes.whole
    · rw [named.versionIsNoText]
      rfl
    · change find? "kind" members = none at noKind
      rw [noKind, ite_self]
  by_cases isMetadata : key = "metadata"
  · rw [isMetadata, find?_dataOf_metadata, separate.noMetadata]
  · rw [find?_dataOf_other members isVersion isKind isMetadata,
      writes.others key isVersion isKind isMetadata]

/-- An object with separate parts is read back. -/
theorem Separate.readsBack {o : DynamicObject} (separate : o.Separate) :
    Json.ReadsBack toJson decoder o := by
  obtain ⟨members, encoded, writes⟩ := separate.writes
  obtain ⟨data, isObject⟩ := separate.isObject
  refine ⟨.object members, encoded, ?_⟩
  apply (ofValue_eq_ok_iff writes.ordered).2
  refine ⟨members, some o.objectMeta, rfl, ?_, ?_⟩
  · rw [readMetadata?, writes.metadata]
    exact congrArg (Except.map some) separate.metadata
  · rw [ofParts, writes.names, writes.dataOf_eq separate isObject, ← isObject]
    rfl

end DynamicObject

namespace ObjectList

variable {α : Type} {item : α → Except EncodeError Json} {itemDecoder : Decoder α}

/-- The members of the value of a list. -/
def valueMembers (typeMeta : Option TypeMeta) (listMeta items : Json) : List (String × Json) :=
  match typeMeta with
  | none => [("items", items), ("metadata", listMeta)]
  | some names =>
    [("apiVersion", .string names.apiVersion), ("items", items), ("kind", .string names.kind),
      ("metadata", listMeta)]

/-- A list is written as its names, its items and its metadata, in order. -/
lemma toValue_of_items {l : ObjectList α} {items : List Json}
    (encoded : l.items.mapM item = .ok items) :
    l.toValue item = .ok (.object
      (valueMembers l.typeMeta l.listMeta.toJson.normalize (.array (normalizeElements items)))) := by
  obtain ⟨typeMeta, listMeta, _⟩ := l
  rw [toValue, toJson, encoded]
  apply congrArg Except.ok
  apply congrArg object
  cases typeMeta <;>
    simp only [TypeMeta.optionalMembers, TypeMeta.members, List.cons_append, List.nil_append,
      normalizeMembers, Json.normalize, insertAll, List.foldl, Entries.insert, String.reduceLT,
      String.reduceEq, if_true, if_false, valueMembers]

/-- The metadata of a list is decoded, if there was none before. -/
lemma readMembers_metadata {st : Fields α} (value : Json) (rest : List (String × Json))
    (first : st.listMeta = none) :
    readMembers itemDecoder .value st (Document.ofMembers (("metadata", value) :: rest)) =
      (ListMeta.decoder.ofValue value).bind fun m =>
        readMembers itemDecoder .value { st with listMeta := some m } (Document.ofMembers rest) := by
  obtain ⟨_, items, others⟩ := st
  obtain rfl : _ = none := first
  rfl

/-- The items of a list are decoded, if there were none before. -/
lemma readMembers_items {st : Fields α} (value : Json) (rest : List (String × Json))
    (first : st.items = none) :
    readMembers itemDecoder .value st (Document.ofMembers (("items", value) :: rest)) =
      ((Decoder.list itemDecoder).ofValue value).bind fun items =>
        readMembers itemDecoder .value { st with items := some items }
          (Document.ofMembers rest) := by
  obtain ⟨listMeta, _, others⟩ := st
  obtain rfl : _ = none := first
  rfl

/-- All other members of a list are kept aside. -/
lemma readMembers_other {st : Fields α} {key : String} {value : Json}
    (rest : List (String × Json)) (noMetadata : key ≠ "metadata") (noItems : key ≠ "items") :
    readMembers itemDecoder .value st (Document.ofMembers ((key, value) :: rest)) =
      readMembers itemDecoder .value { st with others := st.others ++ [(key, value.normalize)] }
        (Document.ofMembers rest) := by
  refine (if_neg noMetadata).trans ((if_neg noItems).trans ?_)
  rw [any_ofJson]
  rfl

/-- A list is decoded from its parts if its metadata and its items are. -/
lemma ofValue_valueMembers (typeMeta : Option TypeMeta) {listMeta items : Json} {m : ListMeta}
    {decoded : List α} (ofMeta : ListMeta.decoder.ofValue listMeta = .ok m)
    (ofItems : (Decoder.list itemDecoder).ofValue items = .ok decoded) :
    (decoder itemDecoder).ofValue (.object (valueMembers typeMeta listMeta items)) =
      .ok ⟨typeMeta, m, decoded⟩ := by
  show Except.bind (readMembers itemDecoder .value {}
    (Document.ofMembers (valueMembers typeMeta listMeta items))) _ = _
  cases typeMeta with
  | none =>
    rw [valueMembers, readMembers_items _ _ rfl, ofItems, Except.bind, readMembers_metadata _ _ rfl,
      ofMeta]
    rfl
  | some names =>
    rw [valueMembers, readMembers_other _ (by decide) (by decide), readMembers_items _ _ rfl,
      ofItems, Except.bind, readMembers_other _ (by decide) (by decide),
      readMembers_metadata _ _ rfl, ofMeta]
    rfl

/-- Items that are read back one by one are read back as elements. -/
lemma readsBack_items {items : List α}
    (readBack : ∀ a ∈ items, Json.ReadsBack item itemDecoder a) :
    ∃ values, items.mapM item = .ok values ∧
      Decoder.elements itemDecoder .value (Document.ofElements (normalizeElements values)) =
        .ok items := by
  induction items with
  | nil => exact ⟨[], rfl, rfl⟩
  | cons a rest ih =>
    obtain ⟨v, encoded, decoded⟩ := readBack a List.mem_cons_self
    obtain ⟨value, written, rfl⟩ := map_eq_ok_iff.1 encoded
    obtain ⟨values, writtenRest, decodedRest⟩ :=
      ih fun b member => readBack b (List.mem_cons_of_mem _ member)
    refine ⟨value :: values, ?_, ?_⟩
    · rw [List.mapM_cons, written, writtenRest]
      rfl
    · show Except.bind (itemDecoder.ofValue value.normalize) _ = _
      rw [decoded]
      show Except.bind (Decoder.elements itemDecoder .value
        (Document.ofElements (normalizeElements values))) _ = _
      rw [decodedRest]
      rfl

/-- A list is read back if its metadata and its items are. -/
theorem readsBack {l : ObjectList α} (ofMeta : l.listMeta.ReadsBack)
    (ofItems : ∀ a ∈ l.items, Json.ReadsBack item itemDecoder a) :
    Json.ReadsBack (ObjectList.toJson item) (decoder itemDecoder) l := by
  obtain ⟨values, encoded, decoded⟩ := readsBack_items ofItems
  refine ⟨_, toValue_of_items encoded, ?_⟩
  apply ofValue_valueMembers _ ofMeta
  show Except.bind (Decoder.elements itemDecoder .value _) _ = _
  rw [decoded]
  rfl

end ObjectList

namespace DynamicObject

/-- Decoding undoes encoding, for an object whose data shares no key with its other parts and for a
list of such objects. -/
theorem decoding_undoes_encoding :
    (∀ o : DynamicObject, o.Separate →
      ∃ v, o.toValue = .ok v ∧ decoder.ofValue v = .ok o) ∧
    ∀ l : ObjectList DynamicObject, l.listMeta.ReadsBack → (∀ o ∈ l.items, o.Separate) →
      ∃ v, l.toValue toJson = .ok v ∧ (ObjectList.decoder decoder).ofValue v = .ok l := by
  constructor
  · intro o separate
    exact separate.readsBack
  · intro l ofMeta separate
    apply ObjectList.readsBack ofMeta
    intro o item
    exact (separate o item).readsBack

/-- A widget that names its type, with labels and data of its own. -/
def labelled : DynamicObject where
  typeMeta := some ⟨"example.com/v1", "Widget"⟩
  objectMeta :=
    { name := some "w1", generation := some 3
      labels := some { entries := [("app", "demo"), ("tier", "back")] } }
  data := .object [("spec", .object [("replicas", .ofNat 2)]), ("status", .null)]

/-- The labelled object is separate. -/
lemma separate_labelled : labelled.Separate where
  isObject := ⟨_, rfl⟩
  ordered := ⟨by decide, ⟨by decide, trivial, trivial⟩, trivial, trivial⟩
  noVersion := rfl
  noKind := rfl
  noMetadata := rfl
  metadata := rfl

/-- The widget is read back, and so is a list of it and of a widget without names. -/
theorem decoding_undoes_encoding_labelled :
    (∃ v, labelled.toValue = .ok v ∧ decoder.ofValue v = .ok labelled) ∧
      ∃ v, (ObjectList.ofItems [labelled, labelled.withoutTypeMeta]).toValue toJson = .ok v ∧
        (ObjectList.decoder decoder).ofValue v =
          .ok (ObjectList.ofItems [labelled, labelled.withoutTypeMeta]) := by
  refine ⟨decoding_undoes_encoding.1 labelled separate_labelled,
    decoding_undoes_encoding.2 _ rfl ?_⟩
  intro o item
  obtain rfl | item := List.mem_cons.1 item
  · exact separate_labelled
  · obtain rfl := List.mem_singleton.1 item
    exact { separate_labelled with }

end DynamicObject

end KindResolution
