import KindResolution.DynamicObject
import KindResolution.Proofs.Json.Ordered

/-!
# The parts of an object without a schema

The names of a type, the metadata and the data of an object without a schema share one JSON object.
`DynamicObject.ofValue_eq_ok_iff` says which members of an ordered object become which part, and
`DynamicObject.member?_written` where each part is found in what is written. The search for the
names uses up what it looks at, also if it fails: `TypeMeta.extract_of_sorted`.
-/

namespace KindResolution

open Json

namespace Entries

variable {α : Type}

/-- The entries of a list without those of a key. -/
def erase (key : String) (entries : List (String × α)) : List (String × α) :=
  entries.filter fun entry => entry.1 ≠ key

/-- An entry with the key is erased. -/
lemma erase_head (key : String) (value : α) (rest : List (String × α)) :
    erase key ((key, value) :: rest) = erase key rest :=
  List.filter_cons_of_neg (by simp)

/-- An entry with another key stays. -/
lemma erase_cons_of_ne {key : String} {entry : String × α} (rest : List (String × α))
    (ne : entry.1 ≠ key) : erase key (entry :: rest) = entry :: erase key rest :=
  List.filter_cons_of_pos (by simpa using ne)

/-- Nothing is erased under a key that is absent. -/
lemma erase_of_find?_eq_none {key : String} {entries : List (String × α)}
    (absent : find? key entries = none) : erase key entries = entries := by
  apply List.filter_eq_self.2
  intro entry member
  simpa using find?_eq_none_iff.1 absent entry member

/-- An erasure takes away what is found under its key, and nothing else. -/
lemma find?_erase (key k : String) (entries : List (String × α)) :
    find? k (erase key entries) = if k = key then none else find? k entries := by
  induction entries with
  | nil => simp [erase, find?]
  | cons entry rest ih =>
    obtain ⟨first, value⟩ := entry
    by_cases same : first = key
    · subst same
      rw [erase_head, ih, find?]
      by_cases eq : first = k
      · simp [eq]
      · rw [if_neg eq]
    · rw [erase_cons_of_ne rest same, find?, find?, ih]
      by_cases eq : first = k
      · subst eq
        rw [if_pos rfl, if_neg same, if_pos rfl]
      · rw [if_neg eq, if_neg eq]

/-- A key is absent if it is not that of the first entry and absent behind it. -/
lemma find?_cons_eq_none_iff {key : String} {entry : String × α} {rest : List (String × α)} :
    find? key (entry :: rest) = none ↔ entry.1 ≠ key ∧ find? key rest = none := by
  by_cases same : entry.1 = key <;> simp [find?, same]

end Entries

namespace Json

/-- A value has the names of a type among its members. -/
def Names (v : Json) (names : TypeMeta) : Prop :=
  v.member? "apiVersion" = some (.string names.apiVersion) ∧
    v.member? "kind" = some (.string names.kind)

/-- Whether a value has an `apiVersion` that is no text. -/
def versionIsNoText (v : Json) : Bool :=
  (v.member? "apiVersion").any fun value => value.string?.isNone

/-- Only a text has a text. -/
lemma string?_eq_some_iff {v : Json} {s : String} : v.string? = some s ↔ v = .string s := by
  cases v <;> simp [string?]

/-- The version in an object with names is a text. -/
lemma Names.versionIsNoText {v : Json} {names : TypeMeta} (named : v.Names names) :
    v.versionIsNoText = false := by
  rw [Json.versionIsNoText, named.1]
  rfl

end Json

open Entries

namespace TypeMeta

/-- The names of a type, if there are both. -/
def ofNames? : Option String → Option String → Option TypeMeta
  | some apiVersion, some kind => some ⟨apiVersion, kind⟩
  | _, _ => none

/-- The first version is taken out, and ends the search if it is no text. -/
lemma extract_apiVersion (kind : Option String) (value : Json) (rest : List (String × Json)) :
    extract none kind (("apiVersion", value) :: rest) =
      match value.string? with
      | some s => extract (some s) kind rest
      | none => (none, rest) := by
  cases value <;> rfl

/-- The first kind is taken out, and ends the search if it is no text. -/
lemma extract_kind (apiVersion : Option String) (value : Json) (rest : List (String × Json)) :
    extract apiVersion none (("kind", value) :: rest) =
      match value.string? with
      | some s => extract apiVersion (some s) rest
      | none => (none, rest) := by
  cases value <;> rfl

/-- Members with other keys stay where they are. -/
lemma extract_other (apiVersion kind : Option String) {member : String × Json}
    (rest : List (String × Json)) (noVersion : member.1 ≠ "apiVersion")
    (noKind : member.1 ≠ "kind") :
    extract apiVersion kind (member :: rest) =
      ((extract apiVersion kind rest).1, member :: (extract apiVersion kind rest).2) :=
  (if_neg noVersion).trans (if_neg noKind)

/-- Without further names nothing is used up. -/
lemma extract_of_absent (apiVersion kind : Option String) {members : List (String × Json)}
    (noVersion : find? "apiVersion" members = none) (noKind : find? "kind" members = none) :
    extract apiVersion kind members = (ofNames? apiVersion kind, members) := by
  induction members with
  | nil => cases apiVersion <;> cases kind <;> rfl
  | cons member rest ih =>
    obtain ⟨first, noVersion⟩ := find?_cons_eq_none_iff.1 noVersion
    obtain ⟨first', noKind⟩ := find?_cons_eq_none_iff.1 noKind
    rw [extract_other apiVersion kind rest first first', ih noVersion noKind]

/-- Once there can be no `apiVersion` any more, the `kind` is used up, be it a text or not. -/
lemma extract_of_no_apiVersion (apiVersion : Option String) {members : List (String × Json)}
    (sorted : Sorted members) (noVersion : find? "apiVersion" members = none) :
    extract apiVersion none members =
      (ofNames? apiVersion ((find? "kind" members).bind string?), erase "kind" members) := by
  induction members with
  | nil => cases apiVersion <;> rfl
  | cons member rest ih =>
    obtain ⟨first, noVersion⟩ := find?_cons_eq_none_iff.1 noVersion
    by_cases isKind : member.1 = "kind"
    · obtain ⟨_, value⟩ := member
      subst isKind
      have noKind := sorted.find?_head
      rw [extract_kind, erase_head, erase_of_find?_eq_none noKind, find?, if_pos rfl,
        Option.bind_some]
      cases value.string? with
      | some s => exact extract_of_absent _ _ noVersion noKind
      | none => cases apiVersion <;> rfl
    · rw [extract_other _ _ rest first isKind, ih (List.pairwise_cons.1 sorted).2 noVersion, find?,
        if_neg isKind, erase_cons_of_ne rest isKind]

/-- The names of a type that stand in the members of an object as texts, if both do. -/
def ofMembers? (members : List (String × Json)) : Option TypeMeta :=
  ofNames? ((find? "apiVersion" members).bind string?) ((find? "kind" members).bind string?)

/-- Members have the names of a type exactly if the object has them. -/
lemma ofMembers?_eq_some_iff {members : List (String × Json)} {names : TypeMeta} :
    ofMembers? members = some names ↔ (Json.object members).Names names := by
  obtain ⟨apiVersion, kind⟩ := names
  have texts : ∀ key s, (find? key members).bind string? = some s ↔
      (Json.object members).member? key = some (.string s) := by
    intro key s
    simp only [Option.bind_eq_some_iff, string?_eq_some_iff, member?]
    simp
  unfold Names
  rw [← texts, ← texts, ofMembers?]
  cases (find? "apiVersion" members).bind string? <;>
    cases (find? "kind" members).bind string? <;> simp [ofNames?]

/-- The members of an object without those that the search for names uses up. It takes them in
their order, so it does not get to the `kind` behind an `apiVersion` that is no text. -/
def withoutNames (members : List (String × Json)) : List (String × Json) :=
  if (Json.object members).versionIsNoText then erase "apiVersion" members
  else erase "kind" (erase "apiVersion" members)

/-- Members with other keys are left when the names are taken out. -/
lemma withoutNames_cons {member : String × Json} (rest : List (String × Json))
    (noVersion : member.1 ≠ "apiVersion") (noKind : member.1 ≠ "kind") :
    withoutNames (member :: rest) = member :: withoutNames rest := by
  unfold withoutNames versionIsNoText
  rw [member?, member?, find?, if_neg noVersion, erase_cons_of_ne rest noVersion,
    erase_cons_of_ne _ noKind]
  split <;> rfl

/-- From sorted members the names are taken out, and the others are left. -/
theorem extract_of_sorted {members : List (String × Json)} (sorted : Sorted members) :
    extract none none members = (ofMembers? members, withoutNames members) := by
  induction members with
  | nil => rfl
  | cons member rest ih =>
    obtain ⟨above, sortedRest⟩ := List.pairwise_cons.1 sorted
    obtain ⟨key, value⟩ := member
    by_cases isVersion : key = "apiVersion"
    · subst isVersion
      have noVersion : find? "apiVersion" rest = none := sorted.find?_head
      unfold ofMembers? withoutNames versionIsNoText
      rw [extract_apiVersion, erase_head, erase_of_find?_eq_none noVersion]
      simp only [member?, find?, if_true, Option.bind_some, Option.any_some]
      cases value.string? with
      | some s => exact extract_of_no_apiVersion (some s) sortedRest noVersion
      | none => rfl
    · by_cases isKind : key = "kind"
      · subst isKind
        -- the keys ascend, so that there is no version behind the kind
        have noVersion : find? "apiVersion" (("kind", value) :: rest) = none := by
          rw [find?_eq_none_iff]
          intro other member same
          obtain rfl | member := List.mem_cons.1 member
          · change "kind" = "apiVersion" at same
            exact absurd same (by decide)
          · have lt := above other member
            rw [same] at lt
            change "kind" < "apiVersion" at lt
            exact absurd lt (by decide)
        rw [extract_of_no_apiVersion none sorted noVersion]
        unfold ofMembers? withoutNames versionIsNoText
        rw [member?, noVersion, erase_of_find?_eq_none noVersion]
        rfl
      · rw [extract_other none none rest isVersion isKind, ih sortedRest,
          withoutNames_cons rest isVersion isKind]
        simp only [ofMembers?, find?, isVersion, isKind, if_false]

/-- Without the names, all other keys hold what they held. -/
lemma find?_withoutNames_other {key : String} (members : List (String × Json))
    (noVersion : key ≠ "apiVersion") (noKind : key ≠ "kind") :
    find? key (withoutNames members) = find? key members := by
  unfold withoutNames
  split
  · rw [find?_erase, if_neg noVersion]
  · rw [find?_erase, if_neg noKind, find?_erase, if_neg noVersion]

/-- Without the names there is no version. -/
lemma find?_withoutNames_apiVersion (members : List (String × Json)) :
    find? "apiVersion" (withoutNames members) = none := by
  unfold withoutNames
  split
  · rw [find?_erase, if_pos rfl]
  · rw [find?_erase, if_neg (by decide), find?_erase, if_pos rfl]

/-- A `kind` is left only behind an `apiVersion` that is no text. -/
lemma find?_withoutNames_kind (members : List (String × Json)) :
    find? "kind" (withoutNames members) =
      if (Json.object members).versionIsNoText then find? "kind" members else none := by
  unfold withoutNames
  split
  · rw [find?_erase, if_neg (by decide)]
  · rw [find?_erase, if_pos rfl]

/-- Without the names some of the members are left, in their order. -/
lemma withoutNames_sublist (members : List (String × Json)) :
    (withoutNames members).Sublist members := by
  unfold withoutNames
  split
  · exact List.filter_sublist
  · exact List.filter_sublist.trans List.filter_sublist

end TypeMeta

namespace DynamicObject

/-- Members without metadata are read as their ordered forms. -/
lemma readMembers_of_absent (found : Option ObjectMeta) {members : List (String × Json)}
    (absent : find? "metadata" members = none) :
    readMembers .value found (Document.ofMembers members) =
      .ok (found, normalizeMembers members) := by
  induction members with
  | nil => rfl
  | cons member rest ih =>
    obtain ⟨key, value⟩ := member
    obtain ⟨first, absent⟩ := find?_cons_eq_none_iff.1 absent
    show (if key = "metadata" then _ else Except.bind (Decoder.any .value (.ofJson value)) _) = _
    rw [if_neg first, any_ofJson]
    show Except.bind (readMembers .value found (Document.ofMembers rest)) _ = _
    rw [ih absent]
    rfl

/-- The metadata among the members of an object. -/
def readMetadata? (members : List (String × Json)) : Except DecodeError (Option ObjectMeta) :=
  match find? "metadata" members with
  | some value => (ObjectMeta.decoder.ofValue value).map some
  | none => .ok none

/-- Metadata in front is decoded. -/
lemma readMetadata?_head (value : Json) (rest : List (String × Json)) :
    readMetadata? (("metadata", value) :: rest) = (ObjectMeta.decoder.ofValue value).map some := by
  rw [readMetadata?, find?, if_pos rfl]

/-- A member in front with another key is passed over. -/
lemma readMetadata?_cons_of_ne {member : String × Json} (rest : List (String × Json))
    (ne : member.1 ≠ "metadata") : readMetadata? (member :: rest) = readMetadata? rest := by
  rw [readMetadata?, find?, if_neg ne, readMetadata?]

/-- What is no metadata is left as it is. -/
lemma readMembers_of_sorted {members : List (String × Json)} (sorted : Sorted members) :
    readMembers .value none (Document.ofMembers members) =
      (readMetadata? members).map fun found =>
        (found, normalizeMembers (erase "metadata" members)) := by
  induction members with
  | nil => rfl
  | cons member rest ih =>
    obtain ⟨key, value⟩ := member
    by_cases isMetadata : key = "metadata"
    · subst isMetadata
      have absent := sorted.find?_head
      rw [readMetadata?_head, erase_head, erase_of_find?_eq_none absent]
      show Except.bind (ObjectMeta.decoder.ofValue value) _ = _
      cases ObjectMeta.decoder.ofValue value with
      | error e => rfl
      | ok objectMeta => exact readMembers_of_absent (some objectMeta) absent
    · rw [readMetadata?_cons_of_ne rest isMetadata, erase_cons_of_ne rest isMetadata]
      show (if key = "metadata" then _ else Except.bind (Decoder.any .value (.ofJson value)) _) = _
      rw [if_neg isMetadata, any_ofJson]
      show Except.bind (readMembers .value none (Document.ofMembers rest)) _ = _
      rw [ih (List.pairwise_cons.1 sorted).2]
      cases readMetadata? rest <;> rfl

/-- The members of an object that are kept as data. -/
def dataOf (members : List (String × Json)) : List (String × Json) :=
  TypeMeta.withoutNames (erase "metadata" members)

/-- The data of an ordered object is ordered. -/
lemma ordered_dataOf {members : List (String × Json)} (ordered : (Json.object members).Ordered) :
    (Json.object (dataOf members)).Ordered :=
  ordered.sublist ((TypeMeta.withoutNames_sublist _).trans List.filter_sublist)

/-- The data holds the members of an object under all other keys. -/
lemma find?_dataOf_other {key : String} (members : List (String × Json))
    (noVersion : key ≠ "apiVersion") (noKind : key ≠ "kind") (noMetadata : key ≠ "metadata") :
    find? key (dataOf members) = find? key members := by
  rw [dataOf, TypeMeta.find?_withoutNames_other _ noVersion noKind, find?_erase, if_neg noMetadata]

/-- The data holds no metadata. -/
lemma find?_dataOf_metadata (members : List (String × Json)) :
    find? "metadata" (dataOf members) = none := by
  rw [dataOf, TypeMeta.find?_withoutNames_other _ (by decide) (by decide), find?_erase, if_pos rfl]

/-- The data holds no version. -/
lemma find?_dataOf_apiVersion (members : List (String × Json)) :
    find? "apiVersion" (dataOf members) = none :=
  TypeMeta.find?_withoutNames_apiVersion _

/-- The data holds the kind only where the version is no text. -/
lemma find?_dataOf_kind (members : List (String × Json)) :
    find? "kind" (dataOf members) =
      if (Json.object members).versionIsNoText then find? "kind" members else none := by
  have notMetadata : "kind" ≠ "metadata" := by decide
  -- the metadata is no name, so that leaving it out does not change where the search ends
  have stops : (Json.object (erase "metadata" members)).versionIsNoText =
      (Json.object members).versionIsNoText := by
    unfold versionIsNoText
    rw [member?, find?_erase, if_neg (by decide), member?]
  rw [dataOf, TypeMeta.find?_withoutNames_kind, stops, find?_erase, if_neg notMetadata]

/-- The object whose parts are among the members of a JSON object, given its metadata. -/
def ofParts (members : List (String × Json)) (found : Option ObjectMeta) : DynamicObject where
  typeMeta := TypeMeta.ofMembers? members
  objectMeta := found.getD {}
  data := .object (dataOf members)

/-- The names of a type do not depend on the metadata. -/
lemma ofMembers?_erase_metadata (members : List (String × Json)) :
    TypeMeta.ofMembers? (erase "metadata" members) = TypeMeta.ofMembers? members := by
  unfold TypeMeta.ofMembers?
  rw [find?_erase, if_neg (by decide), find?_erase, if_neg (by decide)]

/-- An ordered object is decoded into its parts, if its metadata is decoded. -/
lemma ofValue_object {members : List (String × Json)} (ordered : (Json.object members).Ordered) :
    decoder.ofValue (.object members) = (readMetadata? members).map (ofParts members) := by
  have others : (Json.object (erase "metadata" members)).Ordered :=
    ordered.sublist List.filter_sublist
  show Except.bind (readMembers .value none (Document.ofMembers members)) _ = _
  rw [readMembers_of_sorted ordered.1, normalizeMembers_of_ordered others.2]
  cases readMetadata? members with
  | error e => rfl
  | ok found =>
    have left : insertAll [] (TypeMeta.withoutNames (erase "metadata" members)) = dataOf members :=
      insertAll_of_sorted (ordered_dataOf ordered).1
    show Except.ok (ε := DecodeError) _ = Except.ok _
    rw [TypeMeta.extract_of_sorted others.1]
    simp only [ofMembers?_erase_metadata, left, ofParts]

/-- An ordered value is decoded as an object without a schema if it is an object and its metadata
can be read, and its members are divided among the parts. -/
theorem ofValue_eq_ok_iff {v : Json} (ordered : v.Ordered) {o : DynamicObject} :
    decoder.ofValue v = .ok o ↔
      ∃ members found, v = .object members ∧ readMetadata? members = .ok found ∧
        ofParts members found = o := by
  cases v with
  | object members =>
    rw [ofValue_object ordered, map_eq_ok_iff]
    simp
  | null | bool | number | string | array =>
    constructor
    · intro decoded
      cases decoded
    · rintro ⟨members, found, e, _⟩
      cases e

/-- An object is written as its names, its metadata and its data, in order. -/
lemma toValue_of_flatMembers {o : DynamicObject} {data : List (String × Json)}
    (flat : o.data.flatMembers = .ok data) :
    o.toValue = .ok (normalize (.object (TypeMeta.optionalMembers o.typeMeta ++
      ("metadata", o.objectMeta.toJson) :: data))) := by
  simp only [toValue, toJson, members, flat]
  rfl

/-- What is written under a key comes from the data, or else from the metadata and the names. -/
theorem member?_written (typeMeta : Option TypeMeta) (objectMeta : Json)
    {data : List (String × Json)} (ordered : (Json.object data).Ordered) (key : String) :
    (normalize (.object (TypeMeta.optionalMembers typeMeta ++ ("metadata", objectMeta) ::
        data))).member? key =
      (find? key data).or ((find? key
        (("metadata", objectMeta) :: TypeMeta.optionalMembers typeMeta)).map normalize) := by
  have names : Sorted (TypeMeta.optionalMembers typeMeta) := by
    cases typeMeta with
    | none => exact List.Pairwise.nil
    | some names =>
      refine List.pairwise_cons.2 ⟨?_, List.pairwise_singleton _ _⟩
      intro other member
      cases List.mem_singleton.1 member
      show "apiVersion" < "kind"
      decide
  rw [member?_normalize, List.reverse_append, List.reverse_cons, List.append_assoc, find?_append,
    find?_append, find?_reverse ordered.1, find?_reverse names, Option.map_or,
    map_normalize_find? ordered.2]
  congr 2
  by_cases same : "metadata" = key <;> simp [find?, same]

end DynamicObject

end KindResolution
