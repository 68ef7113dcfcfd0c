import KindResolution.Proofs.DynamicObject.Parts

/-!
# What reading an object keeps

An object without a schema that is read and written again has the members that it had, but for the
names of its type: these are lost unless both stand there as texts (`DynamicObject.kept_iff`). An
object that declares an `apiVersion` alone is written without it: `DynamicObject.version_lost`.
-/

namespace KindResolution

open Json Entries

namespace Json

/-- Every member but the metadata is found in another value as it is in this one, and the other
value has no further members. -/
def KeptIn (v written : Json) : Prop :=
  ∀ key, key ≠ "metadata" → written.member? key = v.member? key

/-- Either both names of a type stand in a value as texts, or there is no member of their keys. -/
def NamesWhole (v : Json) : Prop :=
  (∃ names, v.Names names) ∨ v.member? "apiVersion" = none ∧ v.member? "kind" = none

end Json

namespace DynamicObject

/-- The members of what is written for an object that was read from a value. -/
structure Rewrites (v : Json) (o : DynamicObject) (written : Json) : Prop where
  ordered : written.Ordered
  isObject : ∃ members, written = .object members
  others : ∀ key, key ≠ "apiVersion" → key ≠ "kind" → key ≠ "metadata" →
    written.member? key = v.member? key
  metadata : written.member? "metadata" = some o.objectMeta.toJson.normalize
  whole : v.NamesWhole → written.member? "apiVersion" = v.member? "apiVersion" ∧
    written.member? "kind" = v.member? "kind"
  broken : ¬ v.NamesWhole → written.member? "apiVersion" = none ∧
    written.member? "kind" = if v.versionIsNoText then v.member? "kind" else none

/-- The names of a type are found under no other keys than theirs. -/
lemma find?_optionalMembers_other {key : String} (typeMeta : Option TypeMeta)
    (noVersion : key ≠ "apiVersion") (noKind : key ≠ "kind") :
    find? key (TypeMeta.optionalMembers typeMeta) = none := by
  cases typeMeta with
  | none => rfl
  | some names =>
    simp [TypeMeta.optionalMembers, TypeMeta.members, find?, Ne.symm noVersion, Ne.symm noKind]

/-- An object that lacks a name as a text is written without names of a type. -/
lemma ofMembers?_eq_none {members : List (String × Json)}
    (unnamed : ∀ names, ¬ (Json.object members).Names names) :
    TypeMeta.ofMembers? members = none := by
  rw [Option.eq_none_iff_forall_ne_some]
  intro names named
  exact unnamed names (TypeMeta.ofMembers?_eq_some_iff.1 named)

/-- An object is written with its data, its metadata and its names, and no more. -/
lemma toValue_ofParts {members : List (String × Json)} (found : Option ObjectMeta)
    (ordered : (Json.object members).Ordered) :
    ∃ written, (ofParts members found).toValue = .ok written ∧ written.Ordered ∧
      (∃ writtenMembers, written = .object writtenMembers) ∧
      ∀ key, written.member? key =
        (find? key (dataOf members)).or ((find? key (("metadata", (found.getD {}).toJson) ::
          TypeMeta.optionalMembers (TypeMeta.ofMembers? members))).map normalize) :=
  ⟨_, toValue_of_flatMembers rfl, ordered_normalize _, ⟨_, rfl⟩,
    member?_written _ _ (ordered_dataOf ordered)⟩

/-- Whatever can be read can be written again. -/
theorem rewrites_of_decoded {v : Json} {o : DynamicObject} (ordered : v.Ordered)
    (decoded : decoder.ofValue v = .ok o) :
    ∃ written, o.toValue = .ok written ∧ Rewrites v o written := by
  obtain ⟨members, found, rfl, _, rfl⟩ := (ofValue_eq_ok_iff ordered).1 decoded
  obtain ⟨written, encoded, orderedWritten, isObject, finds⟩ := toValue_ofParts found ordered
  refine ⟨written, encoded, ?_⟩
  constructor
  case ordered => exact orderedWritten
  case isObject => exact isObject
  case others =>
    intro key noVersion noKind noMetadata
    rw [finds, find?_dataOf_other members noVersion noKind noMetadata, find?,
      if_neg (Ne.symm noMetadata), find?_optionalMembers_other _ noVersion noKind]
    exact Option.or_none
  case metadata =>
    rw [finds, find?_dataOf_metadata]
    rfl
  case whole =>
    rintro (⟨names, named⟩ | ⟨noVersion, noKind⟩)
    · rw [finds, finds, TypeMeta.ofMembers?_eq_some_iff.2 named, find?_dataOf_apiVersion,
        find?_dataOf_kind, named.versionIsNoText, named.1, named.2]
      exact ⟨rfl, rfl⟩
    · have unnamed : ∀ names, ¬ (Json.object members).Names names := by
        intro names named
        cases noVersion.symm.trans named.1
      rw [finds, finds, ofMembers?_eq_none unnamed, find?_dataOf_apiVersion, find?_dataOf_kind,
        noVersion, noKind]
      change find? "kind" members = none at noKind
      rw [noKind, ite_self]
      exact ⟨rfl, rfl⟩
  case broken =>
    intro broken
    have unnamed : ∀ names, ¬ (Json.object members).Names names :=
      fun names named => broken (.inl ⟨names, named⟩)
    rw [finds, finds, ofMembers?_eq_none unnamed, find?_dataOf_apiVersion, find?_dataOf_kind]
    exact ⟨rfl, Option.or_none⟩

/-- A value whose names are whole is kept when it is written again. -/
lemma Rewrites.keptIn {v : Json} {o : DynamicObject} {written : Json}
    (rewrites : Rewrites v o written) (whole : v.NamesWhole) : v.KeptIn written := by
  obtain ⟨version, kind⟩ := rewrites.whole whole
  intro key noMetadata
  by_cases isVersion : key = "apiVersion"
  · exact isVersion ▸ version
  by_cases isKind : key = "kind"
  · exact isKind ▸ kind
  · exact rewrites.others key isVersion isKind noMetadata

/-- An object without a schema that was read is written with the members it had, but for its
metadata, exactly if the names of its type are there whole. -/
theorem kept_iff {v : Json} {o : DynamicObject} (ordered : v.Ordered)
    (decoded : decoder.ofValue v = .ok o) :
    ∃ written, o.toValue = .ok written ∧
      (∀ key, key ≠ "apiVersion" → key ≠ "kind" → key ≠ "metadata" →
        written.member? key = v.member? key) ∧
      (v.KeptIn written ↔ v.NamesWhole) ∧
      (¬ v.NamesWhole → written.member? "apiVersion" = none ∧
        written.member? "kind" = if v.versionIsNoText then v.member? "kind" else none) := by
  obtain ⟨written, encoded, rewrites⟩ := rewrites_of_decoded ordered decoded
  refine ⟨written, encoded, rewrites.others, ⟨?_, ?_⟩, rewrites.broken⟩
  · intro kept
    by_contra broken
    obtain ⟨noVersion, kind⟩ := rewrites.broken broken
    -- what is lost was not there, so that there is neither of the names
    have version : v.member? "apiVersion" = none :=
      (kept "apiVersion" (by decide)).symm.trans noVersion
    have isText : v.versionIsNoText = false := by
      rw [versionIsNoText, version]
      rfl
    rw [isText] at kind
    exact broken (.inr ⟨version, (kept "kind" (by decide)).symm.trans kind⟩)
  · exact rewrites.keptIn

/-- An object with a `kind` behind an `apiVersion` that is a number. -/
def numbered : Json :=
  .object [("apiVersion", .ofNat 1), ("kind", .string "Widget"),
    ("metadata", .object [("name", .string "w1")]), ("spec", .object [("replicas", .ofNat 2)])]

/-- The numbered object is ordered. -/
lemma ordered_numbered : numbered.Ordered :=
  ⟨by decide, trivial, trivial, ⟨by decide, trivial, trivial⟩, ⟨by decide, trivial, trivial⟩,
    trivial⟩

/-- The number is lost, and the `kind` stays. -/
theorem kept_iff_numbered : ∃ o written, decoder.ofValue numbered = .ok o ∧
    o.toValue = .ok written ∧ ¬ numbered.KeptIn written ∧ written.member? "apiVersion" = none ∧
      written.member? "kind" = some (.string "Widget") := by
  have unnamed : ¬ numbered.NamesWhole := by
    rintro (⟨names, version, _⟩ | ⟨version, _⟩)
    · cases version
    · cases version
  obtain ⟨written, encoded, _, kept, lost⟩ := kept_iff ordered_numbered rfl
  exact ⟨_, written, rfl, encoded, mt kept.1 unnamed, (lost unnamed).1, (lost unnamed).2⟩

/-- A config map that declares its `apiVersion`, but not its `kind`. -/
def unkinded : Json :=
  .object [("apiVersion", .string "v1"), ("data", .object [("mode", .string "fast")]),
    ("metadata", .object [("name", .string "settings")])]

/-- It is read, and it is written without the `apiVersion`. -/
theorem version_lost : ∃ o written, unkinded.Ordered ∧ decoder.ofValue unkinded = .ok o ∧
    o.toValue = .ok written ∧ unkinded.member? "apiVersion" = some (.string "v1") ∧
      written.member? "apiVersion" = none ∧ ¬ unkinded.KeptIn written := by
  have ordered : unkinded.Ordered :=
    ⟨by decide, trivial, ⟨by decide, trivial, trivial⟩, ⟨by decide, trivial, trivial⟩, trivial⟩
  refine ⟨_, _, ordered, rfl, rfl, rfl, rfl, ?_⟩
  intro kept
  cases kept "apiVersion" (by decide)

end DynamicObject

end KindResolution
