import KindResolution.Kind
import KindResolution.Proofs.Text.Separator

/-!
# Reading API versions

The text that names a version of a group is read as just that version, if the names in it keep to
the rules, and nothing else is read: `GroupVersion.parse_eq_ok_iff`. So names that are read are
those of the kind that is read from them, and a kind with such names is read back from what its
objects carry (`TypeMeta.groupVersionKind_eq_ok_iff`).
-/

namespace KindResolution

open Text

namespace GroupVersion

/-- A version and its group have names that can be told apart once they are joined. -/
structure WellNamed (gv : GroupVersion) : Prop where
  version_ne_empty : gv.version ≠ ""
  slash_not_mem_group : '/' ∉ gv.group.toList
  slash_not_mem_version : '/' ∉ gv.version.toList

/-- A text without a slash is a version of the core group, unless it is empty. -/
lemma parse_of_not_mem {s : String} (plain : '/' ∉ s.toList) :
    parse s = if s = "" then .error ⟨s⟩ else .ok ⟨"", s⟩ := by
  have first : s.toList.takeWhile (· != '/') = s.toList :=
    List.takeWhile_eq_self_iff.2 (forall_bne_of_not_mem plain)
  unfold parse
  simp only [first, List.drop_length, List.isEmpty_iff, String.toList_eq_nil_iff]

/-- A text with a slash is a group and a version, unless one of them is empty or there is another
slash in the version. -/
lemma parse_of_append {s : String} {group version : List Char}
    (cut : s.toList = group ++ '/' :: version) (plain : '/' ∉ group) :
    parse s = if group = [] ∨ version = [] ∨ '/' ∈ version then .error ⟨s⟩
      else .ok ⟨String.ofList group, String.ofList version⟩ := by
  have first : (group ++ '/' :: version).takeWhile (· != '/') = group :=
    takeWhile_append_cons _ (forall_bne_of_not_mem plain) (by decide)
  unfold parse
  rw [cut]
  simp [first, or_assoc]

/-- A version of the core group stands alone. -/
lemma apiVersion_core (version : String) : (⟨"", version⟩ : GroupVersion).apiVersion = version := by
  rw [apiVersion, joinGroupVersion, if_pos rfl]

/-- In the text of a version of a named group, the group ends at a slash. -/
lemma toList_apiVersion {gv : GroupVersion} (named : gv.group ≠ "") :
    gv.apiVersion.toList = gv.group.toList ++ '/' :: gv.version.toList := by
  rw [apiVersion, joinGroupVersion, if_neg named]
  simp

/-- A version is read from a text exactly if it is well-named and joined to that text. -/
theorem parse_eq_ok_iff {s : String} {gv : GroupVersion} :
    parse s = .ok gv ↔ s = gv.apiVersion ∧ gv.WellNamed := by
  constructor
  · intro read
    by_cases slash : '/' ∈ s.toList
    · obtain ⟨group, version, cut, plain⟩ := List.eq_append_cons_of_mem slash
      rw [parse_of_append cut plain] at read
      split at read
      · cases read
      · next named =>
        simp only [not_or] at named
        obtain ⟨groupNonempty, versionNonempty, versionPlain⟩ := named
        cases read
        have nonempty : String.ofList group ≠ "" := by simpa [← String.toList_inj]
        refine ⟨?_, ?_, ?_, ?_⟩
        · rw [← String.toList_inj, toList_apiVersion nonempty, cut]
          simp
        · simpa [← String.toList_inj]
        · simpa
        · simpa
    · rw [parse_of_not_mem slash] at read
      split at read
      · cases read
      · next nonempty =>
        cases read
        exact ⟨(apiVersion_core s).symm, nonempty, by simp, slash⟩
  · rintro ⟨rfl, nonempty, group, version⟩
    obtain ⟨g, v⟩ := gv
    by_cases core : g = ""
    · subst core
      rw [apiVersion_core, parse_of_not_mem version, if_neg nonempty]
    · have named : ¬ (g.toList = [] ∨ v.toList = [] ∨ '/' ∈ v.toList) := by
        simp only [String.toList_eq_nil_iff, not_or]
        exact ⟨core, nonempty, version⟩
      rw [parse_of_append (toList_apiVersion core) group, if_neg named]
      simp

/-- A text that is refused comes back with the error. -/
lemma text_of_parse {s : String} {e : MalformedApiVersion} (refused : parse s = .error e) :
    e.text = s := by
  by_cases slash : '/' ∈ s.toList
  · obtain ⟨group, version, cut, plain⟩ := List.eq_append_cons_of_mem slash
    rw [parse_of_append cut plain] at refused
    split at refused
    · cases refused; rfl
    · cases refused
  · rw [parse_of_not_mem slash] at refused
    split at refused
    · cases refused; rfl
    · cases refused

/-- A name that can be told apart from another one that a slash separates it from. -/
def IsPart (s : String) : Prop :=
  s ≠ "" ∧ '/' ∉ s.toList

/-- The texts that spell a version: the version alone, or its group and the version behind a
slash. -/
inductive Spells : String → GroupVersion → Prop where
  | core {version} :
    IsPart version →
    Spells version ⟨"", version⟩
  | named {group version} :
    IsPart group →
    IsPart version →
    Spells (group ++ "/" ++ version) ⟨group, version⟩

/-- The text of a well-named version spells it, and no other text does. -/
lemma spells_iff {s : String} {gv : GroupVersion} :
    Spells s gv ↔ s = gv.apiVersion ∧ gv.WellNamed := by
  constructor
  · rintro (⟨nonempty, plain⟩ | ⟨⟨named, group⟩, nonempty, plain⟩)
    · exact ⟨(apiVersion_core _).symm, nonempty, by simp, plain⟩
    · exact ⟨(if_neg named).symm, nonempty, group, plain⟩
  · rintro ⟨rfl, nonempty, group, plain⟩
    obtain ⟨g, v⟩ := gv
    by_cases core : g = ""
    · subst core
      rw [apiVersion_core]
      exact .core ⟨nonempty, plain⟩
    · have joined : apiVersion ⟨g, v⟩ = g ++ "/" ++ v := if_neg core
      rw [joined]
      exact .named ⟨core, group⟩ ⟨nonempty, plain⟩

/-- A text is refused exactly if it spells no version, and the error names it. -/
lemma parse_eq_error_iff {s : String} {e : MalformedApiVersion} :
    parse s = .error e ↔ (∀ gv, ¬ Spells s gv) ∧ e = ⟨s⟩ := by
  constructor
  · intro refused
    constructor
    · intro gv spells
      cases refused.symm.trans (parse_eq_ok_iff.2 (spells_iff.1 spells))
    · rw [← text_of_parse refused]
  · rintro ⟨none, rfl⟩
    cases read : parse s with
    | ok gv => exact absurd (spells_iff.2 (parse_eq_ok_iff.1 read)) (none gv)
    | error e => rw [← text_of_parse read]

end GroupVersion

namespace TypeMeta

/-- The kind that an object with the given names is of is the one with these names, if the version
of its group is well-named. -/
theorem groupVersionKind_eq_ok_iff {names : TypeMeta} {kind : GroupVersionKind} :
    names.groupVersionKind = .ok kind ↔ names = ofKind kind ∧ kind.groupVersion.WellNamed := by
  unfold groupVersionKind
  constructor
  · intro read
    cases parsed : GroupVersion.parse names.apiVersion with
    | error e => rw [parsed] at read; cases read
    | ok gv =>
      rw [parsed] at read
      cases read
      obtain ⟨joined, wellNamed⟩ := GroupVersion.parse_eq_ok_iff.1 parsed
      obtain ⟨apiVersion, kind⟩ := names
      cases joined
      exact ⟨rfl, wellNamed⟩
  · rintro ⟨rfl, wellNamed⟩
    have parsed : GroupVersion.parse (ofKind kind).apiVersion = .ok kind.groupVersion :=
      GroupVersion.parse_eq_ok_iff.2 ⟨rfl, wellNamed⟩
    rw [parsed]
    rfl

/-- The names of a kind are read as the kind. -/
lemma groupVersionKind_ofKind {kind : GroupVersionKind} (nonempty : kind.version ≠ "")
    (group : '/' ∉ kind.group.toList) (version : '/' ∉ kind.version.toList) :
    (ofKind kind).groupVersionKind = .ok kind :=
  groupVersionKind_eq_ok_iff.2 ⟨rfl, nonempty, group, version⟩

end TypeMeta

end KindResolution
