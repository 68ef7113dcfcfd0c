import KindResolution.Proofs.Cache.Lists
import KindResolution.Proofs.Client.Refusals
import KindResolution.Proofs.RestMapper.LastWrite

/-!
# First resolutions

What the resolution of an object ends in on a cache that knows nothing. The steps are taken in a
fixed order, and each of them is first described on its own: what a scheme answers for an object
(`Scheme.Answers`), why no client is built (`Config.Refused`), and of which kind the record is
(`IsRecordKind`). From these come the rules for the whole, `Registry.Resolves`, which say for every
object what comes out: `Registry.firstOutcome_eq_iff_resolves`.
-/

namespace KindResolution

/-- What a scheme answers when it is asked for the kind of an object. -/
inductive Scheme.Answers (s : Scheme) {t : ObjectType} (o : Object t) :
    Except KindError GroupVersionKind → Prop where
  | registered {kind} :
    t.declaresKind = false →
    s.find? t = some kind →
    s.Answers o (.ok kind)
  | unregistered :
    t.declaresKind = false →
    s.find? t = none →
    s.Answers o (.error (.unknownType t.name))
  | declared {names gv} :
    t.declaresKind = true →
    o.typeMeta? = some names →
    names.kind ≠ "" →
    GroupVersion.Spells names.apiVersion gv →
    s.Answers o (.ok ⟨gv.group, gv.version, names.kind⟩)
  | unnamed :
    t.declaresKind = true →
    (∀ names, o.typeMeta? = some names → names.kind = "") →
    s.Answers o (.error .undeclared)
  | malformed {names} :
    t.declaresKind = true →
    o.typeMeta? = some names →
    names.kind ≠ "" →
    (∀ gv, ¬ GroupVersion.Spells names.apiVersion gv) →
    s.Answers o (.error (.malformedVersion ⟨names.apiVersion⟩))

/-- The kind of the records for the objects of a type and of a kind. -/
inductive IsRecordKind (t : ObjectType) : GroupVersionKind → GroupVersionKind → Prop where
  | single {kind} :
    t.isList = false →
    IsRecordKind t kind kind
  | item {item} :
    t.isList = true →
    item.kind ≠ "" →
    IsRecordKind t item.listKind item
  | bare {kind} :
    t.isList = true →
    (∀ item : GroupVersionKind, item.listKind = kind → item.kind = "") →
    IsRecordKind t kind kind

/-- Names whose version is no spelling of one are refused for it. -/
lemma kindDeclared_of_malformed {names : TypeMeta} (named : names.kind ≠ "")
    (unspelled : ∀ gv, ¬ GroupVersion.Spells names.apiVersion gv) :
    kindDeclared (some names) = .error (.malformedVersion ⟨names.apiVersion⟩) := by
  have refused := GroupVersion.parse_eq_error_iff.2 ⟨unspelled, rfl⟩
  rw [kindDeclared_of_named named, TypeMeta.groupVersionKind, refused]
  rfl

namespace Scheme

variable {s : Scheme} {t : ObjectType} {o : Object t}

/-- The scheme has an answer by one of the rules. -/
lemma answers_kindOf (s : Scheme) {t : ObjectType} (o : Object t) : s.Answers o (s.kindOf o) := by
  cases declares : t.declaresKind with
  | false =>
    rw [s.kindOf_of_not_declares o declares]
    cases found : s.find? t with
    | none => exact .unregistered declares found
    | some kind => exact .registered declares found
  | true =>
    rw [s.kindOf_of_declares o declares]
    cases carried : o.typeMeta? with
    | none => exact .unnamed declares (by simp [carried])
    | some names =>
      by_cases named : names.kind = ""
      · rw [kindDeclared, if_pos named]
        apply Answers.unnamed declares
        rintro _ same
        cases carried.symm.trans same
        exact named
      · cases read : GroupVersion.parse names.apiVersion with
        | ok gv =>
          have spells := GroupVersion.spells_iff.2 (GroupVersion.parse_eq_ok_iff.1 read)
          rw [kindDeclared_of_named named, TypeMeta.groupVersionKind, read]
          exact .declared declares carried named spells
        | error e =>
          have unspelled := (GroupVersion.parse_eq_error_iff.1 read).1
          rw [kindDeclared_of_malformed named unspelled]
          exact .malformed declares carried named unspelled

/-- The rules say what the scheme answers. -/
lemma kindOf_eq_iff {answer : Except KindError GroupVersionKind} :
    s.kindOf o = answer ↔ s.Answers o answer := by
  constructor
  · rintro rfl
    exact s.answers_kindOf o
  · intro answers
    cases answers with
    | registered typed found => rw [s.kindOf_of_not_declares o typed, found]; rfl
    | unregistered typed absent => rw [s.kindOf_of_not_declares o typed, absent]; rfl
    | declared declares carried named spells =>
      have read := GroupVersion.parse_eq_ok_iff.2 (GroupVersion.spells_iff.1 spells)
      rw [s.kindOf_of_declares o declares, carried, kindDeclared_of_named named,
        TypeMeta.groupVersionKind, read]
      rfl
    | unnamed declares nameless =>
      rw [s.kindOf_of_declares o declares]
      cases carried : o.typeMeta? with
      | none => rfl
      | some names => exact if_pos (nameless names carried)
    | malformed declares carried named unspelled =>
      rw [s.kindOf_of_declares o declares, carried, kindDeclared_of_malformed named unspelled]

end Scheme

/-- The rules say of which kind the records are. -/
lemma recordKind_eq_iff_isRecordKind {t : ObjectType} {kind record : GroupVersionKind} :
    recordKind t kind = record ↔ IsRecordKind t kind record := by
  constructor
  · rintro rfl
    cases list : t.isList with
    | false =>
      rw [recordKind_of_single list]
      exact .single list
    | true =>
      rw [recordKind, if_pos list]
      cases found : kind.itemKind? with
      | none => exact .bare list (GroupVersionKind.itemKind?_eq_none_iff.1 found)
      | some item =>
        obtain ⟨named, rfl⟩ := GroupVersionKind.itemKind?_eq_some_iff.1 found
        exact .item list named
  · rintro (single | ⟨list, named⟩ | ⟨list, bare⟩)
    · exact recordKind_of_single single kind
    · rw [recordKind, if_pos list, GroupVersionKind.itemKind?_eq_some_iff.2 ⟨named, rfl⟩]
      rfl
    · rw [recordKind, if_pos list, GroupVersionKind.itemKind?_eq_none_iff.2 bare]
      rfl

namespace Registry

/-- What a resolution that nothing has been asked before ends in: the kind of the record, or the
first of the reasons for which there is none. -/
inductive Resolves (r : Registry) (config : Config) {t : ObjectType} (o : Object t) :
    Except ResolveError GroupVersionKind → Prop where
  | unknown {e} :
    r.scheme.Answers o (.error e) →
    r.Resolves config o (.error (.kind e))
  | refused {kind e} :
    r.scheme.Answers o (.ok kind) →
    config.Refused e →
    r.Resolves config o (.error (.client e))
  | unmapped {kind record} :
    r.scheme.Answers o (.ok kind) →
    (∀ e, ¬ config.Refused e) →
    IsRecordKind t kind record →
    r.mapper.mappings.find? record = none →
    r.Resolves config o (.error (.mapping (.unmapped record.group record.kind record.version)))
  | mapped {kind record mapping} :
    r.scheme.Answers o (.ok kind) →
    (∀ e, ¬ config.Refused e) →
    IsRecordKind t kind record →
    r.mapper.mappings.find? record = some mapping →
    r.Resolves config o (.ok record)

/-- The rules give the outcome of every first resolution. -/
lemma resolves_firstOutcome (r : Registry) (config : Config) {t : ObjectType} (o : Object t) :
    r.Resolves config o ((r.firstOutcome config o).map KindRecord.kind) := by
  rw [firstOutcome_eq]
  cases outcome : (r.collaborators.assemble config o).outcome with
  | error e =>
    obtain ⟨err, unknown, rfl⟩ |
      ⟨kind, known, ⟨err, refused, rfl⟩ | ⟨client, built, err, failed, rfl⟩⟩ :=
      Collaborators.assemble_eq_error_iff.1 outcome
    · exact .unknown (Scheme.kindOf_eq_iff.1 unknown)
    · exact .refused (Scheme.kindOf_eq_iff.1 known) (Client.build_eq_error_iff.1 refused)
    · obtain ⟨rfl, absent⟩ := RestMapper.mappingOf_eq_error_iff.1 failed
      exact .unmapped (Scheme.kindOf_eq_iff.1 known) (Client.exists_build_iff.1 ⟨client, built⟩)
        (recordKind_eq_iff_isRecordKind.1 rfl) absent
  | ok m =>
    obtain ⟨kind, known, record, built, served⟩ := Collaborators.assemble_eq_ok_iff.1 outcome
    exact .mapped (Scheme.kindOf_eq_iff.1 known) (Client.exists_build_iff.1 ⟨_, built⟩)
      (recordKind_eq_iff_isRecordKind.1 record.symm) (RestMapper.mappingOf_eq_ok_iff.1 served)

/-- On a cache that knows nothing, an object resolves to an outcome exactly if the rules say so. -/
theorem firstOutcome_eq_iff_resolves (r : Registry) (config : Config) {t : ObjectType}
    (o : Object t) (outcome : Except ResolveError GroupVersionKind) :
    (r.firstOutcome config o).map KindRecord.kind = outcome ↔ r.Resolves config o outcome := by
  constructor
  · rintro rfl
    exact r.resolves_firstOutcome config o
  · rw [firstOutcome_eq]
    intro resolves
    cases resolves with
    | unknown answers =>
      have unknown := Scheme.kindOf_eq_iff.2 answers
      exact map_eq_error_iff.2 (Collaborators.assemble_of_kindOf_error unknown)
    | @refused kind e answers refused =>
      have known := Scheme.kindOf_eq_iff.2 answers
      have failed : Client.build (.ofType t) (recordKind t kind) config = .error e :=
        Client.build_eq_error_iff.2 refused
      exact map_eq_error_iff.2 (Collaborators.assemble_eq_error_iff.2
        (.inr ⟨_, known, .inl ⟨_, failed, rfl⟩⟩))
    | @unmapped kind _ answers accepted record absent =>
      have known := Scheme.kindOf_eq_iff.2 answers
      obtain rfl := recordKind_eq_iff_isRecordKind.2 record
      -- the mapping is looked up after the client is built, which succeeds
      obtain ⟨client, built⟩ := Client.exists_build_iff.2 accepted
      have failed : r.mapper.mappingOf (recordKind t kind).groupKind (recordKind t kind).version =
          .error _ := RestMapper.mappingOf_eq_error_iff.2 ⟨rfl, absent⟩
      exact map_eq_error_iff.2 (Collaborators.assemble_eq_error_iff.2
        (.inr ⟨_, known, .inr ⟨client, built, _, failed, rfl⟩⟩))
    | mapped answers accepted record served =>
      have known := Scheme.kindOf_eq_iff.2 answers
      obtain rfl := recordKind_eq_iff_isRecordKind.2 record
      obtain ⟨client, built⟩ := Client.exists_build_iff.2 accepted
      have mapped := RestMapper.mappingOf_eq_ok_iff.2 served
      exact map_eq_ok_iff.2 ⟨⟨client, _, _⟩, Collaborators.assemble_eq_ok_iff.2
        ⟨_, known, rfl, built, mapped⟩, rfl⟩

end Registry

/-! ## Widgets that do not resolve

An object and a configuration with which there are several reasons for a failure at once. -/

namespace Widgets

/-- A configuration that does not say which cluster to reach. -/
def nowhere : Config where
  clusterUrl := { target := { spelledPath := "/" } }

/-- An object without a schema that leaves out the names of its type. -/
def unnamed : Object .dynamic :=
  ({ typeMeta := none } : DynamicObject)

end Widgets

namespace Registry

/-- Of several reasons for a failure the first counts. -/
theorem firstOutcome_eq_iff_resolves_widgets :
    (firstOutcome {} Widgets.nowhere Widgets.unnamed).map KindRecord.kind =
        .error (.kind .undeclared) ∧
      (firstOutcome {} Widgets.nowhere Widgets.list).map KindRecord.kind =
        .error (.client (.incompleteClusterUrl "/")) ∧
      (firstOutcome {} Widgets.config Widgets.list).map KindRecord.kind =
        .error (.mapping (.unmapped "apps" "Widget" "v1")) ∧
      (Widgets.registry.firstOutcome Widgets.config Widgets.list).map KindRecord.kind =
        .ok Widgets.kind := by
  have spells : GroupVersion.Spells ("apps" ++ "/" ++ "v1") ⟨"apps", "v1"⟩ :=
    .named ⟨by decide, by decide⟩ ⟨by decide, by decide⟩
  have named : (TypeMeta.ofListKind Widgets.kind).kind ≠ "" := by decide
  have answers : ∀ s : Scheme, s.Answers Widgets.list (.ok Widgets.kind.listKind) :=
    fun s => .declared rfl rfl named spells
  have accepted : ∀ e, ¬ Widgets.config.Refused e := by
    rintro e (absent | ⟨_, _, carried, _⟩)
    · revert absent
      decide
    · cases carried
  have item : IsRecordKind (.list .dynamic) Widgets.kind.listKind Widgets.kind :=
    .item rfl (by decide)
  have served : Widgets.registry.mapper.mappings.find? Widgets.kind =
      some (.ofPlural Widgets.kind "widgets" .namespaced) := by
    decide
  refine ⟨?_, ?_, ?_, ?_⟩
  · apply (firstOutcome_eq_iff_resolves _ _ _ _).2
    exact .unknown (.unnamed rfl (by intro _ e; cases e))
  · apply (firstOutcome_eq_iff_resolves _ _ _ _).2
    exact .refused (answers _) (.incompleteUrl (.inl rfl))
  · exact (firstOutcome_eq_iff_resolves _ _ _ _).2 (.unmapped (answers _) accepted item rfl)
  · exact (firstOutcome_eq_iff_resolves _ _ _ _).2 (.mapped (answers _) accepted item served)

end Registry

end KindResolution
