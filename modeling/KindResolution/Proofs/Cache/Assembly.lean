import KindResolution.Cache
import KindResolution.Proofs.Kind.ListKind
import KindResolution.Proofs.Outcome

/-!
# What records are assembled from

The record for an object is assembled from the kind of the object, from whether its type is one of
lists, and from the codec for its type, and from nothing else: `Collaborators.assemble_congr`.
`Collaborators.assemble_eq_ok_iff` takes a record apart into the answers it was assembled from, and
`Collaborators.assemble_eq_error_iff` says which answer it is for want of which there is none.
-/

namespace KindResolution

variable {C : Type}

/-- To go on with the result as it is changes nothing. -/
@[simp] lemma bind_ok {α : Type} (x : Except ResolveError α) : x.bind .ok = x :=
  bind_pure x

/-- A kind is declared by the names of a type that have a kind and name a version of a group. -/
lemma kindDeclared_eq_ok_iff {typeMeta : Option TypeMeta} {kind : GroupVersionKind} :
    kindDeclared typeMeta = .ok kind ↔
      ∃ names, typeMeta = some names ∧ names.kind ≠ "" ∧ names.groupVersionKind = .ok kind := by
  cases typeMeta with
  | none => simp [kindDeclared]
  | some names =>
    by_cases empty : names.kind = ""
    · simp [kindDeclared, empty]
    · simp [kindDeclared, empty, mapError_eq_ok_iff]

/-- Two types have records of one kind exactly if both are types of lists or neither is, or the kind
is not one of lists. -/
lemma recordKind_eq_iff {t t' : ObjectType} {kind : GroupVersionKind} :
    recordKind t kind = recordKind t' kind ↔ t.isList = t'.isList ∨ kind.itemKind? = none := by
  unfold recordKind
  cases found : kind.itemKind? with
  | none => simp
  | some item =>
    have ne := GroupVersionKind.ne_of_itemKind? found
    cases t.isList <;> cases t'.isList <;> simp [ne, ne.symm]

/-- The kind of the records for the objects of a kind is the kind itself or that of the items. -/
lemma recordKind_cases (t : ObjectType) (kind : GroupVersionKind) :
    recordKind t kind = kind ∨ kind.itemKind? = some (recordKind t kind) := by
  unfold recordKind
  cases t.isList with
  | false => exact .inl rfl
  | true =>
    cases found : kind.itemKind? with
    | none => exact .inl rfl
    | some item => exact .inr rfl

/-- Two types have one codec exactly when both leave the kind to their objects or neither does. -/
lemma Codec.ofType_eq_iff {t t' : ObjectType} :
    Codec.ofType t = .ofType t' ↔ t.declaresKind = t'.declaresKind := by
  unfold Codec.ofType
  cases t.declaresKind <;> cases t'.declaresKind <;> simp

namespace Collaborators

/-- A record is assembled exactly if the kind of the object is known, a client is built for the kind
of the record, and the kind of the record is mapped. -/
theorem assemble_eq_ok_iff {w : Collaborators C} {config : Config} {t : ObjectType} {o : Object t}
    {m : KindRecord C} :
    (w.assemble config o).outcome = .ok m ↔
      ∃ kind, w.resolver.kindOf o = .ok kind ∧ m.kind = recordKind t kind ∧
        w.factory.build (.ofType t) m.kind config = .ok m.client ∧
        w.resolver.mappingOf m.kind.groupKind m.kind.version = .ok m.mapping := by
  simp only [assemble, Attempt.outcome_bind, kindOf, build, mappingOf, bind_eq_ok_iff,
    mapError_eq_ok_iff]
  constructor
  · rintro ⟨kind, known, client, built, mapping, mapped, e⟩
    cases e
    exact ⟨kind, known, rfl, built, mapped⟩
  · rintro ⟨kind, known, same, built, mapped⟩
    rw [same] at built mapped
    refine ⟨kind, known, m.client, built, m.mapping, mapped, ?_⟩
    rw [← same]

/-- The steps of an assembly are asked one after the other, and the first that fails says why there
is no record. -/
lemma assemble_eq_error_iff {w : Collaborators C} {config : Config} {t : ObjectType} {o : Object t}
    {e : ResolveError} :
    (w.assemble config o).outcome = .error e ↔
      (∃ err, w.resolver.kindOf o = .error err ∧ .kind err = e) ∨
      ∃ kind, w.resolver.kindOf o = .ok kind ∧
        ((∃ err, w.factory.build (.ofType t) (recordKind t kind) config = .error err ∧
            .client err = e) ∨
          ∃ client, w.factory.build (.ofType t) (recordKind t kind) config = .ok client ∧
            ∃ err, w.resolver.mappingOf (recordKind t kind).groupKind (recordKind t kind).version =
              .error err ∧ .mapping err = e) := by
  simp only [assemble, Attempt.outcome_bind, kindOf, build, mappingOf, bind_eq_error_iff,
    mapError_eq_error_iff, mapError_eq_ok_iff]
  simp only [reduceCtorEq, and_false, exists_false, or_false]

/-- Without a kind nothing is assembled, and the error says so. -/
lemma assemble_of_kindOf_error {w : Collaborators C} {config : Config} {t : ObjectType}
    {o : Object t} {e : KindError} (unknown : w.resolver.kindOf o = .error e) :
    (w.assemble config o).outcome = .error (.kind e) :=
  assemble_eq_error_iff.2 (.inl ⟨e, unknown, rfl⟩)

/-- Objects of two kinds have the same record if their types have one codec, and the records of
their types are of one kind. -/
lemma assemble_eq_of_recordKind {w : Collaborators C} {config : Config} {t t' : ObjectType}
    {o : Object t} {o' : Object t'} {kind kind' : GroupVersionKind}
    (known : w.resolver.kindOf o = .ok kind) (known' : w.resolver.kindOf o' = .ok kind')
    (codecs : Codec.ofType t = .ofType t') (records : recordKind t kind = recordKind t' kind') :
    (w.assemble config o).outcome = (w.assemble config o').outcome := by
  simp only [assemble, Attempt.outcome_bind, kindOf, known, known', codecs]
  show Except.bind (Except.ok kind) _ = Except.bind (Except.ok kind') _
  simp only [Except.bind, records]

/-- Objects of one kind have the same record if their types have one codec and records of one
kind. -/
theorem assemble_congr {w : Collaborators C} {config : Config} {t t' : ObjectType} {o : Object t}
    {o' : Object t'} (kinds : w.resolver.kindOf o = w.resolver.kindOf o')
    (codecs : Codec.ofType t = .ofType t')
    (records : ∀ kind, w.resolver.kindOf o = .ok kind → recordKind t kind = recordKind t' kind) :
    (w.assemble config o).outcome = (w.assemble config o').outcome := by
  cases known : w.resolver.kindOf o with
  | error e =>
    rw [assemble_of_kindOf_error known, assemble_of_kindOf_error (kinds.symm.trans known)]
  | ok kind =>
    exact assemble_eq_of_recordKind known (kinds.symm.trans known) codecs (records kind known)

end Collaborators

/-- The place of an object in the table of kinds is under the kind that the registry knows. -/
lemma Registry.outcome_kindKey (r : Registry) {t : ObjectType} (o : Object t) :
    (Cache.kindKey r.collaborators o).outcome = (r.scheme.kindOf o).mapError .kind := by
  unfold Cache.kindKey
  cases declares : t.declaresKind with
  | true => rw [o.identity_of_declares declares, r.scheme.kindOf_of_declares o declares]
  | false => rw [o.identity_of_not_declares declares]; rfl

end KindResolution
