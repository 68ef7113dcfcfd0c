import KindResolution.Proofs.Cache.Filling

/-!
# Transparency

When a cache over a scheme and a mapper answers as an empty one would. For objects whose type says
their kind it always does: `Registry.typed_transparent`. For objects that declare their kind it does
not: the place of a record is found by the declared kind alone, but a list has the record of its
items, so a list and a single object that declare one kind compete for one place.
`Registry.schemaless_transparent_iff` says when the answer is the same all the same. An empty cache
answers with what is assembled for the object: `Registry.firstOutcome_eq`.
-/

namespace KindResolution

/-- A resolution asks for the place of a kind only for objects that declare it. -/
lemma CacheCall.declaresKind_of_place {C : Type} {w : Collaborators C} {call : CacheCall} {kind}
    (resolved : call.question = .resolve) (asked : call.place w = .ok (.kind kind)) :
    call.type.declaresKind = true := by
  cases declares : call.type.declaresKind with
  | true => rfl
  | false => simp [place, resolved, declares] at asked

namespace Registry

/-- The client in a record has the codec of the type that the record was made for. -/
lemma codec_of_assemble {r : Registry} {config : Config} {t : ObjectType} {o : Object t}
    {m : KindRecord Client} (built : (r.collaborators.assemble config o).outcome = .ok m) :
    m.client.codec = .ofType t := by
  obtain ⟨_, _, _, client, _⟩ := Collaborators.assemble_eq_ok_iff.1 built
  exact (Client.kind_codec_of_build client).2

/-- Of two objects of one kind, both have the record of the first exactly if their types have one
codec and records of one kind. -/
lemma assemble_eq_iff {r : Registry} {config : Config} {t t' : ObjectType} {o : Object t}
    {o' : Object t'} {kind : GroupVersionKind} {m : KindRecord Client}
    (known : r.scheme.kindOf o = .ok kind) (known' : r.scheme.kindOf o' = .ok kind)
    (built : (r.collaborators.assemble config o).outcome = .ok m) :
    (r.collaborators.assemble config o).outcome = (r.collaborators.assemble config o').outcome ↔
      t.declaresKind = t'.declaresKind ∧ recordKind t kind = recordKind t' kind := by
  constructor
  · intro same
    have built' := same.symm.trans built
    obtain ⟨_, k, e, _⟩ := Collaborators.assemble_eq_ok_iff.1 built
    obtain ⟨_, k', e', _⟩ := Collaborators.assemble_eq_ok_iff.1 built'
    cases known.symm.trans k
    cases known'.symm.trans k'
    refine ⟨Codec.ofType_eq_iff.1 ?_, e.symm.trans e'⟩
    exact (codec_of_assemble built).symm.trans (codec_of_assemble built')
  · rintro ⟨codecs, records⟩
    apply Collaborators.assemble_congr (known.trans known'.symm) (Codec.ofType_eq_iff.2 codecs)
    intro kind' k
    cases known.symm.trans k
    exact records

/-- A call that asks for the place of a type that says the kind of its objects is answered as if
nothing had been asked before. -/
lemma answer_typed (r : Registry) (config : Config) (history : List CacheCall) (call : CacheCall)
    (typed : call.type.declaresKind = false)
    (asked : call.place r.collaborators = .ok (.type call.type)) :
    ((r.cacheAfter config history).answer r.collaborators call).recordOutcome =
      (r.collaborators.assemble config call.object).outcome.bind call.finish := by
  rw [cacheAfter, Cache.recordOutcome_answer_after, asked]
  show (r.collaborators.assemble config (Option.getD _ call).object).outcome.bind _ = _
  congr 1
  cases filled : Cache.filler? r.collaborators config (.type call.type) history with
  | none => rfl
  | some first =>
    obtain ⟨question, t, o⟩ := first
    obtain ⟨_, askedFirst, _⟩ := Cache.filler?_spec filled
    obtain rfl : t = call.type := CacheCall.type_of_place askedFirst
    have kinds := r.scheme.kindOf_eq_of_not_declares o call.object typed
    exact Collaborators.assemble_congr kinds rfl fun _ _ => rfl

/-- What was asked before does not change what an object resolves to whose type says its kind. -/
theorem typed_transparent (r : Registry) (config : Config) (history : List CacheCall)
    {t : ObjectType} (o : Object t) (typed : t.declaresKind = false) :
    ((r.cacheAfter config history).resolve r.collaborators o).recordOutcome =
        ((Cache.ofConfig config).resolve r.collaborators o).recordOutcome ∧
      ((r.cacheAfter config history).resolveUnderType r.collaborators o).recordOutcome =
        ((Cache.ofConfig config).resolveUnderType r.collaborators o).recordOutcome := by
  have place : CacheCall.place r.collaborators ⟨.resolve, t, o⟩ = .ok (.type t) :=
    if_neg (by simp [typed])
  constructor
  · have after := r.answer_typed config history ⟨.resolve, t, o⟩ typed place
    have fresh := r.answer_typed config [] ⟨.resolve, t, o⟩ typed place
    exact after.trans fresh.symm
  · have after := r.answer_typed config history ⟨.byType, t, o⟩ typed rfl
    have fresh := r.answer_typed config [] ⟨.byType, t, o⟩ typed rfl
    exact after.trans fresh.symm

/-- A widget with a schema resolves the same after one without took the place of its kind. -/
theorem typed_transparent_widget :
    Widgets.type.declaresKind = false ∧
      ((Widgets.cache
          [⟨.byType, .dynamic, Widgets.dynamic Widgets.kind⟩,
            ⟨.resolve, .dynamic, Widgets.dynamic Widgets.kind⟩,
            ⟨.byKind, Widgets.type, Widgets.typed⟩]).resolve
        Widgets.registry.collaborators Widgets.typed).recordOutcome =
      ((Widgets.cache []).resolve Widgets.registry.collaborators Widgets.typed).recordOutcome :=
  ⟨rfl, (typed_transparent Widgets.registry Widgets.config _ Widgets.typed rfl).1⟩

/-- An object that declares no kind fails to resolve in the same way in all caches. -/
lemma resolve_undeclared (r : Registry) (c : Cache Client) {t : ObjectType} (o : Object t)
    {e : KindError} (declares : t.declaresKind = true) (unknown : r.scheme.kindOf o = .error e) :
    (c.resolve r.collaborators o).recordOutcome = .error (.kind e) := by
  have key := r.outcome_kindKey o
  rw [unknown] at key
  rw [Cache.recordOutcome_resolve, CacheCall.place, if_pos declares, key]
  rfl

/-- An object that declares a kind resolves to the record that is assembled for the object that
filled the place of the kind, or else for the object itself. -/
lemma resolve_declared (r : Registry) (config : Config) (history : List CacheCall) {t : ObjectType}
    (o : Object t) {kind : GroupVersionKind} (declares : t.declaresKind = true)
    (known : r.scheme.kindOf o = .ok kind) :
    ((r.cacheAfter config history).resolve r.collaborators o).recordOutcome =
      (r.collaborators.assemble config
        ((Cache.filler? r.collaborators config (.kind kind) history).getD
          ⟨.resolve, t, o⟩).object).outcome := by
  have key := r.outcome_kindKey o
  rw [known] at key
  have asked : CacheCall.place r.collaborators ⟨.resolve, t, o⟩ = .ok (.kind kind) := by
    rw [CacheCall.place, if_pos declares, key]
    rfl
  have answered := Cache.recordOutcome_answer_after config r.collaborators history ⟨.resolve, t, o⟩
  rw [asked] at answered
  exact answered.trans (bind_ok _)

/-- What an object resolves to on a cache that knows nothing. -/
def firstOutcome (r : Registry) (config : Config) {t : ObjectType} (o : Object t) :
    Except ResolveError (KindRecord Client) :=
  ((Cache.ofConfig config).resolve r.collaborators o).recordOutcome

/-- On a cache that knows nothing, an object resolves to what is assembled for it. -/
lemma firstOutcome_eq (r : Registry) (config : Config) {t : ObjectType} (o : Object t) :
    r.firstOutcome config o = (r.collaborators.assemble config o).outcome := by
  cases declares : t.declaresKind with
  | false =>
    have place : CacheCall.place r.collaborators ⟨.resolve, t, o⟩ = .ok (.type t) :=
      if_neg (by simp [declares])
    exact (r.answer_typed config [] ⟨.resolve, t, o⟩ declares place).trans (bind_ok _)
  | true =>
    cases known : r.scheme.kindOf o with
    | ok kind => exact r.resolve_declared config [] o declares known
    | error e =>
      -- the place of the object is not known for the reason for which its kind is not
      have unknown : r.collaborators.resolver.kindOf o = .error e := known
      rw [Collaborators.assemble_of_kindOf_error unknown]
      exact r.resolve_undeclared _ o declares known

/-- A history does not show in the resolution of an object that declares its kind exactly if what
filled its place has records of the same kind. -/
theorem schemaless_transparent_iff (r : Registry) (config : Config) (history : List CacheCall)
    (resolved : ∀ call ∈ history, call.question = .resolve) {t : ObjectType} (o : Object t)
    (declares : t.declaresKind = true) :
    ((r.cacheAfter config history).resolve r.collaborators o).recordOutcome =
        ((Cache.ofConfig config).resolve r.collaborators o).recordOutcome ↔
      ∀ kind, kindDeclared o.typeMeta? = .ok kind →
        ∀ first, Cache.filler? r.collaborators config (.kind kind) history = some first →
          first.type.isList = t.isList ∨ kind.itemKind? = none := by
  have declared := r.scheme.kindOf_of_declares o declares
  cases known : kindDeclared o.typeMeta? with
  | error e =>
    rw [known] at declared
    simp [r.resolve_undeclared _ o declares declared]
  | ok kind =>
    rw [known] at declared
    have fresh : ((Cache.ofConfig config).resolve r.collaborators o).recordOutcome =
        (r.collaborators.assemble config o).outcome :=
      r.resolve_declared config [] o declares declared
    rw [r.resolve_declared config history o declares declared, fresh]
    simp only [Except.ok.injEq, forall_eq']
    cases filled : Cache.filler? r.collaborators config (.kind kind) history with
    | none => simp
    | some first =>
      obtain ⟨member, asked, m, built⟩ := Cache.filler?_spec filled
      have codecs : first.type.declaresKind = t.declaresKind :=
        (CacheCall.declaresKind_of_place (resolved first member) asked).trans declares.symm
      rw [Option.getD_some, assemble_eq_iff (kindOf_of_place asked) declared built,
        and_iff_right codecs, recordKind_eq_iff]
      simp

/-- Lists of widgets do not stand in the way of each other. -/
theorem schemaless_transparent_widgets :
    ((Widgets.cache [⟨.resolve, .list .dynamic, Widgets.list⟩]).resolve
        Widgets.registry.collaborators Widgets.list).recordOutcome =
      ((Widgets.cache []).resolve Widgets.registry.collaborators Widgets.list).recordOutcome := by
  have resolved : ∀ call ∈ [CacheCall.mk .resolve (.list .dynamic) Widgets.list],
      call.question = .resolve := by
    simp
  apply (schemaless_transparent_iff _ _ _ resolved _ rfl).2
  intro kind _ first filled
  obtain ⟨member, _⟩ := Cache.filler?_spec filled
  cases List.mem_singleton.1 member
  exact .inl rfl

/-- A single object that declares a kind of lists stands in the way of the lists of that kind: they
resolve to its record and not to that of their items. -/
theorem schemaless_not_transparent :
    ¬ ∀ (r : Registry) (config : Config) (history : List CacheCall) (t : ObjectType) (o : Object t),
      (∀ call ∈ history, call.question = .resolve) → t.declaresKind = true →
      ((r.cacheAfter config history).resolve r.collaborators o).recordOutcome =
        ((Cache.ofConfig config).resolve r.collaborators o).recordOutcome := by
  intro transparent
  let history : List CacheCall := [⟨.resolve, .dynamic, Widgets.dynamic Widgets.kind.listKind⟩]
  have same := transparent Widgets.registry Widgets.config history _ Widgets.list (by simp [history])
    rfl
  have plurals := congrArg (fun found => found.toOption.map KindRecord.plural) same
  have after : ((Widgets.cache history).resolve Widgets.registry.collaborators
      Widgets.list).recordOutcome.toOption.map KindRecord.plural = some "widgetlists" := by decide
  have fresh : ((Widgets.cache []).resolve Widgets.registry.collaborators
      Widgets.list).recordOutcome.toOption.map KindRecord.plural = some "widgets" := by decide
  exact absurd (after.symm.trans (plurals.trans fresh)) (by decide)

end Registry

end KindResolution
