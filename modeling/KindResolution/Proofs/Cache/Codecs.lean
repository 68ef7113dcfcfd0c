import KindResolution.Proofs.Cache.Transparency

/-!
# Codecs of cached records

A client is built with the codec for the objects that it is to carry. An object that is found under
its type always gets a client with its own codec. Under a kind stand the records both of objects that
declare it and of objects whose type says it, and the one that came first decides:
`Registry.codec_answer_iff`.
-/

namespace KindResolution

/-- A call that finishes well answers with what it has found. -/
lemma CacheCall.eq_of_finish {α : Type} {call : CacheCall} {found answer : α}
    (e : call.finish found = .ok answer) : found = answer := by
  unfold finish at e
  cases question : call.question with
  | objectMeta =>
    rw [question] at e
    cases exposed : Cache.metadataOf call.object with
    | error err => rw [exposed] at e; cases e
    | ok objectMeta => rw [exposed] at e; cases e; rfl
  | resolve | byType | byKind =>
    rw [question] at e
    cases e; rfl

namespace Registry

/-- The codec of an answer is that for the type of the object that filled the place, or else of the
object itself. -/
lemma codec_answer {r : Registry} {config : Config} {history : List CacheCall} {call : CacheCall}
    {stored : Stored Client}
    (answered : ((r.cacheAfter config history).answer r.collaborators call).attempt.outcome =
      .ok stored) :
    ∃ key, call.place r.collaborators = .ok key ∧
      stored.record.client.codec =
        .ofType ((Cache.filler? r.collaborators config key history).getD call).type := by
  have recorded := Cache.recordOutcome_answer_after config r.collaborators history call
  rw [← cacheAfter, Resolution.recordOutcome, answered] at recorded
  obtain ⟨key, asked, finished⟩ := bind_eq_ok_iff.1 recorded.symm
  obtain ⟨m, built, e⟩ := bind_eq_ok_iff.1 finished
  cases CacheCall.eq_of_finish e
  exact ⟨key, asked, codec_of_assemble built⟩

/-- An answer has the codec for the object exactly if the object is found under its type, or the one
that filled the place of its kind has the same codec. -/
theorem codec_answer_iff (r : Registry) (config : Config) (history : List CacheCall)
    (call : CacheCall) (stored : Stored Client)
    (answered : ((r.cacheAfter config history).answer r.collaborators call).attempt.outcome =
      .ok stored) :
    stored.record.client.codec = (if call.type.declaresKind then .schemaless else .typed) ↔
      ∀ kind, call.place r.collaborators = .ok (.kind kind) →
        ∀ first, Cache.filler? r.collaborators config (.kind kind) history = some first →
          first.type.declaresKind = call.type.declaresKind := by
  obtain ⟨key, asked, e⟩ := codec_answer answered
  rw [e]
  show Codec.ofType _ = Codec.ofType call.type ↔ _
  rw [Codec.ofType_eq_iff, asked]
  cases key with
  | type t =>
    refine iff_of_true ?_ nofun
    cases filled : Cache.filler? r.collaborators config (.type t) history with
    | none => rfl
    | some first =>
      obtain ⟨_, askedFirst, _⟩ := Cache.filler?_spec filled
      rw [Option.getD_some, CacheCall.type_of_place askedFirst, CacheCall.type_of_place asked]
  | kind kind =>
    simp only [Except.ok.injEq, CacheKey.kind.injEq, forall_eq']
    cases filled : Cache.filler? r.collaborators config (.kind kind) history with
    | none => simp
    | some first => simp

/-- Objects of a kind that declare it do not stand in the way of each other, whatever is found under
their type. -/
theorem codec_answer_widget : ∃ stored : Stored Client,
    ((Widgets.cache
        [⟨.byType, Widgets.type, Widgets.typed⟩,
          ⟨.resolve, .dynamic, Widgets.dynamic Widgets.kind⟩]).answer Widgets.registry.collaborators
      ⟨.resolve, .dynamic, Widgets.dynamic Widgets.kind⟩).attempt.outcome = .ok stored ∧
      stored.record.client.codec = .schemaless := by
  let call : CacheCall := ⟨.resolve, .dynamic, Widgets.dynamic Widgets.kind⟩
  let history : List CacheCall := [⟨.byType, Widgets.type, Widgets.typed⟩, call]
  have succeeds : ((Widgets.cache history).answer Widgets.registry.collaborators
      call).attempt.outcome.toOption.isSome = true := by decide
  cases answered : ((Widgets.cache history).answer Widgets.registry.collaborators
      call).attempt.outcome with
  | error err => rw [answered] at succeeds; cases succeeds
  | ok stored =>
    refine ⟨stored, rfl, (codec_answer_iff _ _ history call stored answered).2 ?_⟩
    intro kind _ first filled
    obtain ⟨member, asked, _⟩ := Cache.filler?_spec filled
    rcases List.mem_cons.1 member with rfl | member
    · cases asked
    · cases List.mem_singleton.1 member
      rfl

/-- An object with a schema that is put under its kind stands in the way of the objects without one:
they get its client, which treats their bodies as typed. -/
theorem codec_not_own :
    ¬ ∀ (r : Registry) (config : Config) (history : List CacheCall) (call : CacheCall)
      (stored : Stored Client), call.question = .resolve ∨ call.question = .byKind →
      ((r.cacheAfter config history).answer r.collaborators call).attempt.outcome = .ok stored →
      stored.record.client.codec = (if call.type.declaresKind then .schemaless else .typed) := by
  intro own
  let call : CacheCall := ⟨.resolve, .dynamic, Widgets.dynamic Widgets.kind⟩
  let history : List CacheCall := [⟨.byKind, Widgets.type, Widgets.typed⟩]
  have codec : ((Widgets.cache history).answer Widgets.registry.collaborators
      call).attempt.outcome.toOption.map (·.record.client.codec) = some .typed := by decide
  cases answered : ((Widgets.cache history).answer Widgets.registry.collaborators
      call).attempt.outcome with
  | error err => rw [answered] at codec; cases codec
  | ok stored =>
    have schemaless := own Widgets.registry Widgets.config history call stored (.inl rfl) answered
    rw [answered] at codec
    cases schemaless.symm.trans (Option.some.inj codec)

end Registry

end KindResolution
