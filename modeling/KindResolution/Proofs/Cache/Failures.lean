import KindResolution.Proofs.Cache.Filling

/-!
# Failures leave no trace

A call can fail for want of a record, or because the object does not expose the metadata that is
asked for. In the first case the cache is as it was before; in the second it is as after resolving
the object, which succeeds (`Cache.answer_error_cases`). So the calls of a run that fail for want of
a record can be left out of it: `Cache.run_withoutFailures` and `Cache.runOutcomes_withoutFailures`.
-/

namespace KindResolution

variable {C : Type}

/-- Whether an error says that there is no record for an object. -/
def ResolveError.lacksRecord : ResolveError → Bool
  | .kind _ | .mapping _ | .client _ => true
  | .metadata _ => false

/-- An error of the assembly leaves no record. -/
lemma Collaborators.lacksRecord_of_assemble {w : Collaborators C} {config : Config} {t : ObjectType}
    {o : Object t} {e : ResolveError} (failed : (w.assemble config o).outcome = .error e) :
    e.lacksRecord = true := by
  obtain ⟨err, _, rfl⟩ | ⟨kind, _, ⟨err, _, rfl⟩ | ⟨client, _, err, _, rfl⟩⟩ :=
    assemble_eq_error_iff.1 failed
  · rfl
  · rfl
  · rfl

namespace CacheCall

/-- An error in placing a call leaves no record. -/
lemma lacksRecord_of_place {w : Collaborators C} {call : CacheCall} {e : ResolveError}
    (failed : call.place w = .error e) : e.lacksRecord = true := by
  obtain asked | asked := call.place_cases w
  · cases failed.symm.trans asked
  · cases key : (Cache.kindKey w call.object).outcome with
    | ok kind => rw [asked, key] at failed; cases failed
    | error err =>
      rw [asked, key] at failed
      cases failed
      unfold Cache.kindKey at key
      split at key
      · obtain ⟨_, _, rfl⟩ := mapError_eq_error_iff.1 key
        rfl
      · obtain ⟨_, _, rfl⟩ := mapError_eq_error_iff.1 key
        rfl

/-- What fails when there is a record is the question for the metadata. -/
lemma objectMeta_of_finish {α : Type} {call : CacheCall} {found : α} {e : ResolveError}
    (failed : call.finish found = .error e) :
    call.question = .objectMeta ∧ e.lacksRecord = false := by
  unfold finish at failed
  cases question : call.question with
  | objectMeta =>
    refine ⟨rfl, ?_⟩
    rw [question] at failed
    cases exposed : call.object.objectMeta? with
    | some objectMeta => simp only [Cache.metadataOf, exposed] at failed; cases failed
    | none => simp only [Cache.metadataOf, exposed] at failed; cases failed; rfl
  | resolve | byType | byKind =>
    rw [question] at failed
    cases failed

end CacheCall

namespace Cache

/-- An error of a resolution leaves no record. -/
lemma lacksRecord_of_resolve {c : Cache C} {w : Collaborators C} {t : ObjectType} {o : Object t}
    {e : ResolveError} (failed : (c.resolve w o).attempt.outcome = .error e) :
    e.lacksRecord = true := by
  change (c.answer w ⟨.resolve, t, o⟩).attempt.outcome = .error e at failed
  obtain ⟨err, asked, eq⟩ | ⟨key, stored, asked, found, eq⟩ | ⟨key, m, asked, empty, built, eq⟩ |
    ⟨key, err, asked, empty, built, eq⟩ := c.answer_cases w ⟨.resolve, t, o⟩
  · rw [eq] at failed
    cases failed
    exact CacheCall.lacksRecord_of_place asked
  · rw [eq] at failed
    cases failed
  · rw [eq] at failed
    cases failed
  · rw [eq] at failed
    cases failed
    exact Collaborators.lacksRecord_of_assemble built

/-- The two ways in which a call can fail: there is no record, and the cache stays as it is; or the
object is resolved, but does not expose metadata. -/
lemma answer_error_cases {c : Cache C} {w : Collaborators C} {call : CacheCall} {e : ResolveError}
    (failed : (c.answer w call).attempt.outcome = .error e) :
    (e.lacksRecord = true ∧ (c.answer w call).cache = c) ∨
    (e.lacksRecord = false ∧ call.question = .objectMeta ∧
      (c.answer w call).cache = (c.resolve w call.object).cache ∧
      ∃ stored, (c.resolve w call.object).attempt.outcome = .ok stored) := by
  -- resolving the object never fails for want of metadata, so it was not this that failed
  have resolved : call.question = .objectMeta → e.lacksRecord = false →
      (c.answer w call).cache = (c.resolve w call.object).cache ∧
        ∃ stored, (c.resolve w call.object).attempt.outcome = .ok stored := by
    intro question hasRecord
    obtain ⟨_, t, o⟩ := call
    cases question
    rw [answer_objectMeta] at failed ⊢
    refine ⟨rfl, ?_⟩
    obtain unresolved | ⟨stored, found, _⟩ := bind_eq_error_iff.1 failed
    · cases hasRecord.symm.trans (lacksRecord_of_resolve unresolved)
    · exact ⟨stored, found⟩
  obtain ⟨err, asked, eq⟩ | ⟨key, stored, asked, found, eq⟩ | ⟨key, m, asked, empty, built, eq⟩ |
    ⟨key, err, asked, empty, built, eq⟩ := c.answer_cases w call
  · rw [eq] at failed ⊢
    cases failed
    exact .inl ⟨CacheCall.lacksRecord_of_place asked, rfl⟩
  · rw [eq] at failed
    obtain ⟨question, hasRecord⟩ := CacheCall.objectMeta_of_finish failed
    exact .inr ⟨hasRecord, question, resolved question hasRecord⟩
  · rw [eq] at failed
    obtain ⟨question, hasRecord⟩ := CacheCall.objectMeta_of_finish failed
    exact .inr ⟨hasRecord, question, resolved question hasRecord⟩
  · rw [eq] at failed ⊢
    cases failed
    exact .inl ⟨Collaborators.lacksRecord_of_assemble built, rfl⟩

/-- Whether an outcome is a failure for want of a record. -/
def isFailure {α : Type} : Except ResolveError α → Bool
  | .ok _ => false
  | .error e => e.lacksRecord

/-- The turns of a run whose calls do not fail for want of a record. -/
def withoutFailures : Cache C → List (Turn C) → List (Turn C)
  | _, [] => []
  | c, turn :: rest =>
    if isFailure (c.take turn).attempt.outcome then withoutFailures (c.take turn).cache rest
    else turn :: withoutFailures (c.take turn).cache rest

/-- A turn that fails leaves the cache as it was. -/
lemma cache_take_of_isFailure {c : Cache C} {turn : Turn C}
    (failure : isFailure (c.take turn).attempt.outcome = true) : (c.take turn).cache = c := by
  cases outcome : (c.take turn).attempt.outcome with
  | ok stored => rw [outcome] at failure; cases failure
  | error e =>
    rw [outcome] at failure
    obtain ⟨_, same⟩ | ⟨hasRecord, _⟩ := answer_error_cases outcome
    · exact same
    · cases hasRecord.symm.trans failure

/-- A run leads to the same cache without the turns that fail. -/
lemma run_withoutFailures (c : Cache C) (turns : List (Turn C)) :
    c.run (c.withoutFailures turns) = c.run turns := by
  induction turns generalizing c with
  | nil => rfl
  | cons turn rest ih =>
    show _ = (c.take turn).cache.run rest
    unfold withoutFailures
    split
    · next failure => rw [← ih, cache_take_of_isFailure failure]
    · exact ih (c.take turn).cache

/-- The turns of a run that do not fail have the same outcomes without those that do. -/
lemma runOutcomes_withoutFailures (c : Cache C) (turns : List (Turn C)) :
    c.runOutcomes (c.withoutFailures turns) =
      (c.runOutcomes turns).filter fun outcome => !isFailure outcome := by
  induction turns generalizing c with
  | nil => rfl
  | cons turn rest ih =>
    unfold withoutFailures
    split
    · next failure =>
      rw [runOutcomes, List.filter_cons_of_neg (by simp [failure]), ← ih,
        cache_take_of_isFailure failure]
    · next success =>
      rw [runOutcomes, runOutcomes, List.filter_cons_of_pos (by simp [success]), ih]

/-- A call that fails leaves the cache as if it had not been made, or as resolving the object does
if only its metadata is missing. -/
theorem failures_leave_no_trace (c : Cache C) :
    (∀ (turn : Turn C) (e : ResolveError), (c.take turn).attempt.outcome = .error e →
      match e with
      | .kind _ | .client _ | .mapping _ => (c.take turn).cache = c
      | .metadata _ =>
        (c.take turn).cache = (c.resolve turn.collaborators turn.call.object).cache ∧
          ∃ stored, (c.resolve turn.collaborators turn.call.object).attempt.outcome = .ok stored) ∧
      ∀ turns : List (Turn C), c.run (c.withoutFailures turns) = c.run turns ∧
        c.runOutcomes (c.withoutFailures turns) =
          (c.runOutcomes turns).filter fun outcome => !isFailure outcome := by
  refine ⟨?_, fun turns => ⟨c.run_withoutFailures turns, c.runOutcomes_withoutFailures turns⟩⟩
  intro turn e failed
  obtain ⟨lacks, same⟩ | ⟨hasRecord, _, resolved⟩ := answer_error_cases failed
  · cases e with
    | kind | client | mapping => exact same
    | metadata => cases lacks
  · cases e with
    | kind | client | mapping => cases hasRecord
    | metadata => exact resolved

/-- Two of the five calls of an outage fail for want of a record, and the run goes the same without
them. -/
theorem failures_leave_no_trace_of_outage :
    ((ofConfig Widgets.config).withoutFailures Widgets.outage).length = 3 ∧
      (ofConfig Widgets.config).run ((ofConfig Widgets.config).withoutFailures Widgets.outage) =
        (ofConfig Widgets.config).run Widgets.outage ∧
      ((ofConfig Widgets.config).run Widgets.outage).knowsKind Widgets.kind.listKind = true :=
  ⟨by decide, ((failures_leave_no_trace (ofConfig Widgets.config)).2 Widgets.outage).1, by decide⟩

end Cache

end KindResolution
