import KindResolution.Cache.History
import KindResolution.Proofs.Cache.Assembly

/-!
# What one call does

A call asks for one place of a cache and fetches the record for it; the question for the metadata
looks at the object only after that. `Cache.answer_eq` says this of all the ways of asking, and
`Cache.answer_cases` lists what can come of it: there is no place, the record is there, it is built,
or it cannot be built.
-/

namespace KindResolution

variable {C : Type}

namespace CacheCall

/-- The place that a call asks for. The place of an object that has no kind is not known. -/
def place (w : Collaborators C) (call : CacheCall) : Except ResolveError CacheKey :=
  match call.question with
  | .byType => .ok (.type call.type)
  | .byKind => (Cache.kindKey w call.object).outcome.map .kind
  | .resolve | .objectMeta =>
    if call.type.declaresKind then (Cache.kindKey w call.object).outcome.map .kind
    else .ok (.type call.type)

/-- A call asks for the place of the type of its object, or for that of the kind that is its key. -/
lemma place_cases (w : Collaborators C) (call : CacheCall) :
    call.place w = .ok (.type call.type) ∨
      call.place w = (Cache.kindKey w call.object).outcome.map .kind := by
  obtain ⟨question, t, o⟩ := call
  cases question with
  | byType => exact .inl rfl
  | byKind => exact .inr rfl
  | resolve | objectMeta =>
    unfold place
    cases t.declaresKind with
    | true => exact .inr rfl
    | false => exact .inl rfl

/-- A call that is placed under a type is about an object of that type. -/
lemma type_of_place {w : Collaborators C} {call : CacheCall} {t}
    (asked : call.place w = .ok (.type t)) : call.type = t := by
  obtain e | e := place_cases w call
  · rw [e] at asked
    cases asked; rfl
  · rw [e] at asked
    cases key : (Cache.kindKey w call.object).outcome <;> rw [key] at asked <;> cases asked

/-- A call that asks for the place of a kind is about an object that has this kind as its key. -/
lemma kindKey_of_place {w : Collaborators C} {call : CacheCall} {kind}
    (asked : call.place w = .ok (.kind kind)) :
    (Cache.kindKey w call.object).outcome = .ok kind := by
  obtain e | e := place_cases w call
  · rw [e] at asked
    cases asked
  · rw [e] at asked
    cases key : (Cache.kindKey w call.object).outcome with
    | error e => rw [key] at asked; cases asked
    | ok found => rw [key] at asked; cases asked; rfl

/-- What is asked of others in order to find the place of a call. -/
def placeCalls (w : Collaborators C) (call : CacheCall) : List Call :=
  match call.question with
  | .byType => []
  | .byKind => (Cache.kindKey w call.object).calls
  | .resolve | .objectMeta =>
    if call.type.declaresKind then (Cache.kindKey w call.object).calls else []

/-- Nothing but kinds is asked for in order to find a place. -/
lemma eq_kindOf_of_mem_placeCalls {w : Collaborators C} {call : CacheCall} {asked : Call}
    (member : asked ∈ call.placeCalls w) : asked = .kindOf := by
  have ofKey : ∀ {t} {o : Object t}, asked ∈ (Cache.kindKey w o).calls → asked = .kindOf := by
    intro t o member
    unfold Cache.kindKey at member
    split at member
    · cases member
    · exact List.mem_singleton.1 member
  obtain ⟨question, t, o⟩ := call
  cases question with
  | byType => cases member
  | byKind => exact ofKey member
  | resolve | objectMeta =>
    simp only [placeCalls] at member
    split at member
    · exact ofKey member
    · cases member

/-- What a call answers once there is a record: the question for the metadata fails for objects
that do not expose any. -/
def finish {α : Type} (call : CacheCall) (found : α) : Except ResolveError α :=
  match call.question with
  | .objectMeta => (Cache.metadataOf call.object).map fun _ => found
  | _ => .ok found

/-- What is answered is read off the record that was found, whatever is read off it. -/
lemma map_bind_finish {α β : Type} (call : CacheCall) (found : Except ResolveError α) (f : α → β) :
    (found.bind call.finish).map f = (found.map f).bind call.finish := by
  cases found with
  | error e => rfl
  | ok a =>
    show (call.finish a).map f = call.finish (f a)
    unfold finish
    cases call.question with
    | objectMeta => cases Cache.metadataOf call.object <;> rfl
    | resolve | byType | byKind => rfl

end CacheCall

namespace Cache

/-- What fetching a record does, in the three cases that there are: the record is there, it is
built, or it cannot be built. -/
lemma fetch_cases (c : Cache C) (key : CacheKey) (a : Attempt (KindRecord C)) :
    (∃ stored, c.find? key = some stored ∧
      c.fetch key a = ⟨{ outcome := .ok stored }, c⟩) ∨
    (∃ m, c.find? key = none ∧ a.outcome = .ok m ∧
      c.fetch key a = ⟨{ outcome := .ok ⟨c.built, m⟩, calls := a.calls }, c.store key m⟩) ∨
    (∃ e, c.find? key = none ∧ a.outcome = .error e ∧
      c.fetch key a = ⟨{ outcome := .error e, calls := a.calls }, c⟩) := by
  unfold fetch
  cases found : c.find? key with
  | some stored => exact .inl ⟨stored, rfl, rfl⟩
  | none =>
    cases built : a.outcome with
    | ok m => exact .inr (.inl ⟨m, rfl, rfl, rfl⟩)
    | error e => exact .inr (.inr ⟨e, rfl, rfl, rfl⟩)

/-- Fetches the record for a place, unless it is not known; `asked` is what it took to find the
place. -/
def fetchPlace (c : Cache C) (place : Except ResolveError CacheKey) (asked : List Call)
    (a : Attempt (KindRecord C)) : Resolution C (Stored C) :=
  match place with
  | .error e => ⟨{ outcome := .error e, calls := asked }, c⟩
  | .ok key =>
    let found := c.fetch key a
    ⟨{ outcome := found.attempt.outcome, calls := asked ++ found.attempt.calls }, found.cache⟩

/-- Resolving an object by its kind fetches the record for the kind. -/
lemma resolveUnderKind_eq (c : Cache C) (w : Collaborators C) {t : ObjectType} (o : Object t) :
    c.resolveUnderKind w o =
      c.fetchPlace ((kindKey w o).outcome.map .kind) (kindKey w o).calls
        (w.assemble c.config o) := by
  cases key : (kindKey w o).outcome with
  | error e => simp only [resolveUnderKind, key]; rfl
  | ok kind => simp only [resolveUnderKind, key]; rfl

/-- Resolving an object fetches the record for its place. -/
lemma resolve_eq (c : Cache C) (w : Collaborators C) {t : ObjectType} (o : Object t) :
    c.resolve w o =
      c.fetchPlace (CacheCall.place w ⟨.resolve, t, o⟩) (CacheCall.placeCalls w ⟨.resolve, t, o⟩)
        (w.assemble c.config o) := by
  unfold resolve CacheCall.place CacheCall.placeCalls
  rw [Object.isDeclared_identity]
  cases t.declaresKind with
  | true => exact c.resolveUnderKind_eq w o
  | false => rfl

/-- The question for the metadata resolves the object and then looks at it. -/
lemma answer_objectMeta (c : Cache C) (w : Collaborators C) {t : ObjectType} (o : Object t) :
    c.answer w ⟨.objectMeta, t, o⟩ =
      ⟨{ outcome := (c.resolve w o).attempt.outcome.bind (CacheCall.finish ⟨.objectMeta, t, o⟩)
         calls := (c.resolve w o).attempt.calls },
        (c.resolve w o).cache⟩ := by
  simp only [answer, resolveWithMetadata, Attempt.bind]
  cases (c.resolve w o).attempt.outcome with
  | error e => rfl
  | ok stored =>
    cases exposed : metadataOf o <;>
      simp [exposed, Except.map, Except.bind, CacheCall.finish]

/-- The answer to a call, however it asks: the record for its place is fetched, and the object is
looked at where its metadata is asked for. -/
lemma answer_eq (c : Cache C) (w : Collaborators C) (call : CacheCall) :
    c.answer w call =
      let found := c.fetchPlace (call.place w) (call.placeCalls w) (w.assemble c.config call.object)
      ⟨{ outcome := found.attempt.outcome.bind call.finish, calls := found.attempt.calls },
        found.cache⟩ := by
  -- all questions but the one for the metadata hand out what was fetched
  have finished : ∀ found : Resolution C (Stored C),
      found = ⟨{ outcome := found.attempt.outcome.bind .ok, calls := found.attempt.calls },
        found.cache⟩ := by
    intro found
    rw [bind_ok]
  obtain ⟨question, t, o⟩ := call
  cases question with
  | byType => exact finished (c.resolveUnderType w o)
  | byKind => exact (c.resolveUnderKind_eq w o).trans (finished _)
  | resolve => exact (c.resolve_eq w o).trans (finished _)
  | objectMeta =>
    rw [answer_objectMeta, resolve_eq]
    rfl

/-- A call that finds its place filled hands out the record that is there, and nothing is built. -/
lemma answer_of_found {c : Cache C} {w : Collaborators C} {call : CacheCall} {key : CacheKey}
    {stored : Stored C} (asked : call.place w = .ok key) (found : c.find? key = some stored) :
    c.answer w call = ⟨{ outcome := call.finish stored, calls := call.placeCalls w }, c⟩ := by
  simp only [answer_eq, fetchPlace, fetch, asked, found, List.append_nil]
  rfl

/-- What can come of a call: there is no place, or the record is in its place, or it is built, or it
cannot be built. -/
lemma answer_cases (c : Cache C) (w : Collaborators C) (call : CacheCall) :
    (∃ e, call.place w = .error e ∧
      c.answer w call = ⟨{ outcome := .error e, calls := call.placeCalls w }, c⟩) ∨
    (∃ key stored, call.place w = .ok key ∧ c.find? key = some stored ∧
      c.answer w call = ⟨{ outcome := call.finish stored, calls := call.placeCalls w }, c⟩) ∨
    (∃ key m, call.place w = .ok key ∧ c.find? key = none ∧
      (w.assemble c.config call.object).outcome = .ok m ∧
      c.answer w call =
        ⟨{ outcome := call.finish ⟨c.built, m⟩
           calls := call.placeCalls w ++ (w.assemble c.config call.object).calls },
          c.store key m⟩) ∨
    (∃ key e, call.place w = .ok key ∧ c.find? key = none ∧
      (w.assemble c.config call.object).outcome = .error e ∧
      c.answer w call =
        ⟨{ outcome := .error e
           calls := call.placeCalls w ++ (w.assemble c.config call.object).calls }, c⟩) := by
  rw [answer_eq]
  cases asked : call.place w with
  | error e => exact .inl ⟨e, rfl, rfl⟩
  | ok key =>
    obtain ⟨stored, found, e⟩ | ⟨m, empty, built, e⟩ | ⟨err, empty, built, e⟩ :=
      c.fetch_cases key (w.assemble c.config call.object)
    · refine .inr (.inl ⟨key, stored, rfl, found, ?_⟩)
      simp only [fetchPlace, e, List.append_nil]
      rfl
    · refine .inr (.inr (.inl ⟨key, m, rfl, empty, built, ?_⟩))
      simp only [fetchPlace, e]
      rfl
    · refine .inr (.inr (.inr ⟨key, err, rfl, empty, built, ?_⟩))
      simp only [fetchPlace, e]
      rfl

end Cache

end KindResolution
