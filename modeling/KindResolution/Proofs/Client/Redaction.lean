import KindResolution.Proofs.Client.Completion

/-!
# Redaction

What is left of clients and requests if the credentials in them are blacked out. Under two tokens, of
which both or neither can be sent, the clients that are built are the same once they are blacked out,
and the same even without it if the configuration has credentials of its own
(`Client.build_authorizedBy`). Redacted clients do what the clients do: they write the same bodies,
and complete redacted requests to redacted requests (`Client.completeRequest_redact`).
-/

namespace KindResolution

open Http

namespace Http.HeaderList

/-- A value with credentials blacked out. -/
def redactValue (name : HeaderName) (value : HeaderValue) : HeaderValue :=
  if name = authorization then { value with text := "" } else value

/-- The header fields with credentials blacked out. -/
def redact (h : HeaderList) : HeaderList :=
  { fields := h.fields.map fun field => (field.1, redactValue field.1 field.2) }

/-- Redaction commutes with the insertion of a field. -/
lemma redact_insert (h : HeaderList) (name : HeaderName) (value : HeaderValue) :
    (h.insert name value).redact = h.redact.insert name (redactValue name value) := by
  simp [insert, redact, List.filter_map, Function.comp_def]

/-- Redaction commutes with the insertion of fields. -/
lemma redact_insertAll (h : HeaderList) (fields : List (HeaderName × HeaderValue)) :
    (h.insertAll fields).redact = h.redact.insertAll (redact ⟨fields⟩).fields := by
  induction fields generalizing h with
  | nil => rfl
  | cons field fields ih =>
    show ((h.insert field.1 field.2).insertAll fields).redact = _
    rw [ih, redact_insert]
    rfl

/-- Redaction does not change which names occur. -/
lemma contains_redact (h : HeaderList) (name : HeaderName) :
    h.redact.contains name = h.contains name := by
  simp [contains, redact, Function.comp_def]

/-- Redaction commutes with filling in a field that is absent. -/
lemma redact_insertIfAbsent (h : HeaderList) (name : HeaderName) (value : HeaderValue) :
    (h.insertIfAbsent name value).redact = h.redact.insertIfAbsent name (redactValue name value) := by
  unfold insertIfAbsent
  rw [contains_redact]
  split
  · rfl
  · exact redact_insert h name value

/-- Redaction commutes with filling in defaults. -/
lemma redact_withDefaults (h defaults : HeaderList) :
    (h.withDefaults defaults).redact = h.redact.withDefaults defaults.redact := by
  obtain ⟨fields⟩ := defaults
  induction fields generalizing h with
  | nil => rfl
  | cons field fields ih =>
    show ((h.insertIfAbsent field.1 field.2).withDefaults ⟨fields⟩).redact = _
    rw [ih, redact_insertIfAbsent]
    rfl

/-- Fields that are not credentials are left as they are. -/
lemma filter_redact (h : HeaderList) :
    (h.redact.fields.filter fun field => field.1 ≠ authorization) =
      h.fields.filter fun field => field.1 ≠ authorization := by
  show (h.fields.map _).filter _ = _
  rw [List.filter_map]
  refine (List.map_congr_left ?_).trans (List.map_id _)
  intro field isOther
  have ne : field.1 ≠ authorization := by simpa using (List.mem_filter.1 isOther).2
  exact Prod.ext rfl (if_neg ne)

/-- New credentials take the place of the old ones. -/
lemma insert_authorization_congr {h h' : HeaderList} (alike : h.redact = h'.redact)
    (value : HeaderValue) : h.insert authorization value = h'.insert authorization value := by
  unfold insert
  rw [← filter_redact h, ← filter_redact h', alike]

/-- Fields that hold credentials leave nothing of those that were there before. -/
lemma insertAll_congr {h h' : HeaderList} (alike : h.redact = h'.redact)
    {fields : List (HeaderName × HeaderValue)} (own : values ⟨fields⟩ authorization ≠ []) :
    h.insertAll fields = h'.insertAll fields := by
  induction fields generalizing h h' with
  | nil => exact absurd rfl own
  | cons field fields ih =>
    show (h.insert field.1 field.2).insertAll fields = (h'.insert field.1 field.2).insertAll fields
    by_cases isOwn : field.1 = authorization
    -- from this field on the two lists are the same
    · rw [isOwn, insert_authorization_congr alike]
    · rw [values_cons, if_neg isOwn] at own
      apply ih _ own
      rw [redact_insert, redact_insert, alike]

/-- What has credentials does not take any from defaults. -/
lemma withDefaults_redact {h : HeaderList} (own : h.values authorization ≠ [])
    (defaults : HeaderList) : h.withDefaults defaults.redact = h.withDefaults defaults := by
  obtain ⟨fields⟩ := defaults
  induction fields generalizing h with
  | nil => rfl
  | cons field fields ih =>
    show (h.insertIfAbsent field.1 (redactValue field.1 field.2)).withDefaults (redact ⟨fields⟩) =
      (h.insertIfAbsent field.1 field.2).withDefaults ⟨fields⟩
    by_cases isOwn : field.1 = authorization
    · rw [isOwn, insertIfAbsent_of_values_ne_nil _ own, insertIfAbsent_of_values_ne_nil _ own]
      exact ih own
    · rw [redactValue, if_neg isOwn]
      apply ih
      rw [values_insertIfAbsent_of_ne h field.2 (Ne.symm isOwn)]
      exact own

end Http.HeaderList

/-- The request with credentials blacked out. -/
def Http.Request.redact (request : Request) : Request :=
  { request with headers := request.headers.redact }

namespace Client

/-- The client with credentials blacked out. -/
def redact (c : Client) : Client :=
  { c with headers := c.headers.redact }

/-- Bodies do not depend on credentials. -/
lemma encode_redact (c : Client) (value : Json) : c.redact.encode value = c.encode value := rfl

/-- To complete a request is to parse its target and to send it there. -/
lemma completeRequest_eq (c : Client) (request : Request) :
    c.completeRequest request =
      ((Target.parse (c.basePath ++ (request.uri.target?.map Target.text).getD "/")).mapError
        ClientError.malformedTarget).map (c.sendTo request) := by
  show Except.bind ((Target.parse _).mapError _) _ = Except.map _ ((Target.parse _).mapError _)
  generalize (Target.parse (c.basePath ++ _)).mapError ClientError.malformedTarget = target
  cases target <;> rfl

/-- Redaction commutes with sending to a target. -/
lemma sendTo_redact (c : Client) (request : Request) (target : Target) :
    c.redact.sendTo request.redact target = (c.sendTo request target).redact := by
  have headers := HeaderList.redact_withDefaults request.headers c.headers
  simp only [sendTo, redact, Request.redact, headers]

/-- Redaction does not get into the way of completing requests. -/
theorem completeRequest_redact (c : Client) (request : Request) :
    c.redact.completeRequest request.redact = (c.completeRequest request).map Request.redact := by
  rw [completeRequest_eq, completeRequest_eq, map_map, ← funext (sendTo_redact c request)]
  rfl

/-- A request with credentials of its own is completed without those of the client. -/
theorem completeRequest_redact_of_own (c : Client) {request : Request}
    (own : request.headers.values authorization ≠ []) :
    c.redact.completeRequest request = c.completeRequest request := by
  have headers := HeaderList.withDefaults_redact own c.headers
  have sent : c.redact.sendTo request = c.sendTo request := by
    funext target
    simp only [sendTo, redact, headers]
  rw [completeRequest_eq, completeRequest_eq, sent]
  rfl

section Tokens

variable {codec : Codec} {kind : GroupVersionKind} {config : Config} {token token' : String}

/-- The values of two tokens that can be sent differ in nothing but their texts. -/
lemma redactValue_bearer {value value' : HeaderValue} (sent : bearer token = .ok value)
    (sent' : bearer token' = .ok value') :
    HeaderList.redactValue authorization value = HeaderList.redactValue authorization value' := by
  obtain ⟨parsed, _, rfl⟩ := map_eq_ok_iff.1 sent
  obtain ⟨parsed', _, rfl⟩ := map_eq_ok_iff.1 sent'
  rfl

/-- Two usable tokens, or two unusable ones, leave the same redacted fields. -/
lemma ownHeaders_redact (config : Config) (usable : (bearer token).isOk = (bearer token').isOk) :
    (ownHeaders (config.authorizedBy token)).map HeaderList.redact =
      (ownHeaders (config.authorizedBy token')).map HeaderList.redact := by
  show ((bearer token).mapError _ |>.map _).map _ = ((bearer token').mapError _ |>.map _).map _
  cases sent : bearer token with
  | error e =>
    cases sent' : bearer token' with
    | error e' =>
      cases e
      cases e'
      rfl
    | ok value' =>
      rw [sent, sent'] at usable
      cases usable
  | ok value =>
    cases sent' : bearer token' with
    | error e' =>
      rw [sent, sent'] at usable
      cases usable
    | ok value' =>
      show Except.ok (HeaderList.redact _) = Except.ok (HeaderList.redact _)
      rw [HeaderList.redact_insert, HeaderList.redact_insert, redactValue_bearer sent sent']

/-- The header fields of two clients, one for each of two tokens, differ in nothing but the
credentials, and not even in these if the configuration has some of its own. -/
lemma headersOf_authorizedBy (config : Config)
    (usable : (bearer token).isOk = (bearer token').isOk) :
    (headersOf (config.authorizedBy token)).map HeaderList.redact =
        (headersOf (config.authorizedBy token')).map HeaderList.redact ∧
      (HeaderList.values ⟨config.headers⟩ authorization ≠ [] →
        headersOf (config.authorizedBy token) = headersOf (config.authorizedBy token')) := by
  rw [headersOf_eq, headersOf_eq]
  obtain ⟨e, unusable, unusable'⟩ | ⟨own, own', made, made', alike⟩ :=
    map_eq_map_iff.1 (ownHeaders_redact config usable)
  · rw [unusable, unusable']
    exact ⟨rfl, fun _ => rfl⟩
  · rw [made, made']
    constructor
    · show Except.ok (HeaderList.redact _) = Except.ok (HeaderList.redact _)
      rw [HeaderList.redact_insertAll, HeaderList.redact_insertAll, alike]
      rfl
    · intro configured
      exact congrArg Except.ok (HeaderList.insertAll_congr alike configured)

/-- Under two tokens, of which both or neither can be sent, either no client is built, for the same
reason, or clients that differ in nothing but the credentials. -/
theorem build_authorizedBy (codec : Codec) (kind : GroupVersionKind) (config : Config)
    (usable : (bearer token).isOk = (bearer token').isOk) :
    (build codec kind (config.authorizedBy token)).map redact =
        (build codec kind (config.authorizedBy token')).map redact ∧
      (HeaderList.values ⟨config.headers⟩ authorization ≠ [] →
        build codec kind (config.authorizedBy token) =
          build codec kind (config.authorizedBy token')) := by
  obtain ⟨alike, same⟩ := headersOf_authorizedBy config usable
  have address : ∀ token, (config.authorizedBy token).clusterUrl = config.clusterUrl :=
    fun _ => rfl
  unfold build
  rw [address, address]
  cases config.clusterUrl.scheme with
  | none => exact ⟨rfl, fun _ => rfl⟩
  | some scheme =>
    dsimp only
    split
    · exact ⟨rfl, fun _ => rfl⟩
    · constructor
      · obtain ⟨e, failed, failed'⟩ | ⟨headers, headers', made, made', alike⟩ :=
          map_eq_map_iff.1 alike
        · rw [failed, failed']
          rfl
        · rw [made, made']
          show Except.ok (redact _) = Except.ok (redact _)
          simp only [redact, alike]
          rfl
      · intro configured
        rw [same configured]
        rfl

end Tokens

end Client

end KindResolution
