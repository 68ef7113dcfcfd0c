import KindResolution.Proofs.Client.Completion

/-!
# Configured header fields

What becomes of the header fields of a configuration. They are inserted into the list of a client one
after the other, and each takes the place of those of the same name, also of configured ones. So a
name that a request does not have itself gets the last of its configured values, and a field of the
configuration is sent exactly if its value is that one: `Client.configured_field_sent_iff`. A field
that stands in front of another one of its name is lost: `Client.repeated_field_lost`.
-/

namespace KindResolution

open Http

/-- The values that a configuration has for the name of a header field, in their order. -/
def Config.valuesOf (config : Config) (name : HeaderName) : List HeaderValue :=
  HeaderList.values ⟨config.headers⟩ name

/-- A request has a field of a name with the text of a value. Whether the value is sensitive does not
count. -/
def Http.Request.HasField (request : Request) (name : HeaderName) (value : HeaderValue) : Prop :=
  ∃ sent ∈ request.headers.values name, sent.text = value.text

/-- Whether a request has a field can be computed. -/
instance (request : Request) (name : HeaderName) (value : HeaderValue) :
    Decidable (request.HasField name value) :=
  inferInstanceAs (Decidable (∃ sent ∈ _, _))

/-- A configured field has a value. -/
lemma Config.valuesOf_ne_nil {config : Config} {name : HeaderName} {value : HeaderValue}
    (configured : (name, value) ∈ config.headers) : config.valuesOf name ≠ [] := by
  apply List.ne_nil_of_mem (a := value)
  apply List.mem_map.2
  exact ⟨(name, value), List.mem_filter.2 ⟨configured, by simp⟩, rfl⟩

namespace Client

variable {codec : Codec} {kind : GroupVersionKind} {config : Config} {c : Client}

/-- A client holds the last value that is configured for a name. -/
lemma values_headers_of_build {name : HeaderName} {last : HeaderValue}
    (built : build codec kind config = .ok c)
    (configured : (config.valuesOf name).getLast? = some last) :
    c.headers.values name = [last] := by
  obtain ⟨scheme, headers, _, _, made, rfl⟩ := build_eq_ok_iff.1 built
  obtain ⟨own, _, rfl⟩ := headersOf_eq_ok_iff.1 made
  show (own.insertAll config.headers).values name = [last]
  unfold Config.valuesOf at configured
  rw [HeaderList.values_insertAll, configured]
  rfl

/-- A configured header field is sent with a request that has none of its name exactly if its value
is the last one configured for the name. -/
theorem configured_field_sent_iff {request completed : Request} {name : HeaderName}
    {value : HeaderValue} (built : build codec kind config = .ok c)
    (done : c.completeRequest request = .ok completed)
    (configured : (name, value) ∈ config.headers) (absent : request.headers.values name = []) :
    ∃ last, (config.valuesOf name).getLast? = some last ∧
      completed.headers.values name = [last] ∧
      (completed.HasField name value ↔ last.text = value.text) := by
  obtain ⟨last, isLast⟩ : ∃ last, (config.valuesOf name).getLast? = some last :=
    ⟨_, List.getLast?_eq_some_getLast (Config.valuesOf_ne_nil configured)⟩
  obtain ⟨target, _, rfl⟩ := completeRequest_eq_ok_iff.1 done
  -- the request leaves the name to the client, which has the last value alone
  have sent : (c.sendTo request target).headers.values name = [last] := by
    show (request.headers.withDefaults c.headers).values name = [last]
    rw [HeaderList.values_withDefaults, if_pos absent, HeaderList.value?,
      values_headers_of_build built isLast]
    rfl
  refine ⟨last, isLast, sent, ?_⟩
  unfold Request.HasField
  rw [sent]
  simp

/-- The header field that names a group to act as. -/
def impersonateGroup : HeaderName := ⟨"impersonate-group"⟩

/-- A configuration for acting as a member of two groups. -/
def impersonating : Config :=
  Config.addHeader
    (Config.addHeader
      { clusterUrl := { scheme := some "https", authority := "cluster.example:6443" } }
      impersonateGroup { text := "dev" })
    impersonateGroup { text := "ops" }

/-- The client for pods that acts as a member of two groups. -/
def impersonatingClient : Client :=
  { scheme := "https", authority := "cluster.example:6443", basePath := ""
    kind := ApiType.pod.kind, codec := .typed
    headers := standardHeaders.insert impersonateGroup { text := "ops" }
    timeout := impersonating.timeout, acceptInvalidCerts := false }

/-- A request for the pods of all namespaces. -/
def podsRequest : Request :=
  { method := "GET", uri := { target := { spelledPath := "/api/v1/pods" } } }

/-- The client for the configuration that impersonates can be built. -/
lemma build_impersonating : build .typed ApiType.pod.kind impersonating = .ok impersonatingClient := by
  decide +kernel

/-- That client completes the request for the pods. -/
lemma completeRequest_impersonating :
    impersonatingClient.completeRequest podsRequest =
      .ok (impersonatingClient.sendTo podsRequest { spelledPath := "/api/v1/pods" }) :=
  completeRequest_eq_ok_iff.2 ⟨_, by decide +kernel, rfl⟩

/-- The group that was configured last is sent. -/
theorem configured_field_sent_ops : ∃ completed,
    build .typed ApiType.pod.kind impersonating = .ok impersonatingClient ∧
      impersonatingClient.completeRequest podsRequest = .ok completed ∧
      completed.headers.values impersonateGroup = [{ text := "ops" }] ∧
      completed.HasField impersonateGroup { text := "ops" } := by
  have built := build_impersonating
  have done := completeRequest_impersonating
  have configured : (impersonateGroup, { text := "ops" }) ∈ impersonating.headers := by decide
  obtain ⟨last, isLast, sent, kept⟩ := configured_field_sent_iff built done configured rfl
  obtain rfl := Option.some.inj isLast
  exact ⟨_, built, done, sent, kept.2 rfl⟩

/-- The group that was configured first is not sent, although the request names no group itself. -/
theorem repeated_field_lost : ∃ completed,
    build .typed ApiType.pod.kind impersonating = .ok impersonatingClient ∧
      impersonatingClient.completeRequest podsRequest = .ok completed ∧
      (impersonateGroup, { text := "dev" }) ∈ impersonating.headers ∧
      podsRequest.headers.values impersonateGroup = [] ∧
      ¬ completed.HasField impersonateGroup { text := "dev" } :=
  ⟨_, build_impersonating, completeRequest_impersonating, by decide, by decide, by decide⟩

end Client

end KindResolution
