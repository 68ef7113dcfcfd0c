import KindResolution.Client
import KindResolution.Proofs.Http.Headers
import KindResolution.Proofs.Http.WellFormed
import Mathlib.Data.List.DropRight

/-!
# Completed requests

A client sends a request to the cluster that it was built for, whatever server the request names:
the path comes behind the one of the cluster, the query, the method and the body stay, and of the
header fields only those are added whose names the request does not have itself
(`Client.completed_for_cluster`). The steps that a client is built in are taken apart in
`Client.build_eq_ok_iff` and `Client.headersOf_eq_ok_iff`, those of completing a request in
`Client.completeRequest_eq_ok_iff`.
-/

namespace KindResolution.Client

open Http

/-- A path is another one without the slashes at its end. -/
structure IsTrimmed (trimmed path : String) : Prop where
  slashes : ∃ n, path.toList = trimmed.toList ++ List.replicate n '/'
  ends : trimmed.toList.getLast? ≠ some '/'

/-- Taking the slashes off leaves the trimmed path. -/
lemma isTrimmed_trimSlashes (path : String) : IsTrimmed (trimSlashes path) path := by
  have trimmed : (trimSlashes path).toList = path.toList.rdropWhile (· == '/') :=
    String.toList_ofList
  constructor
  -- what is cut off is a row of slashes
  · have taken : path.toList.rtakeWhile (· == '/') =
        List.replicate (path.toList.rtakeWhile (· == '/')).length '/' := by
      apply List.eq_replicate_of_mem
      intro c member
      have slash := List.mem_rtakeWhile_imp (p := (· == '/')) member
      exact eq_of_beq slash
    refine ⟨(path.toList.rtakeWhile (· == '/')).length, ?_⟩
    rw [trimmed, ← taken, List.rdropWhile_append_rtakeWhile]
  -- and the cutting stopped at another character, if at any
  · rw [trimmed]
    intro slash
    obtain ⟨ne, last⟩ := List.mem_getLast?_eq_getLast slash
    have stops := List.rdropWhile_last_not (· == '/') path.toList ne
    rw [← last] at stops
    exact stops rfl

/-- A trimmed path has no other characters than the path. -/
lemma IsTrimmed.all_isPathChar {trimmed path : String} (trim : IsTrimmed trimmed path)
    (allowed : path.toList.all Target.isPathChar = true) :
    trimmed.toList.all Target.isPathChar = true := by
  obtain ⟨n, slashes⟩ := trim.slashes
  rw [slashes, List.all_append, Bool.and_eq_true] at allowed
  exact allowed.1

/-- The header fields of a client without the configured ones: the standard ones and the token. -/
def ownHeaders (config : Config) : Except ClientError HeaderList :=
  match config.authToken with
  | none => .ok standardHeaders
  | some token =>
    ((bearer token).mapError ClientError.malformedHeader).map
      (standardHeaders.insert authorization)

/-- The configured header fields are inserted into the other ones. -/
lemma headersOf_eq (config : Config) :
    headersOf config = (ownHeaders config).map fun own => own.insertAll config.headers := by
  unfold headersOf ownHeaders
  cases config.authToken with
  | none => rfl
  | some token =>
    dsimp only
    cases bearer token with
    | error e => rfl
    | ok value => rfl

/-- The header fields are the client's own, with the configured ones put in their place. -/
lemma headersOf_eq_ok_iff {config : Config} {headers : HeaderList} :
    headersOf config = .ok headers ↔
      ∃ own, ownHeaders config = .ok own ∧ own.insertAll config.headers = headers := by
  rw [headersOf_eq, map_eq_ok_iff]

/-- A client is built if the address of the cluster has a scheme and an authority and the header
fields can be made, and it holds these. -/
lemma build_eq_ok_iff {codec : Codec} {kind : GroupVersionKind} {config : Config} {c : Client} :
    build codec kind config = .ok c ↔
      ∃ scheme headers, config.clusterUrl.scheme = some scheme ∧
        config.clusterUrl.authority ≠ "" ∧ headersOf config = .ok headers ∧
        c = { scheme := scheme, authority := config.clusterUrl.authority
              basePath := trimSlashes config.clusterUrl.path, kind := kind, codec := codec
              headers := headers, timeout := config.timeout
              acceptInvalidCerts := config.acceptInvalidCerts } := by
  unfold build
  cases config.clusterUrl.scheme with
  | none => simp
  | some scheme =>
    by_cases authority : config.clusterUrl.authority = ""
    · simp [authority]
    · cases headersOf config with
      | error e => simp [authority, bind, Except.bind]
      | ok headers => simp [authority, bind, Except.bind, pure, Except.pure, eq_comm]

/-- What a client makes of a request whose target is read behind the path of the cluster. -/
def sendTo (c : Client) (request : Request) (target : Target) : Request :=
  { request with
    uri := { scheme := some c.scheme, authority := c.authority, target := target }
    headers := request.headers.withDefaults c.headers }

/-- A request is completed to the target that its whole path and query parse to. -/
lemma completeRequest_eq_ok_iff {c : Client} {request completed : Request} :
    c.completeRequest request = .ok completed ↔
      ∃ target, Target.parse (c.basePath ++ request.uri.asked.text) = .ok target ∧
        c.sendTo request target = completed := by
  have asks : (request.uri.target?.map Target.text).getD "/" = request.uri.asked.text := by
    unfold Uri.asked
    cases request.uri.target? with
    | none => rfl
    | some target => rfl
  show Except.bind ((Target.parse (c.basePath ++ _)).mapError _) _ = _ ↔ _
  rw [asks, bind_eq_ok_iff]
  refine exists_congr fun target => and_congr mapError_eq_ok_iff ?_
  show Except.ok (c.sendTo request target) = .ok completed ↔ _
  rw [Except.ok.injEq]

/-- A request that is sent to a target has its path. -/
lemma path_sendTo (c : Client) (request : Request) (target : Target) :
    (c.sendTo request target).uri.path = target.path :=
  rfl

/-- A request that is sent to a target has its query. -/
lemma query_sendTo (c : Client) (request : Request) (target : Target) :
    (c.sendTo request target).uri.query = target.query :=
  rfl

/-- A request whose path and query begin with a slash is completed, unless its address gets too
long. -/
lemma completeRequest_of_rooted {c : Client} {request : Request}
    (allowed : c.basePath.toList.all Target.isPathChar = true) (formed : request.uri.WellFormed)
    (rooted : request.uri.asked.text.toList.head? = some '/')
    (short : (c.basePath ++ request.uri.asked.text).utf8ByteSize ≤ maxUriBytes) :
    ∃ completed, c.completeRequest request = .ok completed ∧
      completed.uri.path = c.basePath ++ (if request.uri.path = "" then "/" else request.uri.path) ∧
      completed.uri.query = request.uri.query := by
  have target : request.uri.asked.WellFormed := by
    rw [formed.asked]
    exact formed.target
  have read := Target.parse_append_text allowed target rooted short
  refine ⟨_, completeRequest_eq_ok_iff.2 ⟨_, read, rfl⟩, ?_, ?_⟩
  · rw [path_sendTo, Target.path_append, formed.path_asked]
  · rw [query_sendTo, formed.query_asked]

/-- A completed request goes to the cluster of a configuration, with the method, the body and the
header fields that it had. -/
structure Completes (c : Client) (config : Config) (request completed : Request) : Prop where
  scheme : completed.uri.scheme = config.clusterUrl.scheme
  authority : completed.uri.authority = config.clusterUrl.authority
  method : completed.method = request.method
  body : completed.body = request.body
  headers : ∀ name, completed.headers.values name =
    if request.headers.values name = [] then (c.headers.value? name).toList
    else request.headers.values name

variable {codec : Codec} {kind : GroupVersionKind} {config : Config} {c : Client}

/-- A client sends below the path of the cluster, without the slashes at its end. -/
lemma basePath_of_build (built : build codec kind config = .ok c) :
    c.basePath = trimSlashes config.clusterUrl.path := by
  obtain ⟨scheme, headers, _, _, _, rfl⟩ := build_eq_ok_iff.1 built
  rfl

/-- A request that is completed is a complete one for the cluster. -/
lemma completes_of_completeRequest {request completed : Request}
    (built : build codec kind config = .ok c)
    (done : c.completeRequest request = .ok completed) :
    c.Completes config request completed := by
  obtain ⟨target, _, rfl⟩ := completeRequest_eq_ok_iff.1 done
  obtain ⟨scheme, headers, hasScheme, _, _, rfl⟩ := build_eq_ok_iff.1 built
  exact ⟨hasScheme.symm, rfl, rfl, rfl, fun name => HeaderList.values_withDefaults _ _ name⟩

/-- A client sends every request to the cluster of its configuration and leaves all else as it is.
Only the length of the address can be in the way. -/
theorem completed_for_cluster (built : build codec kind config = .ok c) (request : Request) :
    (∀ completed, c.completeRequest request = .ok completed →
      c.Completes config request completed) ∧
    IsTrimmed (trimSlashes config.clusterUrl.path) config.clusterUrl.path ∧
    (config.clusterUrl.WellFormed → request.uri.WellFormed →
      request.uri.asked.text.toList.head? = some '/' →
      (trimSlashes config.clusterUrl.path ++ request.uri.asked.text).utf8ByteSize ≤ maxUriBytes →
      ∃ completed, c.completeRequest request = .ok completed ∧
        completed.uri.path = trimSlashes config.clusterUrl.path ++
          (if request.uri.path = "" then "/" else request.uri.path) ∧
        completed.uri.query = request.uri.query) := by
  have trim := isTrimmed_trimSlashes config.clusterUrl.path
  refine ⟨fun completed done => completes_of_completeRequest built done, trim, ?_⟩
  intro cluster formed
  have allowed := trim.all_isPathChar cluster.all_path
  rw [← basePath_of_build built] at allowed ⊢
  exact completeRequest_of_rooted allowed formed

/-- A cluster behind the path of a proxy, reached with a token. -/
def proxied : Config :=
  { clusterUrl :=
      { scheme := some "https", authority := "cluster.example:6443"
        target := { spelledPath := "/proxy//" } }
    authToken := some "t0ken" }

/-- A request that names a server of its own, and its own types of answers. -/
def elsewhere : Request :=
  { method := "GET"
    uri :=
      { scheme := some "http", authority := "other.example"
        target := { spelledPath := "/api/v1/pods", query := some "&limit=1" } }
    headers := ⟨[(accept, { text := "application/yaml" }), (accept, jsonType)]⟩
    body := "\x7b\x7d" }

/-- The client for pods in the cluster behind the proxy. -/
def proxyClient : Client :=
  { scheme := "https", authority := "cluster.example:6443", basePath := "/proxy"
    kind := ApiType.pod.kind, codec := .typed
    headers := standardHeaders.insert authorization { text := "Bearer t0ken", sensitive := true }
    timeout := proxied.timeout, acceptInvalidCerts := false }

/-- The request goes to the cluster with the token, and still asks for its own types of answers. -/
theorem completed_for_cluster_proxied :
    build .typed ApiType.pod.kind proxied = .ok proxyClient ∧ ∃ completed,
      proxyClient.completeRequest elsewhere = .ok completed ∧
        proxyClient.Completes proxied elsewhere completed ∧
        completed.uri.path = "/proxy/api/v1/pods" ∧ completed.uri.query = some "&limit=1" ∧
        completed.headers.values accept = [{ text := "application/yaml" }, jsonType] ∧
        completed.headers.values authorization =
          [{ text := "Bearer t0ken", sensitive := true }] := by
  have built : build .typed ApiType.pod.kind proxied = .ok proxyClient := by decide +kernel
  have cluster : proxied.clusterUrl.WellFormed :=
    Uri.wellFormed_of_parse (s := "https://cluster.example:6443/proxy//") (by decide +kernel)
  have formed : elsewhere.uri.WellFormed :=
    Uri.wellFormed_of_parse (s := "http://other.example/api/v1/pods?&limit=1") (by decide +kernel)
  obtain ⟨completes, _, succeeds⟩ := completed_for_cluster built elsewhere
  obtain ⟨completed, done, path, query⟩ :=
    succeeds cluster formed (by decide +kernel) (by decide +kernel)
  have sent := completes completed done
  refine ⟨built, completed, done, sent, ?_, query, ?_, ?_⟩
  · rw [path]
    decide +kernel
  · rw [sent.headers]
    decide +kernel
  · rw [sent.headers]
    decide +kernel

end KindResolution.Client
