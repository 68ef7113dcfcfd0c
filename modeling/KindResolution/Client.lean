import KindResolution.Config
import KindResolution.Json.Printer
import KindResolution.Object

/-!
# Clients

A client sends requests for one kind. It completes a request with the address of the cluster and
with header fields, and it writes the bodies. A typed client fills in the names of the type where a
body does not have them; a client for objects without a schema insists on them.
-/

namespace KindResolution

open Http Json

/-- How a client treats bodies. -/
inductive Codec where
  | typed
  | schemaless
  deriving DecidableEq, Repr

/-- The reasons why a client cannot be built or cannot do its work. -/
inductive ClientError where
  | incompleteClusterUrl (url : String)
  | malformedTarget (error : UriError)
  | malformedHeader (error : HeaderValueError)
  | unwritable (error : EncodeError)
  | noObject
  | undeclared
  deriving DecidableEq, Repr

/-- The text of an error. -/
def ClientError.message : ClientError → String
  | .incompleteClusterUrl url =>
    "cluster url " ++ Text.quote url ++ " needs a scheme and an authority"
  | .malformedTarget e => "failed to build uri: " ++ e.message
  | .malformedHeader e => "invalid header value: " ++ e.message
  | .unwritable e => "failed to serialize body: " ++ e.message
  | .noObject => "body must be a json object"
  | .undeclared => "schema-less body does not declare apiVersion and kind"

/-- A way to build clients of a type. -/
structure ClientFactory (C : Type) where
  build : Codec → GroupVersionKind → Config → Except ClientError C

/-- A client for one kind. -/
structure Client where
  scheme : String
  authority : String
  basePath : String
  kind : GroupVersionKind
  codec : Codec
  headers : HeaderList
  timeout : Option Duration
  acceptInvalidCerts : Bool
  deriving DecidableEq, Repr

namespace Client

/-- A text without the slashes at its end. -/
def trimSlashes (s : String) : String :=
  String.ofList ((s.toList.reverse.dropWhile (· == '/')).reverse)

/-- The header field that names the program. -/
def agent : HeaderValue := { text := "kubemeta/0.1.0" }

/-- The value of the header field that carries a token. -/
def bearer (token : String) : Except HeaderValueError HeaderValue :=
  (HeaderValue.parse ("Bearer " ++ token)).map fun value => { value with sensitive := true }

/-- The header fields that clients send without being told to. -/
def standardHeaders : HeaderList :=
  { fields := [(accept, jsonType), (contentType, jsonType), (userAgent, agent)] }

/-- The header fields of a configuration: the standard ones, the token, and the configured ones,
each of which takes the place of those of the same name. -/
def headersOf (config : Config) : Except ClientError HeaderList := do
  let headers ← match config.authToken with
    | none => pure standardHeaders
    | some token => do
      let value ← (bearer token).mapError .malformedHeader
      pure (standardHeaders.insert authorization value)
  return config.headers.foldl (fun list header => list.insert header.1 header.2) headers

/-- Builds a client for a kind. The address of the cluster needs a scheme and an authority. -/
def build (codec : Codec) (kind : GroupVersionKind) (config : Config) :
    Except ClientError Client :=
  match config.clusterUrl.scheme with
  | none => .error (.incompleteClusterUrl config.clusterUrl.text)
  | some scheme =>
    if config.clusterUrl.authority = "" then
      .error (.incompleteClusterUrl config.clusterUrl.text)
    else do
      let headers ← headersOf config
      return { scheme := scheme, authority := config.clusterUrl.authority
               basePath := trimSlashes config.clusterUrl.path, kind := kind, codec := codec
               headers := headers, timeout := config.timeout
               acceptInvalidCerts := config.acceptInvalidCerts }

/-- A client is for the kind that it was built for, with the codec that was asked for. -/
theorem kind_codec_of_build {codec : Codec} {kind : GroupVersionKind} {config : Config}
    {client : Client} (built : build codec kind config = .ok client) :
    client.kind = kind ∧ client.codec = codec := by
  unfold build at built
  split at built
  · cases built
  · split at built
    · cases built
    · cases headers : headersOf config with
      | error e => rw [headers] at built; cases built
      | ok list => rw [headers] at built; cases built; exact ⟨rfl, rfl⟩

/-- The factory of these clients. -/
def factory : ClientFactory Client := ⟨build⟩

/-- The version that a client talks to. -/
def groupVersion (c : Client) : GroupVersion :=
  c.kind.groupVersion

/-- The path below which the version is served. -/
def apiPath (c : Client) : String :=
  c.groupVersion.apiPath

/-- Completes a request. Its path and query come behind the path of the cluster, whatever server it
names, and its header fields stay. -/
def completeRequest (c : Client) (request : Request) : Except ClientError Request := do
  -- an authority alone asks for the root
  let text := (request.uri.target?.map Target.text).getD "/"
  let target ← (Target.parse (c.basePath ++ text)).mapError .malformedTarget
  return { request with
    uri := { scheme := some c.scheme, authority := c.authority, target := target }
    headers := request.headers.withDefaults c.headers }

/-- Stores a value under a key that is not there. -/
def insertIfAbsent (key : String) (value : Json) (members : List (String × Json)) :
    List (String × Json) :=
  match Entries.find? key members with
  | some _ => members
  | none => Entries.insert key value members

/-- Whether a member is a text that is not empty. -/
def declares (members : List (String × Json)) (key : String) : Bool :=
  match Entries.find? key members with
  | some (.string s) => s != ""
  | _ => false

/-- The value that a client sends for an ordered value. -/
def completeBody (c : Client) : Json → Except ClientError Json
  | .object members =>
    match c.codec with
    | .typed =>
      .ok (.object (insertIfAbsent "kind" (.string c.kind.kind)
        (insertIfAbsent "apiVersion" (.string c.kind.apiVersion) members)))
    | .schemaless =>
      if declares members "apiVersion" && declares members "kind" then .ok (.object members)
      else .error .undeclared
  | _ => .error .noObject

/-- The body that a client sends for a value. -/
def encode (c : Client) (v : Json) : Except ClientError String :=
  (c.completeBody v.normalize).map Json.text

/-- The body that a client sends for an object. -/
def encodeObject (c : Client) {type : ObjectType} (o : Object type) :
    Except ClientError String := do
  let v ← o.toJson.mapError .unwritable
  c.encode v

end Client

end KindResolution
