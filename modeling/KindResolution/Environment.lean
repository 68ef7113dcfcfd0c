import KindResolution.Config
import KindResolution.SortedMap
import KindResolution.Text.Blank

/-!
# Configurations from the environment

A program in a cluster finds the address of the server in two variables, and its namespace and token
in files; outside of one, a variable holds the whole address. Names and values of variables and the
contents of files are given by an `Environment`.
-/

namespace KindResolution

open Http Text

/-- The variables that are set and the files that exist, as bytes. -/
structure Environment where
  settings : List (String × ByteArray) := []
  files : List (String × ByteArray) := []

/-- The reasons why a file cannot be read as a text. -/
inductive FileError where
  | notFound
  | notUtf8
  deriving DecidableEq, Repr

/-- The text of an error. -/
def FileError.message : FileError → String
  | .notFound => "No such file or directory (os error 2)"
  | .notUtf8 => "stream did not contain valid UTF-8"

namespace Environment

/-- The value of a variable. One that is not UTF-8 counts as not set. -/
def setting? (e : Environment) (name : String) : Option String := do
  let bytes ← Entries.find? name e.settings
  String.fromUTF8? bytes

/-- The content of a file, without the blank characters around it. -/
def readFile (e : Environment) (path : String) : Except FileError String :=
  match Entries.find? path e.files with
  | none => .error .notFound
  | some bytes =>
    match String.fromUTF8? bytes with
    | none => .error .notUtf8
    | some content => .ok (trim content)

/-- The variable with the address of the cluster. -/
def clusterUrlVariable : String := "KUBEMETA_CLUSTER_URL"

/-- The variable with the namespace for a cluster that is given by its address. -/
def namespaceVariable : String := "KUBEMETA_NAMESPACE"

/-- The variable with the name of the server, inside of a cluster. -/
def hostVariable : String := "KUBERNETES_SERVICE_HOST"

/-- The variable with the number at which the server listens, inside of a cluster. -/
def listenVariable : String := "KUBERNETES_SERVICE_PORT"

/-- The file with the token, inside of a cluster. -/
def tokenFile : String := "/var/run/secrets/kubernetes.io/serviceaccount/token"

/-- The file with the namespace, inside of a cluster. -/
def namespaceFile : String := "/var/run/secrets/kubernetes.io/serviceaccount/namespace"

/-- The address of a server that listens at a number. A host with a colon in it is an address of the
sixth version of the internet protocol and stands in brackets. -/
def serverAddress (host number : String) : String :=
  if host.toList.contains ':' then "https://[" ++ host ++ "]:" ++ number
  else "https://" ++ host ++ ":" ++ number

/-- The address of the server, inside of a cluster. -/
def serverAddress? (e : Environment) : Option String := do
  let host ← e.setting? hostVariable
  let number ← e.setting? listenVariable
  return serverAddress host number

end Environment

/-- The reasons why no configuration is found. -/
inductive ConfigError where
  | unavailable (inCluster byUrl : ConfigError)
  | noClusterVariables
  | noUrlVariable
  | malformedUrl (error : UriError)
  | unreadableNamespace (error : FileError)
  | unreadableToken (error : FileError)
  deriving DecidableEq, Repr

/-- The text of an error. -/
def ConfigError.message : ConfigError → String
  | .unavailable clusterEnv envUrl =>
    "Failed to infer config.. cluster env: (" ++ clusterEnv.message ++ "), env url: (" ++
      envUrl.message ++ ")"
  | .noClusterVariables =>
    "Unable to load in cluster config, " ++ Environment.hostVariable ++ " and " ++
      Environment.listenVariable ++ " must be defined"
  | .noUrlVariable =>
    "Unable to load cluster url, " ++ Environment.clusterUrlVariable ++ " must be defined"
  | .malformedUrl e => "Invalid cluster url: " ++ e.message
  | .unreadableNamespace e => "Unable to load incluster default namespace: " ++ e.message
  | .unreadableToken e => "Unable to load in cluster token: " ++ e.message

namespace Config

/-- The configuration of a program inside of a cluster. -/
def inCluster (e : Environment) : Except ConfigError Config := do
  let some address := e.serverAddress? | .error .noClusterVariables
  let clusterUrl ← (Uri.parse address).mapError .malformedUrl
  let defaultNamespace ←
    (e.readFile Environment.namespaceFile).mapError .unreadableNamespace
  let token ← (e.readFile Environment.tokenFile).mapError .unreadableToken
  return { clusterUrl := clusterUrl, defaultNamespace := defaultNamespace, authToken := some token }

/-- The configuration for the cluster whose address is in a variable. -/
def byUrl (e : Environment) : Except ConfigError Config := do
  let some address := e.setting? Environment.clusterUrlVariable | .error .noUrlVariable
  let clusterUrl ← (Uri.parse address).mapError .malformedUrl
  let config : Config := { clusterUrl := clusterUrl }
  match e.setting? Environment.namespaceVariable with
  | some defaultNamespace => return { config with defaultNamespace := defaultNamespace }
  | none => return config

/-- The configuration of a program inside of a cluster, or else for the cluster whose address is in
a variable. -/
def find (e : Environment) : Except ConfigError Config :=
  match inCluster e with
  | .ok config => .ok config
  | .error clusterEnv =>
    match byUrl e with
    | .ok config => .ok config
    | .error envUrl => .error (.unavailable clusterEnv envUrl)

end Config

end KindResolution
