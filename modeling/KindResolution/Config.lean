import KindResolution.Duration
import KindResolution.Http.Request
import KindResolution.Text.Quoted

/-!
# Configurations

How to reach a cluster: its address, and what is sent along with every request. The description of a
configuration does not show the token.
-/

namespace KindResolution

open Http Text

/-- How to reach a cluster. -/
structure Config where
  clusterUrl : Uri
  defaultNamespace : String := "default"
  timeout : Option Duration := some (.ofSeconds 295)
  acceptInvalidCerts : Bool := false
  authToken : Option String := none
  headers : List (HeaderName × HeaderValue) := []
  deriving DecidableEq, Repr

namespace Config

/-- The configuration with a token. -/
def authorizedBy (c : Config) (token : String) : Config :=
  { c with authToken := some token }

/-- The configuration with one more header field. -/
def addHeader (c : Config) (name : HeaderName) (value : HeaderValue) : Config :=
  { c with headers := c.headers ++ [(name, value)] }

/-- The description of something that may be absent. -/
def describeOption : Option String → String
  | some s => "Some(" ++ s ++ ")"
  | none => "None"

/-- The description of a header field. -/
def describeHeader (header : HeaderName × HeaderValue) : String :=
  "(" ++ quote header.1.text ++ ", " ++ header.2.describe ++ ")"

/-- The description of a configuration, in which a token is only said to be there. -/
def describe (c : Config) : String :=
  "Config \x7b cluster_url: " ++ c.clusterUrl.text ++
    ", default_namespace: " ++ quote c.defaultNamespace ++
    ", timeout: " ++ describeOption (c.timeout.map Duration.describe) ++
    ", accept_invalid_certs: " ++ (if c.acceptInvalidCerts then "true" else "false") ++
    ", auth_token: " ++ describeOption (c.authToken.map fun _ => quote "[REDACTED]") ++
    ", headers: [" ++ ", ".intercalate (c.headers.map describeHeader) ++ "] \x7d"

end Config

end KindResolution
