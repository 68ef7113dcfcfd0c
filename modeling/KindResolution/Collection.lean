import KindResolution.Http.Request
import KindResolution.CallOptions

/-!
# Calls on a collection

Requests for the objects below one path. Their addresses are a path and a query only; a client
supplies the server. A name is put into the path as it is, and the query is form-encoded.
-/

namespace KindResolution

open Http Text

/-- The reasons why a request cannot be made. -/
inductive RequestError where
  | invalidOptions (error : OptionError)
  | invalidUri (error : UriError)
  deriving DecidableEq, Repr

/-- The text of an error. -/
def RequestError.message : RequestError → String
  | .invalidOptions e => "invalid request parameters: " ++ e.message
  | .invalidUri e => "failed to build request: " ++ e.message

/-- The objects below a path. -/
structure Collection where
  path : String
  deriving DecidableEq, Repr

namespace Collection

/-- The text of an address: a path, a question mark, and the parameters of a query, each behind an
ampersand. -/
def addressOf (path : String) (pairs : List (String × String)) : String :=
  path ++ "?" ++ String.ofList (FormEncoding.encodePairs pairs)

/-- A request to an address. -/
def request (method address : String) (headers : HeaderList) (body : String) :
    Except RequestError Request := do
  let uri ← (Uri.parse address).mapError .invalidUri
  return { method := method, uri := uri, headers := headers, body := body }

/-- The header fields of a request with a body in JSON. -/
def jsonHeaders : HeaderList :=
  { fields := [(contentType, jsonType)] }

/-- The path of the object of a name. -/
def pathOf (c : Collection) (name : String) : Except RequestError String :=
  if name = "" then .error (.invalidOptions .emptyName) else .ok (c.path ++ "/" ++ name)

/-- Lists the objects. -/
def list (c : Collection) (p : ListOptions) : Except RequestError Request := do
  p.check.mapError .invalidOptions
  request "GET" (addressOf c.path p.queryPairs) {} ""

/-- Reads the object of a name. -/
def get (c : Collection) (name : String) : Except RequestError Request := do
  let path ← c.pathOf name
  request "GET" path {} ""

/-- Adds an object. -/
def create (c : Collection) (p : WriteOptions) (body : String) : Except RequestError Request := do
  p.check.mapError .invalidOptions
  request "POST" (addressOf c.path p.queryPairs) jsonHeaders body

/-- Puts an object in place of that of a name. -/
def replace (c : Collection) (name : String) (p : WriteOptions) (body : String) :
    Except RequestError Request := do
  p.check.mapError .invalidOptions
  let path ← c.pathOf name
  request "PUT" (addressOf path p.queryPairs) jsonHeaders body

/-- Deletes the object of a name. -/
def delete (c : Collection) (name : String) (p : DeleteOptions) : Except RequestError Request := do
  let path ← c.pathOf name
  request "DELETE" (addressOf path p.queryPairs) jsonHeaders p.body

end Collection

end KindResolution
