import KindResolution.Http.Header
import KindResolution.Http.Uri

/-!
# Requests

A request is what is sent: a method, an address, header fields and a body.
-/

namespace KindResolution.Http

/-- A request. -/
structure Request where
  method : String
  uri : Uri
  headers : HeaderList := {}
  body : String := ""
  deriving DecidableEq, Repr

/-- The header field that says what a body is. -/
def contentType : HeaderName := ⟨"content-type"⟩

/-- The header field that says what an answer may be. -/
def accept : HeaderName := ⟨"accept"⟩

/-- The header field that names the sender's program. -/
def userAgent : HeaderName := ⟨"user-agent"⟩

/-- The header field that carries credentials. -/
def authorization : HeaderName := ⟨"authorization"⟩

/-- The type of bodies in JSON. -/
def jsonType : HeaderValue := { text := "application/json" }

end KindResolution.Http
