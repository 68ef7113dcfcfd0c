/-!
# URIs

Addresses of requests: an optional scheme, an authority and a target, which is a path with an
optional query. A fragment is read over. Nothing is percent-decoded, and a character stays as it is
if its place allows it.
-/

namespace KindResolution.Http

/-- The reasons why a text is not a URI. -/
inductive UriError where
  | invalidCharacter
  | invalidAuthority
  | invalidFormat
  | schemeTooLong
  | tooLong
  | empty
  deriving DecidableEq, Repr

/-- The text of an error. -/
def UriError.message : UriError → String
  | .invalidCharacter => "invalid uri character"
  | .invalidAuthority => "invalid authority"
  | .invalidFormat => "invalid format"
  | .schemeTooLong => "scheme too long"
  | .tooLong => "uri too long"
  | .empty => "empty string"

/-- The largest number of bytes of a URI. -/
def maxUriBytes : Nat := 65534

/-- The largest number of characters of a scheme. -/
def maxSchemeLength : Nat := 64

/-- A path and an optional query, as they are spelled. The spelled path may be empty. -/
structure Target where
  spelledPath : String := ""
  query : Option String := none
  deriving DecidableEq, Repr

namespace Target

/-- The path, which is a slash if none is spelled. -/
def path (t : Target) : String :=
  if t.spelledPath = "" then "/" else t.spelledPath

/-- The path and the query as they are spelled, or a slash if nothing is. -/
def text (t : Target) : String :=
  match t.query with
  | none => t.path
  | some query => t.spelledPath ++ "?" ++ query

/-- Whether a character may stand in a path. -/
def isPathChar (c : Char) : Bool :=
  let n := c.toNat
  n == 0x21 || n == 0x22 || (0x24 ≤ n && n ≤ 0x3B) || n == 0x3D || (0x40 ≤ n && n ≤ 0x5F) ||
    (0x61 ≤ n && n ≤ 0x7E) || 0x80 ≤ n

/-- Whether a character may stand in a query. -/
def isQueryChar (c : Char) : Bool :=
  let n := c.toNat
  n == 0x21 || (0x24 ≤ n && n ≤ 0x3B) || n == 0x3D || (0x3F ≤ n && n ≤ 0x7E) || 0x80 ≤ n

/-- The characters up to a fragment, if all of them satisfy a condition. -/
def readUpToFragment (allowed : Char → Bool) (cs : List Char) : Except UriError (List Char) :=
  let part := cs.takeWhile (· != '#')
  if part.all allowed then .ok part else .error .invalidCharacter

/-- Takes characters apart at the first question mark. A question mark in a fragment is not one, and
a fragment is dropped. -/
def ofChars (cs : List Char) : Except UriError Target :=
  let before := cs.takeWhile fun c => c != '?' && c != '#'
  if !before.all isPathChar then .error .invalidCharacter
  else match cs.drop before.length with
    | '?' :: rest => do
      let query ← readUpToFragment isQueryChar rest
      return { spelledPath := String.ofList before, query := some (String.ofList query) }
    | _ => .ok { spelledPath := String.ofList before }

/-- Reads a path with an optional query. -/
def parse (s : String) : Except UriError Target :=
  if maxUriBytes < s.utf8ByteSize then .error .tooLong else ofChars s.toList

end Target

/-- A URI. An authority that is not there is empty. -/
structure Uri where
  scheme : Option String := none
  authority : String := ""
  target : Target := {}
  deriving DecidableEq, Repr

namespace Uri

/-- The path: empty if there is neither a scheme nor a target. -/
def path (u : Uri) : String :=
  if u.scheme.isNone && u.target.spelledPath = "" && u.target.query.isNone then ""
  else u.target.path

/-- The query, without the question mark. -/
def query (u : Uri) : Option String :=
  u.target.query

/-- The target, unless the URI is an authority alone. -/
def target? (u : Uri) : Option Target :=
  if u.scheme.isSome || u.authority = "" then some u.target else none

/-- The text of a URI. -/
def text (u : Uri) : String :=
  (match u.scheme with | some scheme => scheme ++ "://" | none => "") ++ u.authority ++ u.path ++
    (match u.query with | some query => "?" ++ query | none => "")

/-- Whether a character may stand in a scheme. -/
def isSchemeChar (c : Char) : Bool :=
  c.isAlphanum || c = '+' || c = '-' || c = '.' || c = '~'

/-- Whether a character may stand in an authority, apart from the percent sign and the characters
that end it. -/
def isAuthorityChar (c : Char) : Bool :=
  c.isAlphanum || "!$&'()*+,-.:;=@[]_~".toList.contains c

/-- What is known in the middle of an authority. A colon or percent sign in front of an at sign
belongs to the user information and one in brackets to the host, so both are forgotten there. -/
structure AuthorityState where
  colons : Nat := 0
  opened : Bool := false
  closed : Bool := false
  percent : Bool := false
  endsInAt : Bool := false

/-- The largest number of colons in a row of parts. -/
def maxColons : Nat := 8

/-- The state after one more character of an authority. -/
def AuthorityState.step (st : AuthorityState) (c : Char) : Except UriError AuthorityState :=
  let st := { st with endsInAt := false }
  if c = ':' then
    if maxColons ≤ st.colons then .error .invalidAuthority
    else .ok { st with colons := st.colons + 1 }
  else if c = '[' then
    if st.percent || st.opened then .error .invalidAuthority else .ok { st with opened := true }
  else if c = ']' then
    if !st.opened || st.closed then .error .invalidAuthority
    else .ok { st with closed := true, colons := 0, percent := false }
  else if c = '@' then .ok { st with colons := 0, percent := false, endsInAt := true }
  else if c = '%' then .ok { st with percent := true }
  else if isAuthorityChar c then .ok st
  else .error .invalidCharacter

/-- Whether an authority may end in a state: brackets are closed, there is at most one colon outside
of them and a host behind an at sign, and a percent sign stands in the user information only. -/
def AuthorityState.isFinal (st : AuthorityState) : Bool :=
  st.opened == st.closed && st.colons ≤ 1 && !st.endsInAt && !st.percent

/-- Whether a character ends an authority. -/
def endsAuthority (c : Char) : Bool :=
  c = '/' || c = '?' || c = '#'

/-- Splits characters into an authority and what stands behind it. -/
def readAuthority (cs : List Char) : Except UriError (List Char × List Char) :=
  if cs.isEmpty then .error .empty
  else do
    let authority := cs.takeWhile fun c => !endsAuthority c
    let st ← authority.foldlM AuthorityState.step {}
    if st.isFinal then return (authority, cs.drop authority.length) else .error .invalidAuthority

/-- Splits a scheme off, in front of a colon and two slashes. The two common schemes are written in
lower case, and a text of at most three characters has none. -/
def readScheme (cs : List Char) : Except UriError (Option String × List Char) :=
  if (cs.take 7).map Char.toLower = "http://".toList then .ok (some "http", cs.drop 7)
  else if (cs.take 8).map Char.toLower = "https://".toList then .ok (some "https", cs.drop 8)
  else
    let scheme := cs.takeWhile isSchemeChar
    match cs.drop scheme.length with
    | ':' :: '/' :: '/' :: rest =>
      if cs.length ≤ 3 then .ok (none, cs)
      else if maxSchemeLength < scheme.length then .error .schemeTooLong
      else .ok (some (String.ofList scheme), rest)
    | _ => .ok (none, cs)

/-- Reads a URI: a target, an authority, or a scheme with an authority and a target. -/
def parse (s : String) : Except UriError Uri :=
  if maxUriBytes < s.utf8ByteSize then .error .tooLong
  else match s.toList with
    | [] => .error .empty
    | ['*'] => .ok { target := { spelledPath := "*" } }
    | '/' :: rest => do
      let target ← Target.ofChars ('/' :: rest)
      return { target := target }
    | [c] => do
      let (authority, rest) ← readAuthority [c]
      if rest.isEmpty then return { authority := String.ofList authority }
      else .error .invalidCharacter
    | cs => do
      match ← readScheme cs with
      | (some scheme, rest) =>
        let (authority, rest) ← readAuthority rest
        if authority.isEmpty then .error .invalidFormat
        else
          let target ← Target.ofChars rest
          return { scheme := some scheme, authority := String.ofList authority, target := target }
      | (none, rest) =>
        let (authority, rest) ← readAuthority rest
        if rest.isEmpty then return { authority := String.ofList authority }
        else .error .invalidFormat

end Uri

end KindResolution.Http
