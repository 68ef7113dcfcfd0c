import KindResolution.Kind.Json

/-!
# Mappings from kinds to resources

Where the objects of a kind are served: under which resource, and whether in namespaces. The name of
the resource is the plural of the kind in lower case, which `RestMapping.regular` forms by the rules
of English spelling.
-/

namespace KindResolution

open Json

/-- Whether the objects of a kind live in namespaces. -/
inductive Scope where
  | cluster
  | namespaced
  deriving DecidableEq, Repr

namespace Scope

/-- The scope of a kind that is said to be namespaced or not. -/
def ofNamespaced (namespaced : Bool) : Scope :=
  if namespaced then .namespaced else .cluster

/-- The name of a scope. -/
def name : Scope → String
  | .cluster => "Cluster"
  | .namespaced => "Namespaced"

/-- The names of all scopes. -/
def names : List String := [cluster.name, namespaced.name]

/-- The scope of a name. -/
def ofName (s : String) : Except DecodeError Scope :=
  if s = cluster.name then .ok .cluster
  else if s = namespaced.name then .ok .namespaced
  else .error (.unknownVariant s names)

/-- The value of a scope. -/
def toJson (s : Scope) : Json :=
  .string s.name

/-- Meets the null behind the name of a scope. -/
def readUnit : Document → Except DecodeError Unit
  | .null => .ok ()
  | d => .error (d.mismatch "unit")

/-- Meets the end of an object that names a scope in a text, given the members behind the first. -/
def readEndOfText (more : List (Key × Document)) : Option Fault → Except DecodeError Unit
  | none => if more.isEmpty then .ok () else .error (.malformed .expectedValue)
  | some fault =>
    if more.isEmpty ∧ fault.reading = .endInObject then .error (.malformed .endInObject)
    else .error (.malformed .expectedValue)

/-- Decodes a scope: its name, or an object with the name as its only key and null as the value. -/
def decoder : Decoder Scope
  | _, .string s => ofName s
  | .value, .object [(key, value)] none => do
    let scope ← ofName (← readKey key)
    readUnit value
    return scope
  | .value, .object _ _ => .error (.invalidValue .map "map with a single key")
  | .value, d => .error (d.mismatch "string or map")
  | source@(.text _), .object members ending => do
    let _ ← source.enter
    match members, ending with
    | (key, value) :: more, ending =>
      let scope ← ofName (← readKey key)
      readUnit value
      readEndOfText more ending
      return scope
    | [], some fault => .error (.malformed fault.reading)
    | [], none => .error (.malformed .expectedValue)
  | .text _, .broken start fault =>
    .error (.malformed (if start = none ∨ start = some '"' then fault.reading else .expectedValue))
  | .text _, _ => .error (.malformed .expectedValue)

end Scope

/-- Where the objects of a kind are served. -/
structure RestMapping where
  resource : GroupVersionResource
  kind : GroupVersionKind
  scope : Scope
  deriving DecidableEq, Repr

/-- The words whose plural follows no rule. -/
def irregularPlurals : List (String × String) :=
  [("endpoints", "endpoints"), ("endpointslices", "endpointslices"), ("nodemetrics", "nodes"),
    ("podmetrics", "pods")]

/-- Whether a character is one of the five vowels. -/
def isVowel (c : Char) : Bool :=
  c = 'a' || c = 'e' || c = 'i' || c = 'o' || c = 'u'

/-- The plural of a word by the rules of spelling, given its characters from the last to the first:
a sibilant at the end takes `es`, a `y` behind a consonant becomes `ies`, and all else takes `s`. -/
def regularPlural : List Char → List Char
  | 'y' :: c :: rest =>
    if isVowel c then ('s' :: 'y' :: c :: rest).reverse
    else ('s' :: 'e' :: 'i' :: c :: rest).reverse
  | 'h' :: c :: rest =>
    if c = 'c' || c = 's' then ('s' :: 'e' :: 'h' :: c :: rest).reverse
    else ('s' :: 'h' :: c :: rest).reverse
  | c :: rest =>
    if c = 's' || c = 'x' || c = 'z' then ('s' :: 'e' :: c :: rest).reverse
    else ('s' :: c :: rest).reverse
  | [] => ['s']

/-- The plural of a word in lower case. -/
def plural (word : String) : String :=
  match Entries.find? word irregularPlurals with
  | some plural => plural
  | none => String.ofList (regularPlural word.toList.reverse)

/-- A text with the letters of ASCII in lower case. -/
def asciiLower (s : String) : String :=
  String.ofList (s.toList.map Char.toLower)

namespace RestMapping

/-- The mapping of a kind to a resource in the same version of the same group. -/
def ofPlural (kind : GroupVersionKind) (plural : String) (scope : Scope) : RestMapping :=
  { resource := ⟨kind.group, kind.version, plural⟩, kind := kind, scope := scope }

/-- The mapping of a kind to the resource that is named by its plural. -/
def regular (kind : GroupVersionKind) (scope : Scope) : RestMapping :=
  ofPlural kind (plural (asciiLower kind.kind)) scope

/-- The value of a mapping. -/
def toJson (m : RestMapping) : Json :=
  .object [("resource", m.resource.toJson), ("gvk", m.kind.toJson), ("scope", m.scope.toJson)]

/-- The parts of a mapping read so far. -/
structure Fields where
  resource : Option GroupVersionResource := none
  kind : Option GroupVersionKind := none
  scope : Option Scope := none

open Decoder

/-- Decodes a mapping. -/
def decoder : Decoder RestMapping :=
  record "RestMapping"
    [.once "resource" Fields.resource (fun st v => { st with resource := some v })
        GroupVersionResource.decoder,
      .once "gvk" Fields.kind (fun st v => { st with kind := some v }) GroupVersionKind.decoder,
      .once "scope" Fields.scope (fun st v => { st with scope := some v }) Scope.decoder]
    ({} : Fields) fun st => do
      return { resource := ← required "resource" st.resource, kind := ← required "gvk" st.kind
               scope := ← required "scope" st.scope }

end RestMapping

end KindResolution
