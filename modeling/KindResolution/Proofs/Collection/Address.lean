import KindResolution.Collection.Call
import KindResolution.Proofs.Http.WellFormed
import KindResolution.Proofs.Text.FormEncoding

/-!
# Addresses of calls

The URI of a request is read from a text: the path of the collection, a slash and the name where the
call is about one object, and behind a question mark the parameters that are present
(`sent_of_send`). A name in which neither a query nor a fragment starts is all in the path, and the
query holds the parameters and nothing else: `Rooted.uri_of_sent`.
-/

namespace KindResolution

open Http Text

/-- The parameters of the query of a list are those that are present. -/
lemma ListOptions.queryPairs_eq (p : ListOptions) :
    p.queryPairs = presentParameters p.parameters := by
  obtain ⟨labels, fields, limit, token⟩ := p
  cases labels <;> cases fields <;> cases limit <;> cases token <;> rfl

/-- The query of a write is made of the parameters that are present. -/
lemma WriteOptions.queryPairs_eq (p : WriteOptions) :
    p.queryPairs = presentParameters p.parameters := by
  obtain ⟨dryRun, manager⟩ := p
  cases dryRun <;> cases manager <;> rfl

/-- The query of a delete is made of the parameters that are present. -/
lemma DeleteOptions.queryPairs_eq (p : DeleteOptions) :
    p.queryPairs = presentParameters p.parameters := by
  obtain ⟨dryRun, _, _, _⟩ := p
  cases dryRun <;> rfl

namespace Collection

/-- A collection whose path starts with a slash and in which neither a query nor a fragment starts.
-/
structure Rooted (c : Collection) : Prop where
  slash : ∃ rest, c.path.toList = '/' :: rest
  plain : IsPathText c.path.toList

/-- The text that the URI of a call is read from. -/
def address (c : Collection) (call : Call) : String :=
  match call.parameters? with
  | none => c.pathFor call
  | some parameters => addressOf (c.pathFor call) (presentParameters parameters)

/-- The address of a call without parameters is a bare path. -/
lemma address_of_none {c : Collection} {call : Call} (bare : call.parameters? = none) :
    c.address call = c.pathFor call := by
  simp [address, bare]

/-- The address of a call with parameters is its path with a query. -/
lemma address_of_some {c : Collection} {call : Call} {parameters : List (String × Option String)}
    (known : call.parameters? = some parameters) :
    c.address call = addressOf (c.pathFor call) (presentParameters parameters) := by
  simp [address, known]

/-- A request is made exactly if its address is a URI. -/
lemma request_eq_ok_iff {method address body : String} {headers : HeaderList} {r : Request} :
    request method address headers body = .ok r ↔
      ∃ u, Uri.parse address = .ok u ∧
        r = { method := method, uri := u, headers := headers, body := body } := by
  show Except.bind _ _ = _ ↔ _
  simp only [bind_eq_ok_iff, mapError_eq_ok_iff]
  constructor
  · rintro ⟨u, read, made⟩
    cases made
    exact ⟨u, read, rfl⟩
  · rintro ⟨u, read, rfl⟩
    exact ⟨u, read, rfl⟩

/-- There is a path for every name but the empty one. -/
lemma pathOf_eq_ok_iff {c : Collection} {name path : String} :
    c.pathOf name = .ok path ↔ name ≠ "" ∧ c.path ++ "/" ++ name = path := by
  unfold pathOf
  split
  · next empty => simp [empty]
  · next named => simp [named]

/-- What is known of the request of a call: its URI is read from the address of the call, an object
that it is about has a name, and it carries the body of the call. -/
structure Sent (c : Collection) (call : Call) (r : Request) : Prop where
  parsed : Uri.parse (c.address call) = .ok r.uri
  named : ∀ name ∈ call.name?, name ≠ ""
  body : r.body = call.body

/-- Every call that succeeds ends in such a request. -/
theorem sent_of_send {c : Collection} {call : Call} {r : Request} (ok : c.send call = .ok r) :
    Sent c call r := by
  cases call with
  | list p =>
    obtain ⟨_, _, made⟩ := bind_eq_ok_iff.1 ok
    obtain ⟨u, read, rfl⟩ := request_eq_ok_iff.1 made
    rw [ListOptions.queryPairs_eq] at read
    exact ⟨read, nofun, rfl⟩
  | get name =>
    obtain ⟨path, found, made⟩ := bind_eq_ok_iff.1 ok
    obtain ⟨nonempty, rfl⟩ := pathOf_eq_ok_iff.1 found
    obtain ⟨u, read, rfl⟩ := request_eq_ok_iff.1 made
    exact ⟨read, by rintro _ ⟨⟩; exact nonempty, rfl⟩
  | create p body =>
    obtain ⟨_, _, made⟩ := bind_eq_ok_iff.1 ok
    obtain ⟨u, read, rfl⟩ := request_eq_ok_iff.1 made
    rw [WriteOptions.queryPairs_eq] at read
    exact ⟨read, nofun, rfl⟩
  | replace name p body =>
    obtain ⟨_, _, checked⟩ := bind_eq_ok_iff.1 ok
    obtain ⟨path, found, made⟩ := bind_eq_ok_iff.1 checked
    obtain ⟨nonempty, rfl⟩ := pathOf_eq_ok_iff.1 found
    obtain ⟨u, read, rfl⟩ := request_eq_ok_iff.1 made
    rw [WriteOptions.queryPairs_eq] at read
    exact ⟨read, by rintro _ ⟨⟩; exact nonempty, rfl⟩
  | delete name p =>
    obtain ⟨path, found, made⟩ := bind_eq_ok_iff.1 ok
    obtain ⟨nonempty, rfl⟩ := pathOf_eq_ok_iff.1 found
    obtain ⟨u, read, rfl⟩ := request_eq_ok_iff.1 made
    rw [DeleteOptions.queryPairs_eq] at read
    exact ⟨read, by rintro _ ⟨⟩; exact nonempty, rfl⟩

/-- The path for a name is that of the collection with one more segment. -/
lemma toList_pathFor (c : Collection) {call : Call} {name : String}
    (named : call.name? = some name) :
    (c.pathFor call).toList = c.path.toList ++ '/' :: name.toList := by
  simp [pathFor, named]

/-- A question mark stands between the path and the query. -/
lemma toList_addressOf (path : String) (pairs : List (String × String)) :
    (addressOf path pairs).toList = path.toList ++ '?' :: FormEncoding.encodePairs pairs := by
  simp [addressOf]

section

variable {c : Collection} {call : Call} (rooted : c.Rooted)
include rooted

/-- The paths in a rooted collection begin with a slash. -/
lemma Rooted.pathFor_eq_cons : ∃ rest, (c.pathFor call).toList = '/' :: rest := by
  obtain ⟨rest, text⟩ := rooted.slash
  cases named : call.name? with
  | none => exact ⟨rest, by simp [Collection.pathFor, named, text]⟩
  | some name => exact ⟨rest ++ '/' :: name.toList, by rw [toList_pathFor c named, text]; rfl⟩

/-- The addresses in a rooted collection begin with a slash. -/
lemma Rooted.address_eq_cons : ∃ rest, (c.address call).toList = '/' :: rest := by
  obtain ⟨rest, text⟩ : ∃ rest, (c.pathFor call).toList = '/' :: rest := rooted.pathFor_eq_cons
  cases parameters : call.parameters? with
  | none => exact ⟨rest, by rw [address_of_none parameters, text]⟩
  | some present =>
    refine ⟨rest ++ '?' :: FormEncoding.encodePairs (presentParameters present), ?_⟩
    rw [address_of_some parameters, toList_addressOf, text]
    rfl

/-- The path of what a call is about is one text as long as the name is. -/
lemma Rooted.isPathText_pathFor (names : ∀ name ∈ call.name?, IsPathText name.toList) :
    IsPathText (c.pathFor call).toList := by
  obtain ⟨noQuery, noFragment⟩ := rooted.plain
  cases named : call.name? with
  | none => simpa [Collection.pathFor, named] using rooted.plain
  | some name =>
    obtain ⟨noQuery', noFragment'⟩ := names name named
    rw [toList_pathFor c named]
    constructor <;> simp [noQuery, noFragment, noQuery', noFragment']

/-- The URI of a request is the target that its address is read as. -/
lemma Rooted.target_of_sent {r : Request} (sent : Sent c call r) :
    ∃ t, Target.ofChars (c.address call).toList = .ok t ∧ r.uri = { target := t } :=
  ((Uri.parse_eq_ok_iff rooted.address_eq_cons).1 sent.parsed).2

/-- If neither a query nor a fragment starts in the name of a call, the path and the query of its
request are its own. -/
theorem Rooted.uri_of_sent {r : Request} (names : ∀ name ∈ call.name?, IsPathText name.toList)
    (sent : Sent c call r) :
    r.uri.path = c.pathFor call ∧
      r.uri.query = call.parameters?.map fun parameters =>
        String.ofList (FormEncoding.encodePairs (presentParameters parameters)) := by
  have plain := rooted.isPathText_pathFor names
  have spelled : String.ofList (c.pathFor call).toList ≠ "" := by
    obtain ⟨rest, text⟩ : ∃ rest, (c.pathFor call).toList = '/' :: rest := rooted.pathFor_eq_cons
    simp [text]
  obtain ⟨t, read, uri⟩ := rooted.target_of_sent sent
  rw [uri]
  cases parameters : call.parameters? with
  | none =>
    rw [address_of_none parameters, Target.ofChars_path plain] at read
    split at read
    · cases read
      rw [Uri.path_of_target spelled]
      exact ⟨String.ofList_toList, rfl⟩
    · cases read
  | some present =>
    rw [address_of_some parameters, toList_addressOf] at read
    rw [Target.ofChars_append_query plain (FormEncoding.hash_not_mem_encodePairs _) read,
      Uri.path_of_target spelled]
    exact ⟨String.ofList_toList, rfl⟩

end

/-- The widgets in a namespace. -/
def widgets : Collection := ⟨"/apis/apps/v1/namespaces/ns/widgets"⟩

/-- The collection of the widgets is rooted. -/
lemma rooted_widgets : widgets.Rooted :=
  ⟨⟨"apis/apps/v1/namespaces/ns/widgets".toList, by decide⟩, by decide⟩

/-- A request to something at or below the path of the widgets, with a body in JSON if with any. -/
def widgetsRequest (method below : String) (query body : Option String) : Request where
  method := method
  uri.target := { spelledPath := widgets.path ++ below, query := query }
  headers := if body.isSome then jsonHeaders else {}
  body := body.getD ""

end Collection

end KindResolution
