import KindResolution.Proofs.Collection.Address

/-!
# Names in requests

A name is put into the path as it is. A request addresses the object of a name exactly if the name
has neither a slash nor the start of a query or fragment in it: `Collection.addressesObject_iff`. A
slash makes more segments of it, a query swallows the end of it, and a fragment strips the request
of all its parameters, the one that makes a rehearsal of it included
(`Collection.fragment_strips_rehearsal`).
-/

namespace KindResolution.Collection

open Http Text

/-- What a URI has to be in order to address the object of a name: its path is that of the
collection with the name as one more segment, and its query holds the parameters of the call. -/
structure AddressesObject (c : Collection) (call : Call) (name : String) (u : Uri) : Prop where
  path : u.path = c.path ++ "/" ++ name
  segment : FormEncoding.splitAt '/' u.path.toList =
    FormEncoding.splitAt '/' c.path.toList ++ [name.toList]
  query : u.query = call.parameters?.map fun parameters =>
    String.ofList (FormEncoding.encodePairs (presentParameters parameters))

/-- Whether the parameter that makes a rehearsal of a call is in a query. -/
def IsRehearsal (u : Uri) : Prop :=
  ∃ query, u.query = some query ∧ "dryRun=All".toList ∈ FormEncoding.splitAt '&' query.toList

/-- A rehearsal has the parameter that makes it one. -/
lemma Call.dryRunPair_mem {call : Call} (dryRun : call.isDryRun = true) :
    ∃ parameters, call.parameters? = some parameters ∧
      dryRunPair ∈ presentParameters parameters := by
  cases call with
  | list _ | get _ => cases dryRun
  | create p _ | replace _ p _ =>
    obtain ⟨_, manager⟩ := p
    cases dryRun
    exact ⟨_, rfl, List.mem_cons_self⟩
  | delete _ p =>
    obtain ⟨_, _, _, _⟩ := p
    cases dryRun
    exact ⟨_, rfl, List.mem_cons_self⟩

section

variable {c : Collection} {call : Call} {name : String} {r : Request}

/-- A request whose name has no separator in it addresses the object of that name. -/
lemma AddressesObject.of_not_mem (rooted : c.Rooted) (named : call.name? = some name)
    (sent : Sent c call r) (oneSegment : '/' ∉ name.toList) (plain : IsPathText name.toList) :
    AddressesObject c call name r.uri := by
  have names : ∀ other ∈ call.name?, IsPathText other.toList := by
    intro other member
    rw [named] at member
    cases member
    exact plain
  obtain ⟨path, query⟩ := rooted.uri_of_sent names sent
  refine ⟨by rw [path, pathFor, named], ?_, query⟩
  rw [path, toList_pathFor c named, FormEncoding.splitAt_append_cons,
    FormEncoding.splitAt_of_not_mem oneSegment]

/-- A name whose object is addressed has no separator in it. -/
lemma AddressesObject.not_mem (rooted : c.Rooted) (sent : Sent c call r)
    (addressed : AddressesObject c call name r.uri) :
    '/' ∉ name.toList ∧ IsPathText name.toList := by
  have text : r.uri.path.toList = c.path.toList ++ '/' :: name.toList := by
    simp [addressed.path]
  constructor
  · have parts := addressed.segment
    rw [text, FormEncoding.splitAt_append_cons] at parts
    exact FormEncoding.not_mem_of_splitAt (List.append_cancel_left parts)
  · obtain ⟨t, read, uri⟩ := rooted.target_of_sent sent
    have plain := Uri.isPathText_path read
    rw [← uri, text] at plain
    simp only [IsPathText, List.mem_append, List.mem_cons, not_or] at plain
    exact ⟨plain.1.2.2, plain.2.2.2⟩

/-- If no fragment starts in the name, the query ends in the parameters of the call. -/
lemma query_of_sent {parameters : List (String × Option String)} (rooted : c.Rooted)
    (known : call.parameters? = some parameters) (named : call.name? = some name)
    (noFragment : '#' ∉ name.toList) (sent : Sent c call r) :
    ∃ front, r.uri.query =
      some (String.ofList (front ++ FormEncoding.encodePairs (presentParameters parameters))) := by
  obtain ⟨t, read, uri⟩ := rooted.target_of_sent sent
  rw [address_of_some known, toList_addressOf, toList_pathFor c named] at read
  -- the query starts at the first question mark, which may be one in the name
  have question : '?' ∈ c.path.toList ++ '/' :: name.toList ++ ['?'] := by simp
  obtain ⟨path, front, split, absent⟩ := List.eq_append_cons_of_mem question
  have noHash : '#' ∉ c.path.toList ++ '/' :: name.toList ++ ['?'] := by
    simp [rooted.plain.2, noFragment]
  rw [split] at noHash
  simp only [List.mem_append, List.mem_cons, not_or] at noHash
  obtain ⟨pathHash, _, frontHash⟩ := noHash
  have queryHash : '#' ∉ front ++ FormEncoding.encodePairs (presentParameters parameters) := by
    simp [frontHash, FormEncoding.hash_not_mem_encodePairs]
  rw [List.append_cons, split, List.append_assoc, List.cons_append] at read
  have made := Target.ofChars_append_query ⟨absent, pathHash⟩ queryHash read
  exact ⟨front, by rw [uri, made]; rfl⟩

/-- If a fragment starts in the name, the URI is read from what stands before it, whatever the call
is. -/
lemma ofChars_address_of_fragment {front rest : List Char} (rooted : c.Rooted)
    (named : call.name? = some name) (split : name.toList = front ++ '#' :: rest)
    (absent : '#' ∉ front) :
    Target.ofChars (c.address call).toList = Target.ofChars (c.path.toList ++ '/' :: front) := by
  have noHash : '#' ∉ c.path.toList ++ '/' :: front := by
    simp [rooted.plain.2, absent]
  have path : (c.pathFor call).toList = (c.path.toList ++ '/' :: front) ++ '#' :: rest := by
    simp [toList_pathFor c named, split]
  cases parameters : call.parameters? with
  | none => rw [address_of_none parameters, path, Target.ofChars_fragment _ noHash]
  | some present =>
    rw [address_of_some parameters, toList_addressOf, path, List.append_assoc, List.cons_append,
      Target.ofChars_fragment _ noHash]

/-- An address is no shorter than its path. -/
lemma utf8ByteSize_pathFor_le (c : Collection) (call : Call) :
    (c.pathFor call).utf8ByteSize ≤ (c.address call).utf8ByteSize := by
  cases parameters : call.parameters? with
  | none => rw [address_of_none parameters]
  | some present =>
    simp only [address_of_some parameters, addressOf, String.utf8ByteSize_append]
    omega

/-- If a fragment starts in the name, the request goes where the object of that name is read from.
-/
lemma get_of_fragment (rooted : c.Rooted) (named : call.name? = some name) (sent : Sent c call r)
    (fragment : '#' ∈ name.toList) : ∃ read, c.get name = .ok read ∧ read.uri = r.uri := by
  obtain ⟨front, rest, split, absent⟩ := List.eq_append_cons_of_mem fragment
  obtain ⟨short, target⟩ := (Uri.parse_eq_ok_iff rooted.address_eq_cons).1 sent.parsed
  have parsed : Uri.parse (c.address (.get name)) = .ok r.uri := by
    refine (Uri.parse_eq_ok_iff rooted.address_eq_cons).2 ⟨?_, ?_⟩
    · -- without parameters the address is no longer than it was
      have path : c.address (.get name) = c.pathFor call := by
        rw [address_of_none rfl, pathFor, pathFor, named]
        rfl
      rw [path]
      exact Nat.le_trans (utf8ByteSize_pathFor_le c call) short
    · rw [ofChars_address_of_fragment rooted rfl split absent,
        ← ofChars_address_of_fragment rooted named split absent]
      exact target
  refine ⟨{ method := "GET", uri := r.uri }, ?_, rfl⟩
  exact bind_eq_ok_iff.2 ⟨_, pathOf_eq_ok_iff.2 ⟨sent.named name named, rfl⟩,
    request_eq_ok_iff.2 ⟨r.uri, parsed, rfl⟩⟩

/-- A request addresses its object exactly if the name has no slash and starts neither a query nor a
fragment. Only a fragment undoes a rehearsal. -/
theorem addressesObject_iff (rooted : c.Rooted) (named : call.name? = some name)
    (ok : c.send call = .ok r) :
    (AddressesObject c call name r.uri ↔
      '/' ∉ name.toList ∧ '?' ∉ name.toList ∧ '#' ∉ name.toList) ∧
      (call.isDryRun = true → '#' ∉ name.toList → IsRehearsal r.uri) ∧
      ('#' ∈ name.toList → ∃ read, c.get name = .ok read ∧ read.uri = r.uri) := by
  have sent := sent_of_send ok
  refine ⟨⟨AddressesObject.not_mem rooted sent, fun plain => ?_⟩, ?_,
    get_of_fragment rooted named sent⟩
  · exact .of_not_mem rooted named sent plain.1 plain.2
  · intro dryRun noFragment
    obtain ⟨parameters, known, present⟩ := Call.dryRunPair_mem dryRun
    obtain ⟨front, query⟩ := query_of_sent rooted known named noFragment sent
    refine ⟨_, query, ?_⟩
    rw [String.toList_ofList, FormEncoding.splitAt_append_encodePairs]
    exact List.mem_append_right _ (List.mem_map_of_mem present)

end

/-- The rehearsal of a delete. -/
def rehearsedDelete (name : String) : Call :=
  .delete name { dryRun := true }

/-- Of three names, the one with an encoded fragment sign is addressed, and those that start a query
or a fragment are not. -/
theorem addressesObject_iff_widgets : ∃ encoded queried stripped read : Request,
    widgets.send (rehearsedDelete "blog%23") = .ok encoded ∧
      widgets.send (rehearsedDelete "blog?x=1") = .ok queried ∧
      widgets.send (rehearsedDelete "blog/log#1") = .ok stripped ∧
      widgets.get "blog/log#1" = .ok read ∧
      AddressesObject widgets (rehearsedDelete "blog%23") "blog%23" encoded.uri ∧
      IsRehearsal encoded.uri ∧
      ¬ AddressesObject widgets (rehearsedDelete "blog?x=1") "blog?x=1" queried.uri ∧
      IsRehearsal queried.uri ∧ read.uri = stripped.uri := by
  have encoded : widgets.send (rehearsedDelete "blog%23") =
      .ok (widgetsRequest "DELETE" "/blog%23" (some "&dryRun=All") (some "\x7b\x7d")) := by
    decide +kernel
  have queried : widgets.send (rehearsedDelete "blog?x=1") =
      .ok (widgetsRequest "DELETE" "/blog" (some "x=1?&dryRun=All") (some "\x7b\x7d")) := by
    decide +kernel
  have stripped : widgets.send (rehearsedDelete "blog/log#1") =
      .ok (widgetsRequest "DELETE" "/blog/log" none (some "\x7b\x7d")) := by
    decide +kernel
  obtain ⟨addressed, rehearsal, _⟩ := addressesObject_iff rooted_widgets rfl encoded
  obtain ⟨misled, rehearsal', _⟩ := addressesObject_iff rooted_widgets rfl queried
  obtain ⟨_, _, lost⟩ := addressesObject_iff rooted_widgets rfl stripped
  obtain ⟨read, got, same⟩ := lost (by decide)
  exact ⟨_, _, _, read, encoded, queried, stripped, got, addressed.2 (by decide),
    rehearsal rfl (by decide), fun claimed => absurd (misled.1 claimed) (by decide),
    rehearsal' rfl (by decide), same⟩

/-- The rehearsal of deleting an object whose name ends in a fragment sign deletes another object,
and is none. -/
theorem fragment_strips_rehearsal : widgets.Rooted ∧ ∃ r,
    widgets.delete "blog#" { dryRun := true } = .ok r ∧ r.uri.path = widgets.path ++ "/blog" ∧
      ¬ AddressesObject widgets (rehearsedDelete "blog#") "blog#" r.uri ∧ ¬ IsRehearsal r.uri := by
  have sent : widgets.delete "blog#" { dryRun := true } =
      .ok (widgetsRequest "DELETE" "/blog" none (some "\x7b\x7d")) := by
    decide +kernel
  refine ⟨rooted_widgets, _, sent, by decide, fun addressed => ?_, ?_⟩
  · exact absurd addressed.path (by decide)
  · rintro ⟨query, absent, _⟩
    cases absent

end KindResolution.Collection
