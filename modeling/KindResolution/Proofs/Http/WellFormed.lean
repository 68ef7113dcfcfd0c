import KindResolution.Proofs.Http.Target

/-!
# Well-formed addresses

The addresses that there are: a target holds only characters that may stand in its path and in its
query, and a URI without a scheme is a target or else an authority alone. Every text that can be read
is read as such an address, and the text of such a target is read back, also behind a longer path. A
text that begins with the scheme of secure connections is read with an authority or not at all.
-/

namespace KindResolution.Http

namespace Target

/-- No path is empty. -/
lemma path_ne_empty (t : Target) : t.path ≠ "" := by
  unfold path
  split
  · decide
  · assumption

/-- The path of a well-formed target is made of characters of paths. -/
lemma WellFormed.all_path {t : Target} (formed : t.WellFormed) :
    t.path.toList.all isPathChar = true := by
  unfold Target.path
  split
  · rfl
  · exact formed.path

/-- Behind a path, the text of a target that begins with a slash is read back: its path goes on
where the first one ends, and its query stays. -/
lemma ofChars_append_text {before : List Char} {t : Target}
    (allowed : before.all isPathChar = true) (formed : t.WellFormed)
    (rooted : t.text.toList.head? = some '/') :
    ofChars (before ++ t.text.toList) =
      .ok { spelledPath := String.ofList (before ++ t.path.toList), query := t.query } := by
  obtain ⟨spelled, query⟩ := t
  cases query with
  | none =>
    have path : (before ++ (path ⟨spelled, none⟩).toList).all isPathChar = true := by
      rw [List.all_append, allowed, formed.all_path, Bool.and_self]
    show ofChars (before ++ (Target.path ⟨spelled, none⟩).toList) = _
    rw [ofChars_path (isPathText_of_all path), if_pos path]
  | some query =>
    have text : text ⟨spelled, some query⟩ = spelled ++ "?" ++ query := rfl
    -- the slash at the beginning is one of the path, so that the path is the spelled one
    have spelledPath : path ⟨spelled, some query⟩ = spelled := by
      refine if_neg ?_
      rintro rfl
      rw [text] at rooted
      simp at rooted
    have allowedPath : (before ++ spelled.toList).all isPathChar = true := by
      rw [List.all_append, allowed, formed.path, Bool.and_self]
    have allowedQuery : query.toList.all isQueryChar = true := formed.query query rfl
    have apart : before ++ (spelled ++ "?" ++ query).toList =
        (before ++ spelled.toList) ++ '?' :: query.toList := by
      simp
    rw [text, apart, ofChars_query _ (isPathText_of_all allowedPath), if_pos allowedPath,
      readUpToFragment_of_not_mem (not_fragment_of_all allowedQuery), if_pos allowedQuery,
      spelledPath]
    simp [Except.map]

/-- Behind a path, the text of a target that begins with a slash is read as a target again, unless it
gets too long. -/
lemma parse_append_text {before : String} {t : Target}
    (allowed : before.toList.all isPathChar = true) (formed : t.WellFormed)
    (rooted : t.text.toList.head? = some '/')
    (short : (before ++ t.text).utf8ByteSize ≤ maxUriBytes) :
    parse (before ++ t.text) = .ok { spelledPath := before ++ t.path, query := t.query } := by
  unfold parse
  rw [if_neg (Nat.not_lt.2 short), String.toList_append,
    ofChars_append_text allowed formed rooted, String.ofList_append, String.ofList_toList,
    String.ofList_toList]

/-- The path behind a prefix is the prefix and the path. -/
lemma path_append {before : String} {t : Target} (query : Option String) :
    path { spelledPath := before ++ t.path, query := query } = before ++ t.path := by
  refine if_neg fun empty => t.path_ne_empty ?_
  exact (String.append_eq_empty_iff.1 empty).2

end Target

namespace Uri

/-- A URI has a well-formed target, and if it has no scheme, it is a target or an authority alone. -/
structure WellFormed (u : Uri) : Prop where
  target : u.target.WellFormed
  alone : u.scheme = none → u.authority ≠ "" → u.target = {}

/-- The path of a well-formed address is made of characters of paths. -/
lemma WellFormed.all_path {u : Uri} (formed : u.WellFormed) :
    u.path.toList.all Target.isPathChar = true := by
  unfold Uri.path
  split
  · rfl
  · exact formed.target.all_path

/-- The target that a URI asks for: the root if the URI is an authority alone. -/
def asked (u : Uri) : Target :=
  u.target?.getD {}

/-- A well-formed address asks for its own target. -/
lemma WellFormed.asked {u : Uri} (formed : u.WellFormed) : u.asked = u.target := by
  unfold Uri.asked target?
  split
  · rfl
  · next addressed =>
    simp only [Bool.or_eq_true, decide_eq_true_eq, not_or] at addressed
    obtain ⟨noScheme, authority⟩ := addressed
    exact (formed.alone (by simpa using noScheme) authority).symm

/-- The path that a URI asks for is its path, or a slash if it has none. -/
lemma WellFormed.path_asked {u : Uri} (formed : u.WellFormed) :
    u.asked.path = if u.path = "" then "/" else u.path := by
  rw [formed.asked]
  by_cases empty :
      (u.scheme.isNone && u.target.spelledPath = "" && u.target.query.isNone) = true
  · have path : u.path = "" := if_pos empty
    simp only [Bool.and_eq_true, decide_eq_true_eq] at empty
    rw [path, if_pos rfl]
    exact if_pos empty.1.2
  · have path : u.path = u.target.path := if_neg empty
    rw [path, if_neg u.target.path_ne_empty]

/-- A well-formed address asks with its own query. -/
lemma WellFormed.query_asked {u : Uri} (formed : u.WellFormed) : u.asked.query = u.query :=
  congrArg Target.query formed.asked

/-- A well-formed target alone is a well-formed address. -/
lemma WellFormed.ofTarget {t : Target} (formed : t.WellFormed) : WellFormed { target := t } :=
  ⟨formed, fun _ authority => absurd rfl authority⟩

/-- An authority alone is a well-formed address. -/
lemma WellFormed.ofAuthority (authority : String) : WellFormed { authority := authority } :=
  ⟨.root, fun _ _ => rfl⟩

/-- A well-formed target behind a scheme and an authority is a well-formed address. -/
lemma WellFormed.absolute {t : Target} (formed : t.WellFormed) (scheme authority : String) :
    WellFormed { scheme := some scheme, authority := authority, target := t } :=
  ⟨formed, by simp⟩

/-- Nothing in the path of a URI that is a target starts a query or a fragment. -/
lemma isPathText_path {cs : List Char} {t : Target} (read : Target.ofChars cs = .ok t) :
    IsPathText (path { target := t }).toList :=
  Target.isPathText_of_all (WellFormed.ofTarget (Target.wellFormed_of_ofChars read)).all_path

/-- Whatever is read as a URI is well-formed. -/
lemma wellFormed_of_parse {s : String} {u : Uri} (read : parse s = .ok u) : u.WellFormed := by
  unfold parse at read
  split at read
  · cases read
  -- one case for each kind of text: empty, an asterisk, a target, one character, and any other
  split at read
  · cases read
  · cases read
    exact .ofTarget ⟨by decide, by simp⟩
  · obtain ⟨t, readTarget, made⟩ := bind_eq_ok_iff.1 read
    cases made
    exact .ofTarget (Target.wellFormed_of_ofChars readTarget)
  · obtain ⟨⟨authority, rest⟩, _, made⟩ := bind_eq_ok_iff.1 read
    dsimp only at made
    split at made
    · cases made
      exact .ofAuthority _
    · cases made
  · obtain ⟨⟨scheme, rest⟩, _, behindScheme⟩ := bind_eq_ok_iff.1 read
    cases scheme with
    | none =>
      obtain ⟨⟨authority, rest⟩, _, made⟩ := bind_eq_ok_iff.1 behindScheme
      dsimp only at made
      split at made
      · cases made
        exact .ofAuthority _
      · cases made
    | some scheme =>
      obtain ⟨⟨authority, rest⟩, _, behindAuthority⟩ := bind_eq_ok_iff.1 behindScheme
      dsimp only at behindAuthority
      split at behindAuthority
      · cases behindAuthority
      · obtain ⟨t, readTarget, made⟩ := bind_eq_ok_iff.1 behindAuthority
        cases made
        exact .absolute (Target.wellFormed_of_ofChars readTarget) scheme _

/-- A text that begins with the scheme of secure connections is read as a URI with this scheme and
with an authority, if it is read at all. -/
lemma https_of_parse {rest : String} {u : Uri} (read : parse ("https://" ++ rest) = .ok u) :
    u.scheme = some "https" ∧ u.authority ≠ "" := by
  have text : ("https://" ++ rest).toList = "https://".toList ++ rest.toList :=
    String.toList_append
  have scheme : readScheme ("https://".toList ++ rest.toList) = .ok (some "https", rest.toList) :=
    rfl
  rw [parse, text] at read
  split at read
  · cases read
  · -- the text begins with a letter and has more than one character
    replace read : Except.bind (readScheme ("https://".toList ++ rest.toList)) _ = _ := read
    obtain ⟨_, same, behindScheme⟩ := bind_eq_ok_iff.1 read
    cases scheme.symm.trans same
    obtain ⟨⟨authority, rest⟩, _, behindAuthority⟩ := bind_eq_ok_iff.1 behindScheme
    dsimp only at behindAuthority
    split at behindAuthority
    · cases behindAuthority
    · next nonempty =>
      obtain ⟨t, _, made⟩ := bind_eq_ok_iff.1 behindAuthority
      cases made
      refine ⟨rfl, ?_⟩
      simpa [← String.toList_inj] using nonempty

end Uri

end KindResolution.Http
