import KindResolution.Http.Uri
import KindResolution.Proofs.Outcome
import KindResolution.Proofs.Text.Separator

/-!
# Reading targets

What a target is read from: the path goes up to the first question mark or the fragment, the query
from there to the fragment, and the fragment is dropped. A URI whose text begins with a slash is a
target and nothing else. What is read holds only characters that may stand where they stand:
`Target.wellFormed_of_ofChars`.
-/

namespace KindResolution.Http

open Text

/-- Neither a query nor a fragment starts in a text. -/
def IsPathText (cs : List Char) : Prop :=
  '?' ∉ cs ∧ '#' ∉ cs

/-- Whether a text is that of a path can be computed. -/
instance (cs : List Char) : Decidable (IsPathText cs) :=
  inferInstanceAs (Decidable (_ ∧ _))

namespace Target

/-- A text in which neither a query nor a fragment starts goes on to its end. -/
lemma forall_of_isPathText {cs : List Char} (path : IsPathText cs) :
    ∀ c ∈ cs, (c != '?' && c != '#') = true := by
  intro c member
  rw [Bool.and_eq_true]
  exact ⟨forall_bne_of_not_mem path.1 c member, forall_bne_of_not_mem path.2 c member⟩

/-- A text in which neither a query nor a fragment starts is a path. -/
lemma ofChars_path {path : List Char} (plain : IsPathText path) :
    ofChars path =
      if path.all isPathChar then .ok { spelledPath := String.ofList path }
      else .error .invalidCharacter := by
  have before : path.takeWhile (fun c => c != '?' && c != '#') = path :=
    List.takeWhile_eq_self_iff.2 (forall_of_isPathText plain)
  simp only [ofChars, before, List.drop_length]
  cases path.all isPathChar <;> rfl

/-- Behind the first question mark stands the query, up to a fragment. -/
lemma ofChars_query {path : List Char} (rest : List Char) (plain : IsPathText path) :
    ofChars (path ++ '?' :: rest) =
      if path.all isPathChar then
        (readUpToFragment isQueryChar rest).map fun query =>
          { spelledPath := String.ofList path, query := some (String.ofList query) }
      else .error .invalidCharacter := by
  have before : (path ++ '?' :: rest).takeWhile (fun c => c != '?' && c != '#') = path :=
    takeWhile_append_cons _ (forall_of_isPathText plain) (by decide)
  simp only [ofChars, before, List.drop_left]
  cases path.all isPathChar with
  | false => rfl
  | true => cases readUpToFragment isQueryChar rest <;> rfl

/-- A text in which no fragment starts is read to its end. -/
lemma readUpToFragment_of_not_mem {allowed : Char → Bool} {part : List Char} (plain : '#' ∉ part) :
    readUpToFragment allowed part =
      if part.all allowed then .ok part else .error .invalidCharacter := by
  unfold readUpToFragment
  rw [List.takeWhile_eq_self_iff.2 (forall_bne_of_not_mem plain)]

/-- What stands behind the first fragment sign is not read. -/
lemma readUpToFragment_append {allowed : Char → Bool} {part : List Char} (rest : List Char)
    (plain : '#' ∉ part) :
    readUpToFragment allowed (part ++ '#' :: rest) = readUpToFragment allowed part := by
  have goes := forall_bne_of_not_mem plain
  unfold readUpToFragment
  rw [takeWhile_append_cons _ goes (by decide), List.takeWhile_eq_self_iff.2 goes]

/-- A path with a query in which no fragment starts is taken apart between the two. -/
lemma ofChars_append_query {path query : List Char} {t : Target} (plain : IsPathText path)
    (noFragment : '#' ∉ query) (read : ofChars (path ++ '?' :: query) = .ok t) :
    t = { spelledPath := String.ofList path, query := some (String.ofList query) } := by
  rw [ofChars_query query plain, readUpToFragment_of_not_mem noFragment] at read
  split at read
  · split at read
    · cases read
      rfl
    · cases read
  · cases read

/-- The path and the query of a target hold only characters that may stand in them. -/
structure WellFormed (t : Target) : Prop where
  path : t.spelledPath.toList.all isPathChar = true
  query : ∀ query ∈ t.query, query.toList.all isQueryChar = true

/-- The root is a well-formed target. -/
lemma WellFormed.root : WellFormed {} :=
  ⟨rfl, by simp⟩

/-- Neither a query nor a fragment starts in a path. -/
lemma isPathText_of_all {cs : List Char} (allowed : cs.all isPathChar = true) : IsPathText cs := by
  rw [List.all_eq_true] at allowed
  constructor
  · intro question
    exact absurd (allowed _ question) (by decide)
  · intro fragment
    exact absurd (allowed _ fragment) (by decide)

/-- No fragment starts among characters of a query. -/
lemma not_fragment_of_all {cs : List Char} (allowed : cs.all isQueryChar = true) : '#' ∉ cs := by
  rw [List.all_eq_true] at allowed
  intro fragment
  exact absurd (allowed _ fragment) (by decide)

/-- Only allowed characters are read. -/
lemma all_of_readUpToFragment {allowed : Char → Bool} {cs part : List Char}
    (read : readUpToFragment allowed cs = .ok part) : part.all allowed = true := by
  simp only [readUpToFragment] at read
  split at read
  · rename_i all
    cases read
    exact all
  · cases read

/-- A target that is read is well-formed. -/
lemma wellFormed_of_ofChars {cs : List Char} {t : Target} (read : ofChars cs = .ok t) :
    t.WellFormed := by
  simp only [ofChars] at read
  split at read
  · cases read
  · rename_i all
    have path : (cs.takeWhile fun c => c != '?' && c != '#').all isPathChar = true := by
      simpa using all
    split at read
    · obtain ⟨query, readQuery, made⟩ := bind_eq_ok_iff.1 read
      cases made
      refine ⟨by rwa [String.toList_ofList], ?_⟩
      intro text same
      cases same
      rw [String.toList_ofList]
      exact all_of_readUpToFragment readQuery
    · cases read
      exact ⟨by rwa [String.toList_ofList], by simp⟩

/-- A fragment is dropped. -/
lemma ofChars_fragment {cs : List Char} (rest : List Char) (plain : '#' ∉ cs) :
    ofChars (cs ++ '#' :: rest) = ofChars cs := by
  by_cases question : '?' ∈ cs
  · -- the fragment starts in the query
    obtain ⟨path, query, rfl, absent⟩ := List.eq_append_cons_of_mem question
    simp only [List.mem_append, List.mem_cons, not_or] at plain
    obtain ⟨pathPlain, _, queryPlain⟩ := plain
    rw [List.append_assoc, List.cons_append, ofChars_query _ ⟨absent, pathPlain⟩,
      ofChars_query _ ⟨absent, pathPlain⟩, readUpToFragment_append rest queryPlain]
  · -- the fragment starts right behind the path
    have before : (cs ++ '#' :: rest).takeWhile (fun c => c != '?' && c != '#') = cs :=
      takeWhile_append_cons _ (forall_of_isPathText ⟨question, plain⟩) (by decide)
    rw [ofChars_path ⟨question, plain⟩]
    simp only [ofChars, before, List.drop_left]
    cases cs.all isPathChar <;> rfl

end Target

namespace Uri

/-- A text that begins with a slash is a URI exactly if it is not too long and is a target, and then
the URI is that target. -/
lemma parse_eq_ok_iff {s : String} {u : Uri} (rooted : ∃ rest, s.toList = '/' :: rest) :
    parse s = .ok u ↔ s.utf8ByteSize ≤ maxUriBytes ∧
      ∃ t, Target.ofChars s.toList = .ok t ∧ u = { target := t } := by
  obtain ⟨rest, text⟩ := rooted
  unfold parse
  by_cases long : maxUriBytes < s.utf8ByteSize
  · simp [long, Nat.not_le.2 long]
  · rw [if_neg long, text, and_iff_right (Nat.le_of_not_lt long)]
    show Except.bind _ _ = _ ↔ _
    rw [bind_eq_ok_iff]
    refine exists_congr fun t => and_congr_right fun _ => ?_
    exact ⟨fun made => (Except.ok.inj made).symm, fun made => congrArg _ made.symm⟩

/-- The path of a URI that is a target is spelled in it, if any is. -/
lemma path_of_target {t : Target} (spelled : t.spelledPath ≠ "") :
    path { target := t } = t.spelledPath := by
  simp [path, Target.path, spelled]

end Uri

end KindResolution.Http
