import KindResolution.Proofs.Text.Separator
import KindResolution.Text.FormEncoding

/-!
# Reading form-encoded parameters back

A text is read back from its encoding byte by byte (`FormEncoding.decode?_encode`), and the
separators of a query do not occur in an encoded text. So a query is taken apart just where it was
put together: `FormEncoding.decodePairs_encodePairs`.
-/

namespace KindResolution.Text.FormEncoding

/-- The value of a hexadecimal digit is read back. -/
lemma hexValue?_hexDigit : ∀ n < 16, hexValue? (hexDigit n) = some n := by
  decide

/-- A byte that is written as a character is the encoding of that character, and the character means
nothing else. -/
lemma utf8EncodeChar_of_isPlain {b : UInt8} (plain : isPlain b = true) :
    String.utf8EncodeChar (Char.ofNat b.toNat) = [b] ∧ Char.ofNat b.toNat ≠ '%' ∧
      Char.ofNat b.toNat ≠ '+' := by
  have all : ∀ n < 256, isPlain (UInt8.ofNat n) = true →
      String.utf8EncodeChar (Char.ofNat n) = [UInt8.ofNat n] ∧ Char.ofNat n ≠ '%' ∧
        Char.ofNat n ≠ '+' := by
    decide +kernel
  simpa [plain] using all b.toNat b.toNat_lt

/-- No byte is written with a separator of a query. -/
lemma separator_not_mem_encodeByte (b : UInt8) :
    '&' ∉ encodeByte b ∧ '=' ∉ encodeByte b ∧ '#' ∉ encodeByte b := by
  have all : ∀ n < 256, '&' ∉ encodeByte (UInt8.ofNat n) ∧ '=' ∉ encodeByte (UInt8.ofNat n) ∧
      '#' ∉ encodeByte (UInt8.ofNat n) := by
    decide +kernel
  simpa using all b.toNat b.toNat_lt

/-- A byte is read back from the characters that it is written as, whatever stands behind them. -/
lemma decodeBytes_encodeByte (b : UInt8) (rest : List Char) :
    decodeBytes (encodeByte b ++ rest) = b :: decodeBytes rest := by
  unfold encodeByte
  split
  · next space =>
    rw [space, List.singleton_append, decodeBytes]
    · rfl
    · simp
  · split
    · next plain =>
      obtain ⟨encoded, percent, plus⟩ := utf8EncodeChar_of_isPlain plain
      rw [List.singleton_append, decodeBytes, if_neg plus, encoded]
      · rfl
      · intro _ _ _ e
        exact absurd e percent
    · have high : hexValue? (hexDigit (b.toNat / 16)) = some (b.toNat / 16) :=
        hexValue?_hexDigit _ (by have := b.toNat_lt; omega)
      have low : hexValue? (hexDigit (b.toNat % 16)) = some (b.toNat % 16) :=
        hexValue?_hexDigit _ (by omega)
      show decodeBytes ('%' :: hexDigit (b.toNat / 16) :: hexDigit (b.toNat % 16) :: rest) = _
      rw [decodeBytes]
      simp only [high, low]
      rw [Nat.div_add_mod, UInt8.ofNat_toNat]

/-- A text is read back from its encoding. -/
theorem decode?_encode (s : String) : decode? (encode s) = some s := by
  have read : ∀ (bs : List UInt8) (rest : List Char),
      decodeBytes (bs.flatMap encodeByte ++ rest) = bs ++ decodeBytes rest := by
    intro bs
    induction bs with
    | nil => exact fun rest => rfl
    | cons b bs ih =>
      intro rest
      rw [List.flatMap_cons, List.append_assoc, decodeBytes_encodeByte, ih, List.cons_append]
  have bytesOf : decodeBytes (encode s) = bytes s.toList := by
    have e := read (bytes s.toList) []
    simpa [encode, decodeBytes] using e
  have utf8 : (⟨(bytes s.toList).toArray⟩ : ByteArray) = s.toByteArray := by
    rw [← String.utf8Encode_toList, List.utf8Encode, ← List.data_toByteArray]
    rfl
  rw [decode?, bytesOf, utf8, String.fromUTF8?, dif_pos s.isValidUTF8]
  rfl

/-- No separator stands in an encoded text. -/
lemma separator_not_mem_encode (s : String) :
    '&' ∉ encode s ∧ '=' ∉ encode s ∧ '#' ∉ encode s := by
  simp only [encode, List.mem_flatMap, not_exists, not_and]
  exact ⟨fun b _ => (separator_not_mem_encodeByte b).1,
    fun b _ => (separator_not_mem_encodeByte b).2.1,
    fun b _ => (separator_not_mem_encodeByte b).2.2⟩

/-- An encoded pair has no ampersand in it, and no fragment starts there. -/
lemma separator_not_mem_encodePair (p : String × String) :
    '&' ∉ encodePair p ∧ '#' ∉ encodePair p := by
  obtain ⟨name, _, name'⟩ := separator_not_mem_encode p.1
  obtain ⟨value, _, value'⟩ := separator_not_mem_encode p.2
  simp [encodePair, name, name', value, value']

/-- No fragment starts in encoded pairs. -/
lemma hash_not_mem_encodePairs (ps : List (String × String)) : '#' ∉ encodePairs ps := by
  simp only [encodePairs, List.mem_flatMap, not_exists, not_and]
  intro p _
  simp [(separator_not_mem_encodePair p).2]

/-- An encoded pair is decoded again. -/
lemma decodePair?_encodePair (p : String × String) : decodePair? (encodePair p) = some p := by
  have goes := forall_bne_of_not_mem (separator_not_mem_encode p.1).2.1
  have stops : ('=' != '=') = false := by decide
  unfold decodePair? encodePair
  rw [takeWhile_append_cons _ goes stops, dropWhile_append_cons _ goes stops, List.drop_one,
    List.tail_cons, decode?_encode, decode?_encode]
  rfl

/-- There is always a first part. -/
lemma splitAt_ne_nil (sep : Char) (cs : List Char) : splitAt sep cs ≠ [] := by
  cases cs with
  | nil => simp [splitAt]
  | cons c rest =>
    rw [splitAt]
    split
    · simp
    · cases splitAt sep rest <;> simp

/-- The parts of a text with a separator in it are those in front of the separator and those behind
it. -/
lemma splitAt_append_cons (sep : Char) (first rest : List Char) :
    splitAt sep (first ++ sep :: rest) = splitAt sep first ++ splitAt sep rest := by
  induction first with
  | nil => simp [splitAt]
  | cons c first ih =>
    simp only [List.cons_append, splitAt, ih]
    split
    · rfl
    · cases parts : splitAt sep first with
      | nil => exact absurd parts (splitAt_ne_nil sep first)
      | cons part parts => rfl

/-- A text without the separator is its only part. -/
lemma splitAt_of_not_mem {sep : Char} {cs : List Char} (absent : sep ∉ cs) :
    splitAt sep cs = [cs] := by
  induction cs with
  | nil => rfl
  | cons c cs ih =>
    simp only [List.mem_cons, not_or] at absent
    simp [splitAt, Ne.symm absent.1, ih absent.2]

/-- A text that is one part has no separators in it. -/
lemma not_mem_of_splitAt {sep : Char} {cs part : List Char} (one : splitAt sep cs = [part]) :
    sep ∉ cs := by
  intro member
  obtain ⟨first, rest, rfl, _⟩ := List.eq_append_cons_of_mem member
  have lengths := congrArg List.length one
  rw [splitAt_append_cons, List.length_append, List.length_singleton] at lengths
  have front := List.length_pos_iff.2 (splitAt_ne_nil sep first)
  have back := List.length_pos_iff.2 (splitAt_ne_nil sep rest)
  omega

/-- Each text that is put behind a separator adds one part. -/
lemma splitAt_append_flatMap {α : Type} {sep : Char} {f : α → List Char} {xs : List α}
    (absent : ∀ x ∈ xs, sep ∉ f x) (cs : List Char) :
    splitAt sep (cs ++ xs.flatMap fun x => sep :: f x) = splitAt sep cs ++ xs.map f := by
  induction xs generalizing cs with
  | nil => simp
  | cons x xs ih =>
    rw [List.forall_mem_cons] at absent
    have next : cs ++ (x :: xs).flatMap (fun x => sep :: f x) =
        (cs ++ sep :: f x) ++ xs.flatMap fun x => sep :: f x := by
      simp
    rw [next, ih absent.2, splitAt_append_cons, splitAt_of_not_mem absent.1]
    simp

/-- Parameters add one part each to the text that they stand behind. -/
lemma splitAt_append_encodePairs (cs : List Char) (ps : List (String × String)) :
    splitAt '&' (cs ++ encodePairs ps) = splitAt '&' cs ++ ps.map encodePair :=
  splitAt_append_flatMap (fun p _ => (separator_not_mem_encodePair p).1) cs

/-- Parameters are read back from the query that they are written to. -/
theorem decodePairs_encodePairs (ps : List (String × String)) :
    decodePairs (encodePairs ps) = some ps := by
  have parts : splitAt '&' (encodePairs ps) = [] :: ps.map encodePair :=
    splitAt_append_encodePairs [] ps
  have nonempty : (ps.map encodePair).filter (!·.isEmpty) = ps.map encodePair := by
    refine List.filter_eq_self.2 fun part member => ?_
    obtain ⟨p, _, rfl⟩ := List.mem_map.1 member
    simp [encodePair]
  have read : (ps.map encodePair).mapM decodePair? = some ps := by
    clear parts nonempty
    induction ps with
    | nil => rfl
    | cons p ps ih =>
      rw [List.map_cons, List.mapM_cons, decodePair?_encodePair, ih]
      rfl
  rw [decodePairs, parts, List.filter_cons_of_neg (by simp), nonempty, read]

end KindResolution.Text.FormEncoding
