import KindResolution.Proofs.Json.Scalars

/-!
# Reading values back from their texts

A value whose numbers are integers of 64 bits is read back from its text, with nothing left behind
it (`Reader.read_text`), so such values have different texts (`eq_of_read_text`). Each part of a
text is read up to the delimiter that stands behind it, which is what the lemmas before say for any
rest that begins with one.
-/

namespace KindResolution.Json

open KindResolution.Text

mutual

/-- Whether all numbers in a value are integers that fit 64 bits, with or without a sign. -/
def Integral : Json → Prop
  | .number (.integer n) => -Int.ofNat (Nat.pow 2 63) ≤ n ∧ n < Int.ofNat (Nat.pow 2 64)
  | .number (.real _) => False
  | .array elements => IntegralElements elements
  | .object members => IntegralMembers members
  | _ => True

/-- Whether all numbers in the elements of a list are integers that fit 64 bits. -/
def IntegralElements : List Json → Prop
  | [] => True
  | element :: rest => Integral element ∧ IntegralElements rest

/-- Whether all numbers in the values of a list of members are integers that fit 64 bits. -/
def IntegralMembers : List (String × Json) → Prop
  | [] => True
  | (_, value) :: rest => Integral value ∧ IntegralMembers rest

end

/-- The numbers in an object are integers of 64 bits if those in all its members are. -/
lemma integralMembers_iff {members : List (String × Json)} :
    IntegralMembers members ↔ ∀ member ∈ members, member.2.Integral := by
  induction members with
  | nil => simp [IntegralMembers]
  | cons member rest ih => simp [IntegralMembers, ih]

namespace Reader

/-- The text of a value begins with a character that is neither space nor closes an array. -/
lemma render_eq_cons {v : Json} (integral : v.Integral) :
    ∃ c cs, v.render = c :: cs ∧ isSpace c = false ∧ c ≠ ']' := by
  match v with
  | .null | .bool true | .bool false | .string _ | .array _ | .object _ =>
    exact ⟨_, _, rfl, rfl, by decide⟩
  | .number (.integer (.negSucc n)) => exact ⟨_, _, rfl, rfl, by decide⟩
  | .number (.integer (.ofNat n)) =>
    cases digits : decimal n with
    | nil => exact absurd digits (decimal_ne_nil n)
    | cons c cs =>
      have digit : isDigit c = true := isDigit_of_mem_decimal (digits ▸ List.mem_cons_self)
      refine ⟨c, cs, digits, ?_, ?_⟩
      · cases space : isSpace c with
        | false => rfl
        | true =>
          simp only [isSpace, Bool.or_eq_true, decide_eq_true_eq] at space
          rcases space with ((rfl | rfl) | rfl) | rfl <;> cases digit
      · rintro rfl
        cases digit
  | .number (.real _) => exact absurd integral (by simp [Integral])

/-- So do the texts of elements. -/
lemma renderElements_eq_cons {e : Json} {es : List Json} (integral : IntegralElements (e :: es)) :
    ∃ c cs, renderElements (e :: es) = c :: cs ∧ isSpace c = false ∧ c ≠ ']' := by
  obtain ⟨c, cs, text, solid, more⟩ := render_eq_cons integral.1
  cases es with
  | nil => exact ⟨c, cs, text, solid, more⟩
  | cons next es =>
    refine ⟨c, cs ++ ',' :: renderElements (next :: es), ?_, solid, more⟩
    rw [renderElements, text, List.cons_append]

/-- The text of a member is its key, a colon and its value. -/
lemma renderMembers_singleton (key : String) (v : Json) :
    renderMembers [(key, v)] =
      '"' :: (key.toList.flatMap escapeChar ++ '"' :: ':' :: v.render) := by
  simp [renderMembers, renderString]

/-- Between the texts of two members stands a comma. -/
lemma renderMembers_cons (key : String) (v : Json) (next : String × Json)
    (ms : List (String × Json)) :
    renderMembers ((key, v) :: next :: ms) =
      '"' :: (key.toList.flatMap escapeChar ++
        '"' :: ':' :: (v.render ++ ',' :: renderMembers (next :: ms))) := by
  simp [renderMembers, renderString]

/-- The text of members begins with the quote of a key. -/
lemma renderMembers_eq_cons (key : String) (v : Json) (ms : List (String × Json)) :
    ∃ cs, renderMembers ((key, v) :: ms) = '"' :: cs := by
  cases ms with
  | nil => exact ⟨_, renderMembers_singleton key v⟩
  | cons next ms => exact ⟨_, renderMembers_cons key v next ms⟩

/-- The elements of an array end at its bracket. -/
lemma readElements_last {fuel : Nat} {cs rest : List Char} {d : Document}
    (step : readValue fuel cs = ⟨d, some (']' :: rest)⟩) :
    readElements (fuel + 1) cs = ⟨[d], none, some rest⟩ := by
  rw [readElements, step]
  rfl

/-- Behind a comma the elements of an array go on. -/
lemma readElements_next {fuel : Nat} {cs rest : List Char} {c : Char} {d : Document}
    (step : readValue fuel cs = ⟨d, some (',' :: c :: rest)⟩) (solid : isSpace c = false)
    (more : c ≠ ']') :
    readElements (fuel + 1) cs = .cons d (readElements fuel (c :: rest)) := by
  have comma : skipSpace (',' :: c :: rest) = ',' :: c :: rest := rfl
  rw [readElements, step]
  simp [comma, skipSpace_cons rest solid, more]

/-- The members of an object end at its brace. -/
lemma readMembers_last {fuel : Nat} {cs after rest : List Char} {key : Key} {d : Document}
    (name : readString .start cs = .ok (key, ':' :: after))
    (step : readValue fuel after = ⟨d, some ('\x7d' :: rest)⟩) :
    readMembers (fuel + 1) cs = ⟨[(key, d)], none, some rest⟩ := by
  have colon : skipSpace (':' :: after) = ':' :: after := rfl
  have brace : skipSpace ('\x7d' :: rest) = '\x7d' :: rest := rfl
  rw [readMembers, name]
  simp [colon, step, brace, Sequence.cons, Sequence.closed]

/-- Behind a comma the members of an object go on with the next key. -/
lemma readMembers_next {fuel : Nat} {cs after rest : List Char} {key : Key} {d : Document}
    (name : readString .start cs = .ok (key, ':' :: after))
    (step : readValue fuel after = ⟨d, some (',' :: '"' :: rest)⟩) :
    readMembers (fuel + 1) cs = .cons (key, d) (readMembers fuel rest) := by
  have colon : skipSpace (':' :: after) = ':' :: after := rfl
  have comma : skipSpace (',' :: '"' :: rest) = ',' :: '"' :: rest := rfl
  have quote : skipSpace ('"' :: rest) = '"' :: rest := rfl
  rw [readMembers, name]
  simp [colon, step, comma, quote]

/-- A value that begins with a digit is read as a number. -/
lemma readValue_digit {fuel : Nat} {c : Char} (cs : List Char) (digit : isDigit c = true) :
    readValue (fuel + 1) (c :: cs) = numberStep c false (c :: cs) := by
  have other : ∀ d : Char, isDigit d = false → c ≠ d := by
    rintro d no rfl
    exact Bool.noConfusion (digit.symm.trans no)
  have solid : isSpace c = false := by
    simp [isSpace, other ' ' rfl, other '\n' rfl, other '\t' rfl, other '\r' rfl]
  rw [readValue, skipSpace_cons cs solid]
  simp [other 'n' rfl, other 't' rfl, other 'f' rfl, other '-' rfl, digit]

/-- An array with elements is read element by element. -/
lemma readValue_array {fuel : Nat} {c : Char} (cs : List Char) (solid : isSpace c = false)
    (more : c ≠ ']') :
    readValue (fuel + 1) ('[' :: c :: cs) =
      ⟨.array (readElements fuel (c :: cs)).items (readElements fuel (c :: cs)).ending,
        (readElements fuel (c :: cs)).rest⟩ := by
  have bracket : skipSpace ('[' :: c :: cs) = '[' :: c :: cs := rfl
  rw [readValue, bracket]
  simp [skipSpace_cons cs solid, more, isDigit, digitValue?]

/-- An object with members is read member by member. -/
lemma readValue_object {fuel : Nat} (cs : List Char) :
    readValue (fuel + 1) ('\x7b' :: '"' :: cs) =
      ⟨.object (readMembers fuel cs).items (readMembers fuel cs).ending,
        (readMembers fuel cs).rest⟩ := by
  have brace : skipSpace ('\x7b' :: '"' :: cs) = '\x7b' :: '"' :: cs := rfl
  have quote : skipSpace ('"' :: cs) = '"' :: cs := rfl
  rw [readValue, brace]
  simp [quote, isDigit, digitValue?]

-- The bounds on the steps count down with the texts: a value takes twice as many as it has
-- characters, and the elements or members in it one more for the call that takes off the first.
mutual

/-- A value is read back from its text up to the next delimiter. -/
theorem readValue_render : ∀ (v : Json) {fuel : Nat} {rest : List Char}, v.Integral →
    2 * v.render.length ≤ fuel → Delimited rest →
    readValue fuel (v.render ++ rest) = ⟨.ofJson v, some rest⟩
  | .null, fuel + 1, rest, _, _, _ => rfl
  | .bool true, fuel + 1, rest, _, _, _ => rfl
  | .bool false, fuel + 1, rest, _, _, _ => rfl
  | .number (.integer (.ofNat n)), fuel + 1, rest, integral, _, stop => by
    have fits : n < Nat.pow 2 64 := Int.ofNat_lt.1 integral.2
    have number := fun start => numberStep_decimal start fits stop
    show readValue (fuel + 1) (decimal n ++ rest) = _
    cases digits : decimal n with
    | nil => exact absurd digits (decimal_ne_nil n)
    | cons c cs =>
      have digit : isDigit c = true := isDigit_of_mem_decimal (digits ▸ List.mem_cons_self)
      rw [digits, List.cons_append] at number
      rw [List.cons_append, readValue_digit _ digit]
      exact number c
  | .number (.integer (.negSucc n)), fuel + 1, rest, integral, _, stop => by
    have fits : n + 1 ≤ Nat.pow 2 63 := Int.ofNat_le.1 (Int.neg_le_neg_iff.1 integral.1)
    exact numberStep_negative '-' (Nat.succ_pos n) fits stop
  | .string s, fuel + 1, rest, _, _, _ => by
    have string := readString_text s rest
    show stringStep ((s.toList.flatMap escapeChar ++ ['"']) ++ rest) = _
    rw [List.append_assoc, List.singleton_append, stringStep, string]
    rfl
  | .array [], fuel + 1, rest, _, _, _ => rfl
  | .array (e :: es), fuel + 1, rest, integral, enough, _ => by
    obtain ⟨c, cs, text, solid, more⟩ := renderElements_eq_cons integral
    have elements : readElements fuel (renderElements (e :: es) ++ ']' :: rest) =
        ⟨Document.ofElements (e :: es), none, some rest⟩ := by
      refine readElements_render e es integral ?_
      simp only [render, List.length_append, List.length_cons] at enough
      omega
    rw [text, List.cons_append] at elements
    show readValue (fuel + 1) (('[' :: renderElements (e :: es) ++ [']']) ++ rest) = _
    rw [text, List.append_assoc, List.singleton_append, List.cons_append, List.cons_append,
      readValue_array _ solid more, elements]
    rfl
  | .object [], fuel + 1, rest, _, _, _ => rfl
  | .object ((key, v) :: ms), fuel + 1, rest, integral, enough, _ => by
    obtain ⟨cs, text⟩ := renderMembers_eq_cons key v ms
    have members : readMembers fuel (cs ++ '\x7d' :: rest) =
        ⟨Document.ofMembers ((key, v) :: ms), none, some rest⟩ := by
      refine readMembers_render key v ms integral ?_ text
      simp only [render, List.length_append, List.length_cons] at enough
      omega
    show readValue (fuel + 1) (('\x7b' :: renderMembers ((key, v) :: ms) ++ ['\x7d']) ++ rest) = _
    rw [text, List.append_assoc, List.singleton_append, List.cons_append, List.cons_append,
      readValue_object, members]
    rfl
  | v, 0, rest, integral, enough, _ => by
    -- no text is empty
    obtain ⟨c, cs, text, _⟩ := render_eq_cons integral
    rw [text] at enough
    cases enough

/-- The elements of an array are read back from their texts up to the bracket. -/
theorem readElements_render : ∀ (e : Json) (es : List Json) {fuel : Nat} {rest : List Char},
    IntegralElements (e :: es) → 2 * (renderElements (e :: es)).length + 1 ≤ fuel →
    readElements fuel (renderElements (e :: es) ++ ']' :: rest) =
      ⟨Document.ofElements (e :: es), none, some rest⟩
  | e, [], fuel + 1, rest, integral, enough =>
    readElements_last (readValue_render e integral.1 (Nat.le_of_succ_le_succ enough)
      (.bracket rest))
  | e, next :: es, fuel + 1, rest, integral, enough => by
    obtain ⟨c, cs, text, solid, more⟩ := renderElements_eq_cons integral.2
    simp only [renderElements, List.length_append, List.length_cons] at enough
    have first : readValue fuel (e.render ++ ',' :: (renderElements (next :: es) ++ ']' :: rest)) =
        ⟨.ofJson e, some (',' :: (renderElements (next :: es) ++ ']' :: rest))⟩ :=
      readValue_render e integral.1 (by omega) (.comma _)
    have others : readElements fuel (renderElements (next :: es) ++ ']' :: rest) =
        ⟨Document.ofElements (next :: es), none, some rest⟩ :=
      readElements_render next es integral.2 (by omega)
    -- what stands behind the comma must be seen to begin with a value
    rw [text, List.cons_append] at first others
    show readElements (fuel + 1)
      ((render e ++ ',' :: renderElements (next :: es)) ++ ']' :: rest) = _
    rw [text, List.append_assoc, List.cons_append, List.cons_append,
      readElements_next first solid more, others]
    rfl

/-- The members of an object are read back from their texts up to the brace. -/
theorem readMembers_render : ∀ (key : String) (v : Json) (ms : List (String × Json)) {fuel : Nat}
    {cs rest : List Char}, IntegralMembers ((key, v) :: ms) →
    2 * (renderMembers ((key, v) :: ms)).length + 1 ≤ fuel →
    renderMembers ((key, v) :: ms) = '"' :: cs →
    readMembers fuel (cs ++ '\x7d' :: rest) =
      ⟨Document.ofMembers ((key, v) :: ms), none, some rest⟩
  | key, v, [], fuel + 1, cs, rest, integral, enough, text => by
    rw [renderMembers_singleton] at text enough
    obtain rfl := (List.cons.inj text).2
    have name := readString_text key (':' :: (v.render ++ '\x7d' :: rest))
    simp only [List.length_append, List.length_cons] at enough
    have value : readValue fuel (v.render ++ '\x7d' :: rest) =
        ⟨.ofJson v, some ('\x7d' :: rest)⟩ :=
      readValue_render v integral.1 (by omega) (.brace rest)
    rw [List.append_assoc, List.cons_append, List.cons_append]
    exact readMembers_last name value
  | key, v, (next, w) :: ms, fuel + 1, cs, rest, integral, enough, text => by
    obtain ⟨others, tail⟩ := renderMembers_eq_cons next w ms
    rw [renderMembers_cons] at text enough
    obtain rfl := (List.cons.inj text).2
    simp only [List.length_append, List.length_cons] at enough
    have name := readString_text key
      (':' :: (v.render ++ ',' :: (renderMembers ((next, w) :: ms) ++ '\x7d' :: rest)))
    have value : readValue fuel
          (v.render ++ ',' :: (renderMembers ((next, w) :: ms) ++ '\x7d' :: rest)) =
        ⟨.ofJson v, some (',' :: (renderMembers ((next, w) :: ms) ++ '\x7d' :: rest))⟩ :=
      readValue_render v integral.1 (by omega) (.comma _)
    have members : readMembers fuel (others ++ '\x7d' :: rest) =
        ⟨Document.ofMembers ((next, w) :: ms), none, some rest⟩ :=
      readMembers_render next w ms integral.2 (by omega) tail
    rw [tail, List.cons_append] at name value
    rw [tail, List.append_assoc, List.cons_append, List.cons_append, List.append_assoc,
      List.cons_append, List.cons_append, readMembers_next name value, members]
    rfl

end

/-- A value whose numbers are integers of 64 bits is read back from its text. -/
theorem read_text {v : Json} (integral : v.Integral) : read v.text = (.ofJson v, false) := by
  have step : readValue (2 * v.render.length + 2) (v.render ++ []) = ⟨.ofJson v, some []⟩ :=
    readValue_render v integral (by omega) .nil
  rw [List.append_nil] at step
  simp only [read, text, String.toList_ofList, step]
  rfl

end Reader

namespace Document

mutual

/-- Different values are different documents. -/
theorem ofJson_inj : ∀ {v w : Json}, ofJson v = ofJson w → v = w
  | .array es, .array fs, e => by
    simp only [ofJson, Document.array.injEq, and_true] at e
    rw [ofElements_inj e]
  | .object ms, .object ns, e => by
    simp only [ofJson, Document.object.injEq, and_true] at e
    rw [ofMembers_inj e]
  | .null, w, e => by cases w <;> simp_all [ofJson]
  | .bool b, w, e => by cases w <;> simp_all [ofJson]
  | .number n, w, e => by cases w <;> simp_all [ofJson]
  | .string s, w, e => by cases w <;> simp_all [ofJson]

/-- Different elements are different documents. -/
theorem ofElements_inj : ∀ {es fs : List Json}, ofElements es = ofElements fs → es = fs
  | [], [], _ => rfl
  | e :: es, f :: fs, eq => by
    simp only [ofElements, List.cons.injEq] at eq
    rw [ofJson_inj eq.1, ofElements_inj eq.2]

/-- Different members are different documents. -/
theorem ofMembers_inj :
    ∀ {ms ns : List (String × Json)}, ofMembers ms = ofMembers ns → ms = ns
  | [], [], _ => rfl
  | (key, v) :: ms, (name, w) :: ns, eq => by
    simp only [ofMembers, List.cons.injEq, Prod.mk.injEq, Except.ok.injEq] at eq
    rw [eq.1.1, ofJson_inj eq.1.2, ofMembers_inj eq.2]

end

end Document

/-- Two texts that hold the same hold the same value. -/
theorem eq_of_read_text {v w : Json} (first : v.Integral) (second : w.Integral)
    (same : Reader.read v.text = Reader.read w.text) : v = w := by
  rw [Reader.read_text first, Reader.read_text second, Prod.mk.injEq] at same
  exact Document.ofJson_inj same.1

end KindResolution.Json
