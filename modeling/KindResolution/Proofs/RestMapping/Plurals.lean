import KindResolution.Proofs.Json.Members
import KindResolution.RestMapping

/-!
# Plurals

The plural of a word is the word with an `s` behind it, unless the word has to be respelled first
(`Respelled`). A respelled word ends in such a way that its own plural only adds the `s`, and it is
the respelling of no other word. So two words have one plural exactly if one of them is the
respelling of the other, and three different words never do: `RestMapping.resource_regular_eq_iff`.
-/

namespace KindResolution

/-- The endings of the words whose plural takes `es`. -/
def sibilantEndings : List String := ["s", "x", "z", "ch", "sh"]

/-- A word ends in the letters of a sibilant. -/
def EndsInSibilant (word : String) : Prop :=
  ∃ ending ∈ sibilantEndings, ending.toList <:+ word.toList

/-- Whether a word ends in a sibilant can be computed. -/
instance (word : String) : Decidable (EndsInSibilant word) :=
  inferInstanceAs (Decidable (∃ ending ∈ _, _))

/-- A text is not empty and ends in another character than a vowel. -/
def EndsInConsonant (stem : String) : Prop :=
  ∃ c, stem.toList.getLast? = some c ∧ c ∉ ['a', 'e', 'i', 'o', 'u']

/-- The words whose plural follows no rule, with those that have the same plural by the rules. -/
def irregularSingulars : List (String × String) :=
  [("endpoints", "endpoint"), ("endpointslices", "endpointslice"), ("nodemetrics", "node"),
    ("podmetrics", "pod")]

/-- A word has to be respelled before the plural adds an `s`. -/
inductive Respelled : String → String → Prop where
  | sibilant {word} :
    EndsInSibilant word →
    word ∉ irregularSingulars.map Prod.fst →
    Respelled word (word ++ "e")
  | consonant {stem} :
    EndsInConsonant stem →
    Respelled (stem ++ "y") (stem ++ "ie")
  | irregular {word singular} :
    (word, singular) ∈ irregularSingulars →
    Respelled word singular

/-- A word that does not end in an s is regular. -/
lemma regular_of_getLast? {word : String} {c : Char} (last : word.toList.getLast? = some c)
    (ne : c ≠ 's') : word ∉ irregularSingulars.map Prod.fst := by
  have ends : ∀ word ∈ irregularSingulars.map Prod.fst, word.toList.getLast? = some 's' := by
    decide
  intro member
  rw [ends word member] at last
  exact ne (Option.some.inj last).symm

/-- The plural of a regular word follows the rules. -/
lemma plural_of_regular {word : String} (regular : word ∉ irregularSingulars.map Prod.fst) :
    plural word = String.ofList (regularPlural word.toList.reverse) := by
  have none : Entries.find? word irregularPlurals = none := by
    rw [Entries.find?_eq_none_iff]
    rintro entry member rfl
    apply regular
    show entry.1 ∈ irregularPlurals.map Prod.fst
    exact List.mem_map_of_mem member
  rw [plural, none]

/-- A word that ends in an e takes an s. -/
lemma plural_append_e (stem : String) : plural (stem ++ "e") = stem ++ "e" ++ "s" := by
  have last : (stem ++ "e").toList.getLast? = some 'e' := by simp
  rw [plural_of_regular (regular_of_getLast? last (by decide)), ← String.toList_inj]
  simp [regularPlural]

/-- A regular word that ends in a sibilant takes es. -/
lemma plural_of_sibilant {word : String} (sibilant : EndsInSibilant word)
    (regular : word ∉ irregularSingulars.map Prod.fst) : plural word = word ++ "e" ++ "s" := by
  obtain ⟨ending, listed, front, letters⟩ := sibilant
  rw [plural_of_regular regular, ← String.toList_inj]
  simp only [sibilantEndings, List.mem_cons, List.not_mem_nil, or_false] at listed
  rcases listed with rfl | rfl | rfl | rfl | rfl
  all_goals simp [← letters, regularPlural]

/-- A y behind a consonant becomes ies. -/
lemma plural_of_consonant {stem : String} (consonant : EndsInConsonant stem) :
    plural (stem ++ "y") = stem ++ "ie" ++ "s" := by
  obtain ⟨c, last, noVowel⟩ := consonant
  obtain ⟨front, letters⟩ := List.getLast?_eq_some_iff.1 last
  have vowel : isVowel c = false := by
    simpa [isVowel, and_assoc] using noVowel
  have lastOfWord : (stem ++ "y").toList.getLast? = some 'y' := by simp
  rw [plural_of_regular (regular_of_getLast? lastOfWord (by decide)), ← String.toList_inj]
  simp [letters, regularPlural, vowel]

/-- The plural of a word is the respelled word with an `s`, which that takes as it is. -/
lemma Respelled.plural_eq {word other : String} (respelled : Respelled word other) :
    plural word = other ++ "s" ∧ plural other = other ++ "s" := by
  cases respelled with
  | sibilant ends regular =>
    exact ⟨plural_of_sibilant ends regular, plural_append_e _⟩
  | @consonant stem ends =>
    refine ⟨plural_of_consonant ends, ?_⟩
    have e := plural_append_e (stem ++ "i")
    simpa [String.append_assoc] using e
  | irregular listed =>
    have all : ∀ entry ∈ irregularSingulars,
        plural entry.1 = entry.2 ++ "s" ∧ plural entry.2 = entry.2 ++ "s" := by
      decide +kernel
    exact all _ listed

/-- By the rules a word takes an `s`, unless it ends in a sibilant or in `y` behind a consonant. -/
lemma regularPlural_cases (word : String) :
    String.ofList (regularPlural word.toList.reverse) = word ++ "s" ∨ EndsInSibilant word ∨
      ∃ stem, EndsInConsonant stem ∧ word = stem ++ "y" := by
  have ends : ∀ cs {rest}, word.toList.reverse = cs.reverse ++ rest → cs <:+ word.toList := by
    intro cs rest letters
    rw [← List.reverse_prefix, letters]
    exact List.prefix_append _ _
  have taken : String.ofList ('s' :: word.toList.reverse).reverse = word ++ "s" := by
    simp
  unfold regularPlural
  -- the branches look at the last letters, so they are told apart on the word read backwards
  split
  · next c rest letters =>
    split
    · exact .inl (letters ▸ taken)
    · next noVowel =>
      refine .inr (.inr ⟨String.ofList (rest.reverse ++ [c]), ⟨c, by simp, ?_⟩, ?_⟩)
      · simpa [isVowel, and_assoc] using noVowel
      · have e := congrArg List.reverse letters
        simpa [← String.toList_inj] using e
  · next c rest letters =>
    split
    · next sibilant =>
      refine .inr (.inl ?_)
      obtain rfl | rfl : c = 'c' ∨ c = 's' := by simpa using sibilant
      · exact ⟨"ch", by decide, ends ['c', 'h'] letters⟩
      · exact ⟨"sh", by decide, ends ['s', 'h'] letters⟩
    · exact .inl (letters ▸ taken)
  · next c rest _ _ letters =>
    split
    · next sibilant =>
      refine .inr (.inl ?_)
      obtain rfl | rfl | rfl : c = 's' ∨ c = 'x' ∨ c = 'z' := by simpa [or_assoc] using sibilant
      · exact ⟨"s", by decide, ends ['s'] letters⟩
      · exact ⟨"x", by decide, ends ['x'] letters⟩
      · exact ⟨"z", by decide, ends ['z'] letters⟩
    · exact .inl (letters ▸ taken)
  · next letters =>
    rw [letters] at taken
    exact .inl taken

/-- A word takes an s, or it is spelled otherwise in the plural. -/
lemma plural_cases (word : String) :
    plural word = word ++ "s" ∨ ∃ other, Respelled word other := by
  by_cases special : word ∈ irregularSingulars.map Prod.fst
  · obtain ⟨⟨_, other⟩, listed, rfl⟩ := List.mem_map.1 special
    exact .inr ⟨other, .irregular listed⟩
  · rw [plural_of_regular special]
    obtain adds | ends | ⟨stem, ends, rfl⟩ := regularPlural_cases word
    · exact .inl adds
    · exact .inr ⟨_, .sibilant ends special⟩
    · exact .inr ⟨_, .consonant ends⟩

/-- A word that ends in a sibilant ends in one of four letters. -/
lemma EndsInSibilant.getLast? {word : String} (sibilant : EndsInSibilant word) :
    ∃ c ∈ ['s', 'x', 'z', 'h'], word.toList.getLast? = some c := by
  obtain ⟨ending, listed, front, letters⟩ := sibilant
  have last : ∀ ending ∈ sibilantEndings,
      ending.toList.getLast? ∈ ['s', 'x', 'z', 'h'].map some := by
    decide
  obtain ⟨c, known, ends⟩ := List.mem_map.1 (last ending listed)
  refine ⟨c, known, ?_⟩
  rw [← letters, List.getLast?_append, ← ends]
  rfl

/-- A sibilant with an e behind it is not what becomes of a y. -/
lemma EndsInSibilant.append_ne {word : String} (ends : EndsInSibilant word) (stem : String) :
    word ++ "e" ≠ stem ++ "ie" := by
  intro same
  have letters : word = stem ++ "i" := by
    rw [show "ie" = "i" ++ "e" from rfl, ← String.append_assoc] at same
    exact (String.append_left_inj _).1 same
  obtain ⟨c, known, last⟩ := ends.getLast?
  rw [letters, String.toList_append, List.getLast?_append] at last
  cases last
  exact absurd known (by decide)

/-- A sibilant with an e behind it is no irregular stem. -/
lemma EndsInSibilant.append_not_mem {word : String} (ends : EndsInSibilant word) :
    word ++ "e" ∉ irregularSingulars.map Prod.snd := by
  have all : ∀ singular ∈ irregularSingulars.map Prod.snd,
      ¬ EndsInSibilant (String.ofList singular.toList.dropLast) := by
    decide +kernel
  intro member
  apply all _ member
  simpa using ends

/-- What becomes of a y is no irregular stem. -/
lemma append_ie_not_mem (stem : String) : stem ++ "ie" ∉ irregularSingulars.map Prod.snd := by
  have all : ∀ singular ∈ irregularSingulars.map Prod.snd, ¬ "ie".toList <:+ singular.toList := by
    decide
  intro member
  apply all _ member
  rw [String.toList_append]
  exact List.suffix_append _ _

/-- No two words are respelled as the same word. -/
lemma Respelled.injective {word word' other : String} (respelled : Respelled word other)
    (respelled' : Respelled word' other) : word = word' := by
  -- no word is respelled by two of the rules, and each of them can be undone
  cases respelled with
  | sibilant ends regular =>
    generalize e : word ++ "e" = other at respelled'
    cases respelled' with
    | sibilant ends' regular' => exact (String.append_left_inj _).1 e
    | consonant ends' => exact absurd e (ends.append_ne _)
    | irregular listed =>
      rw [← e] at listed
      exact absurd (List.mem_map_of_mem (f := Prod.snd) listed) ends.append_not_mem
  | @consonant stem ends =>
    generalize e : stem ++ "ie" = other at respelled'
    cases respelled' with
    | sibilant ends' regular' => exact absurd e.symm (ends'.append_ne _)
    | @consonant stem' ends' => rw [(String.append_left_inj _).1 e]
    | irregular listed =>
      rw [← e] at listed
      exact absurd (List.mem_map_of_mem (f := Prod.snd) listed) (append_ie_not_mem _)
  | irregular listed =>
    cases respelled' with
    | sibilant ends' regular' =>
      exact absurd (List.mem_map_of_mem (f := Prod.snd) listed) ends'.append_not_mem
    | consonant ends' =>
      exact absurd (List.mem_map_of_mem (f := Prod.snd) listed) (append_ie_not_mem _)
    | irregular listed' =>
      have all : ∀ p ∈ irregularSingulars, ∀ q ∈ irregularSingulars, p.2 = q.2 → p.1 = q.1 := by
        decide
      exact all _ listed _ listed' rfl

/-- Only two words have the plural of a word that has to be respelled: that word and the respelled
one. -/
lemma Respelled.eq_or_eq {word other third : String} (respelled : Respelled word other)
    (same : plural third = plural other) : third = word ∨ third = other := by
  rw [respelled.plural_eq.2] at same
  obtain adds | ⟨spelling, respelled'⟩ := plural_cases third
  · exact .inr ((String.append_left_inj _).1 (adds.symm.trans same))
  · obtain rfl := (String.append_left_inj _).1 (respelled'.plural_eq.1.symm.trans same)
    exact .inl (respelled'.injective respelled)

/-- Two words have one plural exactly if one of them is the respelling of the other. -/
theorem plural_eq_plural_iff {word word' : String} (ne : word ≠ word') :
    plural word = plural word' ↔ Respelled word word' ∨ Respelled word' word := by
  constructor
  · intro same
    obtain adds | ⟨spelling, respelled⟩ := plural_cases word
    · obtain adds' | ⟨spelling, respelled⟩ := plural_cases word'
      · exact absurd ((String.append_left_inj _).1 (adds.symm.trans (same.trans adds'))) ne
      · obtain rfl := (String.append_left_inj _).1
          (respelled.plural_eq.1.symm.trans (same.symm.trans adds))
        exact .inr respelled
    · have again : plural word' = plural spelling :=
        same.symm.trans (respelled.plural_eq.1.trans respelled.plural_eq.2.symm)
      obtain e | rfl := respelled.eq_or_eq again
      · exact absurd e.symm ne
      · exact .inl respelled
  · rintro (respelled | respelled)
    · exact respelled.plural_eq.1.trans respelled.plural_eq.2.symm
    · exact respelled.plural_eq.2.trans respelled.plural_eq.1.symm

namespace RestMapping

/-- Kinds with different names are mapped to one resource exactly if one name is the respelling of
the other, and never three of them. -/
theorem resource_regular_eq_iff :
    (∀ (kind kind' : GroupVersionKind) (scope scope' : Scope),
      asciiLower kind.kind ≠ asciiLower kind'.kind →
      ((regular kind scope).resource.resource = (regular kind' scope').resource.resource ↔
        Respelled (asciiLower kind.kind) (asciiLower kind'.kind) ∨
          Respelled (asciiLower kind'.kind) (asciiLower kind.kind))) ∧
    ∀ (kind kind' kind'' : GroupVersionKind) (scope scope' scope'' : Scope),
      asciiLower kind.kind ≠ asciiLower kind'.kind → asciiLower kind.kind ≠ asciiLower kind''.kind →
      asciiLower kind'.kind ≠ asciiLower kind''.kind →
      ¬ ((regular kind scope).resource.resource = (regular kind' scope').resource.resource ∧
        (regular kind scope).resource.resource = (regular kind'' scope'').resource.resource) := by
  constructor
  · intro kind kind' scope scope' ne
    exact plural_eq_plural_iff ne
  · rintro kind kind' kind'' scope scope' scope'' ne ne' ne'' ⟨same, same'⟩
    obtain respelled | respelled := (plural_eq_plural_iff ne).1 same
    · obtain e | e := respelled.eq_or_eq (same'.symm.trans same)
      · exact ne' e.symm
      · exact ne'' e.symm
    · obtain e | e := respelled.eq_or_eq same'.symm
      · exact ne'' e.symm
      · exact ne' e.symm

/-- Boxes share their resource with a kind whose name is the respelled word, and with no third. -/
theorem resource_regular_eq_iff_boxes :
    asciiLower "Box" ≠ asciiLower "BOXE" ∧
      (regular ⟨"", "v1", "Box"⟩ .namespaced).resource.resource =
        (regular ⟨"apps", "v2", "BOXE"⟩ .cluster).resource.resource ∧
      (regular ⟨"", "v1", "Box"⟩ .namespaced).resource.resource ≠
        (regular ⟨"", "v1", "Boxes"⟩ .namespaced).resource.resource := by
  have ne : asciiLower "Box" ≠ asciiLower "BOXE" := by decide
  have respelled : Respelled (asciiLower "Box") (asciiLower "BOXE") := by
    have lower : asciiLower "BOXE" = asciiLower "Box" ++ "e" := by decide
    rw [lower]
    exact .sibilant (by decide) (by decide)
  have same := (resource_regular_eq_iff.1 ⟨"", "v1", "Box"⟩ ⟨"apps", "v2", "BOXE"⟩ .namespaced
    .cluster ne).2 (.inl respelled)
  refine ⟨ne, same, ?_⟩
  intro again
  exact resource_regular_eq_iff.2 ⟨"", "v1", "Box"⟩ ⟨"apps", "v2", "BOXE"⟩ ⟨"", "v1", "Boxes"⟩
    .namespaced .cluster .namespaced ne (by decide) (by decide) ⟨same, again⟩

end RestMapping

end KindResolution
