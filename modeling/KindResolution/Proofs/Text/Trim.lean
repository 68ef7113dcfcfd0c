import KindResolution.Proofs.Text.Separator
import KindResolution.Text.Blank
import Mathlib.Data.List.DropRight

/-!
# Texts without the blank characters around them

What is left of a text without the blank characters around it is a part of it with nothing but such
characters in front and behind, and begins and ends with another character, if it is not empty. There
is only one such part, and it is the one that `trim` leaves: `Text.trim_eq_iff`.
-/

namespace KindResolution.Text

/-- A text is another one without the blank characters around it. -/
structure Trimmed (content s : String) : Prop where
  around : ∃ before after, content.toList = before ++ (s.toList ++ after) ∧
    (∀ c ∈ before, isBlank c = true) ∧ ∀ c ∈ after, isBlank c = true
  first : ∀ c ∈ s.toList.head?, isBlank c = false
  last : ∀ c ∈ s.toList.getLast?, isBlank c = false

/-- A text is trimmed in front and then behind. -/
lemma toList_trim (content : String) :
    (trim content).toList = (content.toList.dropWhile isBlank).rdropWhile isBlank :=
  String.toList_ofList

/-- Trimming leaves the trimmed text. -/
lemma trimmed_trim (content : String) : Trimmed content (trim content) := by
  have behind : (trim content).toList ++ (content.toList.dropWhile isBlank).rtakeWhile isBlank =
      content.toList.dropWhile isBlank := by
    rw [toList_trim, List.rdropWhile_append_rtakeWhile]
  refine ⟨⟨content.toList.takeWhile isBlank,
    (content.toList.dropWhile isBlank).rtakeWhile isBlank, ?_, ?_, ?_⟩, ?_, ?_⟩
  · rw [behind, List.takeWhile_append_dropWhile]
  · exact fun c member => List.mem_takeWhile_imp member
  · exact fun c member => List.mem_rtakeWhile_imp member
  · intro c first
    -- the first character that is left is the one at which the first cut stopped
    have stops := List.head?_dropWhile_not isBlank content.toList
    rw [← behind, List.head?_append, Option.mem_def.1 first] at stops
    exact stops
  · intro c last
    rw [toList_trim] at last
    obtain ⟨ne, rfl⟩ := List.mem_getLast?_eq_getLast last
    exact Bool.eq_false_iff.2 (List.rdropWhile_last_not isBlank _ ne)

/-- There is no other trimmed text. -/
lemma trim_of_trimmed {content s : String} (trimmed : Trimmed content s) : trim content = s := by
  obtain ⟨⟨before, after, cut, blankBefore, blankAfter⟩, first, last⟩ := trimmed
  rw [← String.toList_inj, toList_trim, cut]
  cases text : s.toList with
  | nil =>
    rw [List.nil_append, List.dropWhile_append_of_pos blankBefore,
      List.dropWhile_eq_nil_iff.2 blankAfter, List.rdropWhile_nil]
  | cons c cs =>
    have front : (before ++ (c :: cs ++ after)).dropWhile isBlank = c :: cs ++ after :=
      dropWhile_append_cons (cs ++ after) blankBefore (first c (by rw [text]; rfl))
    -- seen from the end, the text begins with its last character
    obtain ⟨d, ds, reversed⟩ : ∃ d ds, (c :: cs).reverse = d :: ds :=
      List.exists_cons_of_ne_nil (by simp)
    have stops : isBlank d = false := last d (by rw [text, ← List.head?_reverse, reversed]; rfl)
    have blank : ∀ c ∈ after.reverse, isBlank c = true := fun c member =>
      blankAfter c (List.mem_reverse.1 member)
    rw [front, List.rdropWhile, List.reverse_append, reversed, dropWhile_append_cons ds blank stops,
      ← reversed, List.reverse_reverse]

/-- What is left of a text is the text without the blank characters around it. -/
theorem trim_eq_iff {content s : String} : trim content = s ↔ Trimmed content s := by
  constructor
  · rintro rfl
    exact trimmed_trim content
  · exact trim_of_trimmed

end KindResolution.Text
