import Mathlib.Data.List.TakeWhile
import Mathlib.Tactic.Lemma

/-!
# Separators

What stands in front of the first separator of a list is what `takeWhile` takes as long as there is
no separator, and `dropWhile` leaves the separator and the rest.
-/

namespace KindResolution.Text

variable {α : Type}

/-- A list without a separator goes on to its end. -/
lemma forall_bne_of_not_mem [DecidableEq α] {sep : α} {xs : List α} (absent : sep ∉ xs) :
    ∀ x ∈ xs, (x != sep) = true := by
  intro x member
  refine bne_iff_ne.2 ?_
  rintro rfl
  exact absent member

/-- What is taken ends in front of the first separator. -/
lemma takeWhile_append_cons {p : α → Bool} {first : List α} {sep : α} (rest : List α)
    (goes : ∀ x ∈ first, p x = true) (stops : p sep = false) :
    (first ++ sep :: rest).takeWhile p = first := by
  rw [List.takeWhile_append_of_pos goes, List.takeWhile_cons_of_neg (by simp [stops]),
    List.append_nil]

/-- What is left begins with the first separator. -/
lemma dropWhile_append_cons {p : α → Bool} {first : List α} {sep : α} (rest : List α)
    (goes : ∀ x ∈ first, p x = true) (stops : p sep = false) :
    (first ++ sep :: rest).dropWhile p = sep :: rest := by
  rw [List.dropWhile_append_of_pos goes, List.dropWhile_cons_of_neg (by simp [stops])]

end KindResolution.Text
