import KindResolution.Kind
import Mathlib.Data.List.Basic
import Mathlib.Tactic.Lemma

/-!
# Kinds of lists

The name of a kind of lists is the name of the kind of their items with a suffix behind it.
`GroupVersionKind.itemKind?_eq_some_iff` shows that taking the suffix off undoes putting it there,
for all kinds whose name is not empty.
-/

namespace KindResolution

namespace GroupVersionKind

/-- The kinds with an item kind are the kinds of lists of a kind whose name is not empty. -/
theorem itemKind?_eq_some_iff {k item : GroupVersionKind} :
    k.itemKind? = some item ↔ item.kind ≠ "" ∧ item.listKind = k := by
  unfold itemKind?
  -- the suffix stands behind at least one character, or the kind has no item kind
  split
  · next c rest e =>
    have name : k.kind = String.ofList (c :: rest) ++ listSuffix := by
      rw [← String.toList_inj, ← List.append_eq_of_isSuffixOf?_eq_some e]
      simp
    constructor
    · intro found
      cases found
      refine ⟨?_, ?_⟩
      · simp [← String.toList_inj]
      · rw [listKind, ← name]
    · rintro ⟨_, rfl⟩
      have same : item.kind = String.ofList (c :: rest) := by
        have e := congrArg String.toList name
        rw [listKind, String.toList_append, String.toList_append] at e
        exact String.toList_inj.1 (List.append_cancel_right e)
      rw [listKind, ← same]
  · next other =>
    constructor
    · intro found
      cases found
    · rintro ⟨nonempty, rfl⟩
      have e : listSuffix.toList.isSuffixOf? (item.listKind.kind.toList) = some item.kind.toList :=
        List.isSuffixOf?_eq_some_iff_append_eq.2 (by simp [listKind])
      cases name : item.kind.toList with
      | nil => exact absurd (String.toList_inj.1 name) nonempty
      | cons c rest => exact (other c rest (e.trans (congrArg some name))).elim

/-- A kind has no item kind if nothing is left of its name without the suffix of lists. -/
lemma itemKind?_eq_none_iff {kind : GroupVersionKind} :
    kind.itemKind? = none ↔ ∀ item : GroupVersionKind, item.listKind = kind → item.kind = "" := by
  simp only [Option.eq_none_iff_forall_ne_some, ne_eq, itemKind?_eq_some_iff,
    not_and', not_not]

/-- A kind of lists is not the kind of their items. -/
lemma ne_of_itemKind? {k item : GroupVersionKind} (found : k.itemKind? = some item) : item ≠ k := by
  rintro rfl
  have e := congrArg (fun k : GroupVersionKind => k.kind.toList.length)
    (itemKind?_eq_some_iff.1 found).2
  simp [listKind, listSuffix] at e

end GroupVersionKind

end KindResolution
