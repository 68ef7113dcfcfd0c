import KindResolution.Text.Numeral
import Mathlib.Tactic.Lemma

/-!
# Decimal digits

A number is read back from its decimal digits (`ofDigits_decimal`), of which the first is no zero
unless the number is.
-/

namespace KindResolution.Text

/-- A number below ten is written with one digit. -/
lemma decimal_of_lt_ten {n : Nat} (small : n < 10) : decimal n = [Nat.digitChar n] :=
  Nat.toDigits_of_lt_base small

/-- The last digit of a larger number is its remainder. -/
lemma decimal_of_ten_le {n : Nat} (large : 10 ≤ n) :
    decimal n = decimal (n / 10) ++ [Nat.digitChar (n % 10)] :=
  Nat.toDigits_of_base_le (by decide) large

/-- The value of a digit is read back. -/
lemma digitValue?_digitChar : ∀ d < 10, digitValue? (Nat.digitChar d) = some d := by
  decide

/-- Every number has a digit. -/
lemma decimal_ne_nil (n : Nat) : decimal n ≠ [] :=
  Nat.toDigits_ne_nil

/-- A number is written with digits only. -/
lemma isDigit_of_mem_decimal {n : Nat} {c : Char} (member : c ∈ decimal n) : isDigit c = true := by
  induction n using Nat.strongRecOn with
  | ind n ih =>
    by_cases small : n < 10
    · rw [decimal_of_lt_ten small, List.mem_singleton] at member
      rw [member, isDigit, digitValue?_digitChar n small]
      rfl
    · rw [decimal_of_ten_le (Nat.le_of_not_lt small), List.mem_append, List.mem_singleton] at member
      rcases member with front | rfl
      · exact ih (n / 10) (by omega) front
      · rw [isDigit, digitValue?_digitChar _ (by omega)]
        rfl

/-- A number is read back from its digits. -/
theorem ofDigits_decimal (n : Nat) : ofDigits (decimal n) = n := by
  induction n using Nat.strongRecOn with
  | ind n ih =>
    by_cases small : n < 10
    · rw [decimal_of_lt_ten small, ofDigits, List.foldl_cons, digitValue?_digitChar n small]
      simp
    · have front := ih (n / 10) (by omega)
      rw [decimal_of_ten_le (Nat.le_of_not_lt small), ofDigits, List.foldl_append, ← ofDigits,
        front, List.foldl_cons, digitValue?_digitChar _ (by omega), List.foldl_nil,
        Option.getD_some, Nat.div_add_mod]

/-- Different numbers are written differently. -/
lemma decimal_injective : Function.Injective decimal :=
  Function.LeftInverse.injective ofDigits_decimal

/-- A number whose first digit is a zero is zero. -/
lemma eq_zero_of_decimal {n : Nat} {rest : List Char} (zero : decimal n = '0' :: rest) : n = 0 := by
  induction n using Nat.strongRecOn generalizing rest with
  | ind n ih =>
    by_cases small : n < 10
    · rw [decimal_of_lt_ten small] at zero
      have first : ∀ d < 10, Nat.digitChar d = '0' → d = 0 := by decide
      exact first n small (List.cons.inj zero).1
    · rw [decimal_of_ten_le (Nat.le_of_not_lt small)] at zero
      cases front : decimal (n / 10) with
      | nil => exact absurd front (decimal_ne_nil _)
      | cons c cs =>
        rw [front, List.cons_append] at zero
        have quotient : n / 10 = 0 := ih (n / 10) (by omega) (by rw [front, (List.cons.inj zero).1])
        omega

end KindResolution.Text
