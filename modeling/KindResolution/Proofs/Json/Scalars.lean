import KindResolution.Json.Printer
import KindResolution.Json.Reader
import KindResolution.Proofs.Text.Decimal
import Mathlib.Data.List.TakeDrop
import Mathlib.Data.List.TakeWhile
import Mathlib.Tactic.SplitIfs

/-!
# Reading numbers and strings back

An integer is read back from its digits up to the delimiter that stands behind them, and a string
from its escaped characters up to the closing quote.
-/

namespace KindResolution.Json.Reader

open KindResolution.Text

/-- A text that begins with a delimiter, if with anything. -/
inductive Delimited : List Char → Prop where
  | nil : Delimited []
  | comma (cs : List Char) : Delimited (',' :: cs)
  | bracket (cs : List Char) : Delimited (']' :: cs)
  | brace (cs : List Char) : Delimited ('\x7d' :: cs)

/-- Nothing is skipped in front of a character that is no space. -/
lemma skipSpace_cons {c : Char} (cs : List Char) (solid : isSpace c = false) :
    skipSpace (c :: cs) = c :: cs := by
  simp [skipSpace, List.dropWhile, solid]

/-- All digits up to a delimiter are read. -/
lemma readDigits_append {digits rest : List Char} (nonempty : digits ≠ [])
    (all : ∀ c ∈ digits, isDigit c = true) (stop : Delimited rest) :
    readDigits (digits ++ rest) = .ok (digits, rest) := by
  have none : rest.takeWhile isDigit = [] ∧ rest.dropWhile isDigit = rest := by
    cases stop <;> exact ⟨rfl, rfl⟩
  have span : (digits ++ rest).span isDigit = (digits, rest) := by
    rw [List.span_eq_takeWhile_dropWhile, List.takeWhile_append_of_pos all,
      List.dropWhile_append_of_pos all, none.1, none.2, List.append_nil]
  unfold readDigits
  rw [span]
  cases digits with
  | nil => exact absurd rfl nonempty
  | cons c cs => rfl

/-- A natural number is read back from its digits. -/
lemma readWhole_decimal (n : Nat) {rest : List Char} (stop : Delimited rest) :
    readWhole (decimal n ++ rest) = .ok (decimal n, rest) := by
  have digits := readDigits_append (decimal_ne_nil n) (fun c => isDigit_of_mem_decimal) stop
  unfold readWhole
  split
  · next c cs e =>
    cases first : decimal n with
    | nil => exact absurd first (decimal_ne_nil n)
    | cons d ds =>
      rw [first, List.cons_append, List.cons.injEq] at e
      obtain ⟨rfl, e⟩ := e
      -- a number that begins with a zero is zero, and so it ends there
      obtain rfl := eq_zero_of_decimal first
      cases first
      obtain rfl : rest = c :: cs := e
      cases stop <;> rfl
  · exact digits

/-- A number is spelled by its digits alone. -/
lemma readLiteral_decimal (negative : Bool) (n : Nat) {rest : List Char} (stop : Delimited rest) :
    readLiteral negative (decimal n ++ rest) = .ok (⟨negative, decimal n, none, none⟩, rest) := by
  have fraction : readFraction rest = .ok (none, rest) := by
    cases stop <;> rfl
  have exponent : readExponent rest = .ok (none, rest) := by
    cases stop <;> rfl
  unfold readLiteral
  rw [readWhole_decimal n stop]
  simp only [bind, Except.bind, fraction, exponent]
  rfl

/-- The digits of a number of 64 bits are read as that number. -/
lemma numberStep_decimal (start : Char) {n : Nat} {rest : List Char} (fits : n < Nat.pow 2 64)
    (stop : Delimited rest) :
    numberStep start false (decimal n ++ rest) = ⟨.number (.integer n), some rest⟩ := by
  have value : Number.Literal.value? ⟨false, decimal n, none, none⟩ = some (.integer n) := by
    have bound : n ≤ Number.Literal.maxSignificand := Nat.le_sub_one_of_lt fits
    simp [Number.Literal.value?, ofDigits_decimal, bound]
  unfold numberStep
  rw [readLiteral_decimal false n stop]
  simp only [value]

/-- The digits of a number behind a minus sign are read as a negative number. -/
lemma numberStep_negative (start : Char) {n : Nat} {rest : List Char} (pos : 0 < n)
    (fits : n ≤ Nat.pow 2 63) (stop : Delimited rest) :
    numberStep start true (decimal n ++ rest) = ⟨.number (.integer (-n)), some rest⟩ := by
  have value : Number.Literal.value? ⟨true, decimal n, none, none⟩ = some (.integer (-n)) := by
    have bound : n ≤ Number.Literal.maxSignificand := Nat.le_trans fits (by decide)
    simp [Number.Literal.value?, ofDigits_decimal, bound, pos, fits]
  unfold numberStep
  rw [readLiteral_decimal true n stop]
  simp only [value]

/-- A string ends at its quote. -/
lemma readString_quote (st : StringState) (rest : List Char) :
    readString st ('"' :: rest) = .ok (st.content, rest) := by
  unfold readString
  simp

/-- A letter behind a backslash stands for the character that it is the escape of. -/
lemma readString_escaped (st : StringState) {e c : Char} (rest : List Char)
    (escape : escaped? e = some c) :
    readString st ('\\' :: e :: rest) = readString (st.settle.push c) rest := by
  have letter : e ≠ 'u' := by
    rintro rfl
    cases escape
  rw [readString.eq_def]
  simp [letter, escape]

/-- Four digits behind the letter for codes stand for a code unit. -/
lemma readString_unit (st : StringState) {a b c d : Char} {n : Nat} (rest : List Char)
    (unit : hexUnit? a b c d = some n) :
    readString st ('\\' :: 'u' :: a :: b :: c :: d :: rest) = readString (st.pushUnit n) rest := by
  rw [readString.eq_def]
  simp [unit]

/-- Any other character from the space on stands for itself. -/
lemma readString_plain (st : StringState) {c : Char} (rest : List Char) (quote : c ≠ '"')
    (backslash : c ≠ '\\') (control : ¬ c.toNat < 0x20) :
    readString st (c :: rest) = readString (st.settle.push c) rest := by
  rw [readString.eq_def]
  simp only [quote, backslash, control, if_false]

/-- The code of a control character stands for that character. -/
lemma pushUnit_control {c : Char} (reversed : List Char) (control : c.toNat < 0x20) :
    StringState.pushUnit ⟨reversed, none, none⟩ c.toNat = ⟨c :: reversed, none, none⟩ := by
  have low : ¬ 0xDC00 ≤ c.toNat := by omega
  have high : ¬ 0xD800 ≤ c.toNat := by omega
  simp [StringState.pushUnit, StringState.push, low, high]

/-- The code of a control character is read back from its hexadecimal digits. -/
lemma hexUnit?_control : ∀ n < 0x20,
    hexUnit? '0' '0' (Nat.digitChar (n / 16)) (Nat.digitChar (n % 16)) = some n := by
  decide

/-- A character of a string is read back from its escape. -/
lemma readString_escapeChar (reversed : List Char) (c : Char) (cs : List Char) :
    readString ⟨reversed, none, none⟩ (escapeChar c ++ cs) =
      readString ⟨c :: reversed, none, none⟩ cs := by
  unfold escapeChar
  split_ifs with quote backslash backspace feed newline ret tab control
  · subst quote; exact readString_escaped _ cs rfl
  · subst backslash; exact readString_escaped _ cs rfl
  · subst backspace; exact readString_escaped _ cs rfl
  · subst feed; exact readString_escaped _ cs rfl
  · subst newline; exact readString_escaped _ cs rfl
  · subst ret; exact readString_escaped _ cs rfl
  · subst tab; exact readString_escaped _ cs rfl
  · -- what has no short escape is written as its code
    rw [← pushUnit_control reversed control]
    exact readString_unit _ cs (hexUnit?_control c.toNat control)
  · exact readString_plain _ cs quote backslash control

/-- The characters of a string are read back from their escaped forms. -/
lemma readString_flatMap (reversed cs rest : List Char) :
    readString ⟨reversed, none, none⟩ (cs.flatMap escapeChar ++ '"' :: rest) =
      .ok (.ok (String.ofList (reversed.reverse ++ cs)), rest) := by
  induction cs generalizing reversed with
  | nil =>
    rw [List.append_nil]
    exact readString_quote _ rest
  | cons c cs ih =>
    rw [List.flatMap_cons, List.append_assoc, readString_escapeChar, ih, List.reverse_cons,
      List.append_assoc, List.singleton_append]

/-- A string is read back from its text behind the opening quote. -/
lemma readString_text (s : String) (rest : List Char) :
    readString .start (s.toList.flatMap escapeChar ++ '"' :: rest) = .ok (.ok s, rest) := by
  have e := readString_flatMap [] s.toList rest
  rwa [List.reverse_nil, List.nil_append, String.ofList_toList] at e

end KindResolution.Json.Reader
