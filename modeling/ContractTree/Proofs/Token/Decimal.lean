import ContractTree.Proofs.Token.Lexemes
import ContractTree.Proofs.Token.Numeral
import Mathlib.Data.List.Induction

namespace ContractTree

/-!
# The number that a numeral writes

Which number a run of digits writes is said digit by digit, without a word about how it is
computed, and however many digits there are.  The reader of numerals finds that number.
Among the numerals of one number just one has no leading zero, the one that is written for
the number, so a numeral is written as it was read if it is canonical.
-/

namespace Decimal

open Lexeme (Digit)

/-- A run of digits and the number that it writes. -/
inductive Writes : List Char → Nat → Prop where
  | digit {c : Char} (isDigit : Digit c) : Writes [c] (c.toNat - '0'.toNat)
  | next {text : List Char} {number : Nat} {c : Char} (before : Writes text number)
    (isDigit : Digit c) : Writes (text ++ [c]) (10 * number + (c.toNat - '0'.toNat))

variable {text : List Char} {number : Nat}

theorem Writes.ne_nil (writes : Writes text number) : text ≠ [] := by
  cases writes <;> simp

theorem Writes.digits (writes : Writes text number) : ∀ c ∈ text, Digit c := by
  induction writes with
  | digit isDigit =>
    intro d member
    rwa [List.mem_singleton.1 member]
  | next _ isDigit ih =>
    intro d member
    rcases List.mem_append.1 member with inText | last
    · exact ih d inText
    · rwa [List.mem_singleton.1 last]

theorem Writes.ofDigitChars_eq (writes : Writes text number) :
    Nat.ofDigitChars 10 text 0 = number := by
  induction writes with
  | digit _ => simp [Nat.ofDigitChars_cons]
  | next _ _ ih => rw [Nat.ofDigitChars_append, ih, Nat.ofDigitChars_cons, Nat.ofDigitChars_nil]

theorem writes_ofDigitChars (nonempty : text ≠ []) (digits : ∀ c ∈ text, Digit c) :
    Writes text (Nat.ofDigitChars 10 text 0) := by
  induction text using List.reverseRecOn with
  | nil => exact absurd rfl nonempty
  | append_singleton text c ih =>
    have isDigit : Digit c := digits c (by simp)
    rw [Nat.ofDigitChars_append, Nat.ofDigitChars_cons, Nat.ofDigitChars_nil]
    by_cases alone : text = []
    · subst alone
      simpa using Writes.digit isDigit
    · exact .next (ih alone fun d member => digits d (List.mem_append_left _ member)) isDigit

/-- The number of a numeral is the one that it writes. -/
theorem value?_eq_some_iff_writes : value? text = some number ↔ Writes text number := by
  rw [value?_eq_some_iff]
  constructor
  · rintro ⟨nonempty, digits, rfl⟩
    exact writes_ofDigitChars nonempty fun c member => Lexeme.isDigit_iff.1 (digits c member)
  · intro writes
    exact ⟨writes.ne_nil, fun c member => Lexeme.isDigit_iff.2 (writes.digits c member),
      writes.ofDigitChars_eq⟩

theorem Writes.unique {other : Nat} (writes : Writes text number) (again : Writes text other) :
    number = other :=
  writes.ofDigitChars_eq.symm.trans again.ofDigitChars_eq

theorem writes_toString (number : Nat) : Writes (toString number).toList number :=
  value?_eq_some_iff_writes.1 (value?_toString number)

/-! ## Numerals without leading zeros -/

theorem toList_toString (number : Nat) : (toString number).toList = Nat.toDigits 10 number := by
  rw [Nat.toString_eq_ofList_toDigits, String.toList_ofList]

theorem toDigits_digit {c : Char} (isDigit : Digit c) :
    c.toNat - '0'.toNat < 10 ∧ Nat.toDigits 10 (c.toNat - '0'.toNat) = [c] := by
  have bounds : 48 ≤ c.toNat ∧ c.toNat ≤ 57 := isDigit
  have small : c.toNat - '0'.toNat < 10 := by
    change c.toNat - 48 < 10
    omega
  refine ⟨small, ?_⟩
  rw [Nat.toDigits_of_lt_base small, List.cons.injEq, ← Char.toNat_inj,
    Nat.toNat_digitChar_of_lt_ten small]
  refine ⟨?_, rfl⟩
  change 48 + (c.toNat - 48) = c.toNat
  omega

/-- A numeral without a leading zero is the one that is written for its number. -/
theorem Writes.eq_toString (writes : Writes text number) (canonical : IsCanonical text) :
    text = (toString number).toList := by
  induction writes with
  | digit isDigit => rw [toList_toString, (toDigits_digit isDigit).2]
  | @next text number c before isDigit ih =>
    -- A zero in front of another digit would be a leading one.
    have noZero : text.head? ≠ some '0' := by
      intro zero
      have alone := canonical (by rw [List.head?_append, zero]; rfl)
      rw [List.length_append, List.length_singleton] at alone
      exact before.ne_nil (List.eq_nil_of_length_eq_zero (by omega))
    have same := ih fun zero => absurd zero noZero
    have positive : 0 < number := by
      refine Nat.pos_of_ne_zero ?_
      rintro rfl
      exact noZero (by rw [same]; rfl)
    rcases toDigits_digit isDigit with ⟨small, digit⟩
    rw [toList_toString] at same ⊢
    rw [← Nat.toDigits_append_toDigits (by decide) positive small, ← same, digit]

end Decimal

/-- A size is a numeral without a leading zero, of a number that fits into 16 bits. -/
theorem ElementaryType.size?_eq_some_iff {text : List Char} {number : Nat} :
    size? text = some number ↔
      Decimal.Writes text number ∧ Decimal.IsCanonical text ∧ number < UInt16.size := by
  unfold size?
  split
  · next canonical =>
    rw [Option.filter_eq_some_iff, Decimal.value?_eq_some_iff_writes, decide_eq_true_eq,
      and_iff_right canonical]
  · next leading => simp only [reduceCtorEq, leading, false_and, and_false]

end ContractTree
