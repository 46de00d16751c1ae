namespace ContractTree

/-!
# Decimal numerals

Offsets, sizes and identifiers are written in decimal.  A numeral is a non-empty
run of the digits `0` to `9`; it has no sign, and leading zeros do not change its
value.  Whether leading zeros are welcome is for the reader of a numeral to say,
so being canonical is a separate predicate.
-/

namespace Decimal

/-- The number that a numeral writes. -/
def value? (text : List Char) : Option Nat :=
  if text ≠ [] ∧ text.all Char.isDigit = true then some (Nat.ofDigitChars 10 text 0) else none

/-- A numeral has no leading zero unless it is `0` itself. -/
def IsCanonical (text : List Char) : Prop :=
  text.head? = some '0' → text.length = 1

instance (text : List Char) : Decidable (IsCanonical text) :=
  inferInstanceAs (Decidable (_ → _))

theorem value?_eq_some_iff {text : List Char} {number : Nat} :
    value? text = some number ↔
      text ≠ [] ∧ (∀ c ∈ text, c.isDigit = true) ∧ Nat.ofDigitChars 10 text 0 = number := by
  simp only [value?, List.all_eq_true, ← and_assoc]
  split
  · next shape => simp only [Option.some.injEq, and_iff_right shape]
  · next shape => simp only [reduceCtorEq, shape, false_and]

/-- Reading back what is written gives the same number. -/
theorem value?_toString (number : Nat) : value? (toString number).toList = some number := by
  rw [value?_eq_some_iff, Nat.toString_eq_ofList_toDigits, String.toList_ofList]
  refine ⟨Nat.toDigits_ne_nil, fun c member => ?_, ?_⟩
  · exact Nat.isDigit_of_mem_toDigits (by decide) (by decide) member
  · exact Nat.ofDigitChars_toDigits (by decide) (by decide)

end Decimal
end ContractTree
