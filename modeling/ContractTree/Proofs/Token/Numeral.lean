import ContractTree.Location
import ContractTree.Token.ElementaryType

namespace ContractTree

/-!
# Numerals that are written are read back

Numbers are written in decimal without leading zeros, so that a numeral is canonical
and sizes and offsets come back as they were.  An ordered span comes back from its
range marker.
-/

namespace Decimal

theorem isDigit_of_mem_toString {number : Nat} {c : Char} (member : c ∈ (toString number).toList) :
    c.isDigit = true :=
  (value?_eq_some_iff.1 (value?_toString number)).2.1 c member

theorem not_mem_toString {number : Nat} {c : Char} (other : c.isDigit = false) :
    c ∉ (toString number).toList := by
  intro member
  rw [isDigit_of_mem_toString member] at other
  cases other

/-- A text is cut at a separator that does not stand in front of it as well. -/
theorem cut_at_separator {separator : Char} {first second : List Char}
    (absent : separator ∉ first) :
    (first ++ separator :: second).takeWhile (· ≠ separator) = first ∧
      ((first ++ separator :: second).dropWhile (· ≠ separator)).drop 1 = second := by
  have holds : ∀ c ∈ first, decide (c ≠ separator) = true := by
    intro c member
    refine decide_eq_true ?_
    rintro rfl
    exact absent member
  rw [List.takeWhile_append_of_pos holds, List.dropWhile_append_of_pos holds]
  simp

/-- The numeral of a positive number starts with another digit than zero. -/
theorem head?_toDigits_ne {number : Nat} (positive : 0 < number) :
    (Nat.toDigits 10 number).head? ≠ some '0' := by
  induction number using Nat.strongRecOn with
  | ind number ih =>
    by_cases small : number < 10
    · rw [Nat.toDigits_of_lt_base small, List.head?_cons, ne_eq, Option.some.injEq,
        Nat.digitChar_eq_zero]
      omega
    · have quotient : 0 < number / 10 := by omega
      have leading := ih (number / 10) (by omega) quotient
      rw [Nat.toDigits_of_base_le (by decide) (by omega)]
      cases digits : Nat.toDigits 10 (number / 10) with
      | nil => exact absurd digits Nat.toDigits_ne_nil
      | cons first rest =>
        rw [digits] at leading
        exact leading

theorem isCanonical_toString (number : Nat) : IsCanonical (toString number).toList := by
  intro leading
  rw [Nat.toString_eq_ofList_toDigits, String.toList_ofList] at leading ⊢
  by_cases zero : number = 0
  · rw [zero, Nat.toDigits_zero]
    rfl
  · exact absurd leading (head?_toDigits_ne (Nat.pos_of_ne_zero zero))

end Decimal

theorem ElementaryType.size?_toString {number : Nat} (bounded : number < UInt16.size) :
    size? (toString number).toList = some number := by
  unfold size?
  rw [if_pos (Decimal.isCanonical_toString number), Decimal.value?_toString, Option.filter_some,
    if_pos (decide_eq_true bounded)]

/-! ## Range markers -/

namespace Span

theorem offset?_toString (offset : UInt32) :
    offset? (toString offset.toNat).toList = some offset := by
  unfold offset?
  rw [Decimal.value?_toString]
  have inRange : offset.toNat < UInt32.size := offset.toNat_lt_size
  simp only [if_pos inRange, UInt32.ofNat_toNat]

/-- Two runs without a colon are told apart by the colon between them. -/
theorem fields_append {first second : List Char} (noColon : ':' ∉ first) :
    fields (first ++ ':' :: second) = (first, second) := by
  rcases Decimal.cut_at_separator noColon with ⟨before, behind⟩
  rw [fields, before, behind]

theorem toList_text (span : Span) :
    span.text.toList =
      (toString span.start.toNat).toList ++ ':' :: (toString span.stop.toNat).toList := by
  rw [text, String.toList_append, String.toList_append, List.append_assoc]
  rfl

theorem ofMarker?_text {span : Span} (ordered : span.Ordered) :
    ofMarker? span.text = some span := by
  unfold ofMarker?
  rw [toList_text, fields_append (Decimal.not_mem_toString (by decide))]
  simp only [offset?_toString]
  rw [between_eq_ok_iff.2 ⟨rfl, ordered⟩]
  rfl

end Span

theorem SourceLocation.ofMarker?_text {source : SourceName} {location : SourceLocation}
    (sourced : location.source = source) (ordered : location.span.Ordered) :
    ofMarker? source location.span.text = some location := by
  rw [ofMarker?, Span.ofMarker?_text ordered, ← sourced]
  rfl

end ContractTree
