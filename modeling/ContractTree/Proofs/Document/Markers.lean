import ContractTree.Document.Scalar
import ContractTree.Proofs.Token.Decimal

namespace ContractTree

/-!
# Range markers are read exactly

A range marker is two numerals with a colon between them.  It is said here which texts are
markers and of which range, by the numbers that numerals write, and shown that the reader
takes just these texts and refuses every other one with an error that repeats it.

Writing a range gives a marker of it.  A marker with leading zeros is read like the one
without them, so it is the only sort of marker that is not written again as it was read.
-/

namespace Span

/-- A marker of the range from `start` to `stop`, which are offsets of 32 bits.  Its numerals
may have leading zeros. -/
def IsMarker (marker : String) (start stop : Nat) : Prop :=
  ∃ first second, marker.toList = first ++ ':' :: second ∧
    Decimal.Writes first start ∧ Decimal.Writes second stop ∧
    start ≤ stop ∧ stop < UInt32.size

/-! ## The two fields -/

theorem colon_not_mem {field : List Char} {number : Nat}
    (writes : Decimal.Writes field number) : ':' ∉ field :=
  mt (writes.digits ':') (by decide)

theorem offset?_eq_some_iff {field : List Char} {offset : UInt32} :
    offset? field = some offset ↔ Decimal.Writes field offset.toNat := by
  unfold offset?
  constructor
  · intro read
    split at read
    · cases read
    · next number found =>
      split at read
      · next bounded =>
        cases read
        rw [UInt32.toNat_ofNat_of_lt' bounded]
        exact Decimal.value?_eq_some_iff_writes.1 found
      · cases read
  · intro writes
    rw [Decimal.value?_eq_some_iff_writes.2 writes]
    have bounded : offset.toNat < UInt32.size := offset.toNat_lt_size
    simp only [if_pos bounded, UInt32.ofNat_toNat]

/-! ## Reading -/

/-- What is read is a range that the text is a marker of. -/
theorem ofMarker?_eq_some_iff {marker : String} {span : Span} :
    ofMarker? marker = some span ↔ IsMarker marker span.start.toNat span.stop.toNat := by
  unfold ofMarker?
  constructor
  · intro read
    split at read
    · next start stop readStart readStop =>
      cases checked : between start stop with
      | error cause =>
        rw [checked] at read
        cases read
      | ok found =>
        rw [checked] at read
        cases read
        rcases between_eq_ok_iff.1 checked with ⟨rfl, ordered⟩
        have writesStop := offset?_eq_some_iff.1 readStop
        exact ⟨_, _, Lexeme.append_separator writesStop.ne_nil, offset?_eq_some_iff.1 readStart,
          writesStop, ordered, stop.toNat_lt_size⟩
    · cases read
  · rintro ⟨first, second, split, writesStart, writesStop, ordered, _⟩
    rw [split, fields_append (colon_not_mem writesStart)]
    simp only [offset?_eq_some_iff.2 writesStart, offset?_eq_some_iff.2 writesStop]
    rw [between_eq_ok_iff.2 ⟨rfl, ordered⟩]
    rfl

/-- A range that a text is a marker of is the range of a span. -/
theorem IsMarker.exists_ofMarker? {marker : String} {start stop : Nat}
    (isMarker : IsMarker marker start stop) : ∃ span, ofMarker? marker = some span := by
  rcases isMarker with ⟨first, second, split, writesStart, writesStop, ordered, bounded⟩
  have startBounded : start < UInt32.size := Nat.lt_of_le_of_lt ordered bounded
  refine ⟨⟨UInt32.ofNat start, UInt32.ofNat stop⟩, ofMarker?_eq_some_iff.2 ?_⟩
  rw [UInt32.toNat_ofNat_of_lt' startBounded, UInt32.toNat_ofNat_of_lt' bounded]
  exact ⟨first, second, split, writesStart, writesStop, ordered, bounded⟩

theorem ofMarker?_eq_none_iff {marker : String} :
    ofMarker? marker = none ↔ ∀ start stop, ¬ IsMarker marker start stop := by
  constructor
  · intro unread start stop isMarker
    rcases isMarker.exists_ofMarker? with ⟨span, read⟩
    cases unread.symm.trans read
  · intro noMarker
    cases read : ofMarker? marker with
    | none => rfl
    | some span => exact absurd (ofMarker?_eq_some_iff.1 read) (noMarker _ _)

/-! ## Writing -/

/-- A marker is written as it was read if its numerals are canonical, and only then. -/
theorem text_eq_iff {marker : String} {span : Span} {first second : List Char}
    (read : ofMarker? marker = some span) (split : marker.toList = first ++ ':' :: second) :
    span.text = marker ↔ Decimal.IsCanonical first ∧ Decimal.IsCanonical second := by
  rcases ofMarker?_eq_some_iff.1 read with
    ⟨before, behind, cut, writesStart, writesStop, _, _⟩
  -- The numerals have no colon, so there is one place only to split the marker at.
  rcases (List.append_cons_inj_of_notMem (colon_not_mem writesStart) (colon_not_mem writesStop)).1
    (cut.symm.trans split) with ⟨rfl, -, rfl⟩
  rw [← String.toList_inj, toList_text, split]
  constructor
  · intro same
    rcases (List.append_cons_inj_of_notMem (colon_not_mem (Decimal.writes_toString _))
      (colon_not_mem (Decimal.writes_toString _))).1 same with ⟨sameStart, -, sameStop⟩
    rw [← sameStart, ← sameStop]
    exact ⟨Decimal.isCanonical_toString _, Decimal.isCanonical_toString _⟩
  · rintro ⟨canonicalStart, canonicalStop⟩
    rw [← writesStart.eq_toString canonicalStart, ← writesStop.eq_toString canonicalStop]

end Span

theorem readPlace_eq_error_iff {source : SourceName} {marker : String} :
    readPlace source marker = .error (.schema (.invalidSourceRange marker)) ↔
      Span.ofMarker? marker = none := by
  unfold readPlace SourceLocation.ofMarker?
  cases Span.ofMarker? marker with
  | none => simp
  | some span => simp

namespace Span

/-- A text is read as a span just if it is a marker of that range, and refused with an
error that repeats it just if it is a marker of none, whatever source it names a place in.
So the marker that is written of an ordered span is read as the span, and what is written
of a span that was read is the marker that it was read from, unless this has a numeral with
a leading zero. -/
theorem marker_exact (marker : String) :
    (∀ span, ofMarker? marker = some span ↔
      IsMarker marker span.start.toNat span.stop.toNat) ∧
    (∀ source, (∃ span, readPlace source marker = .ok ⟨source, span⟩ ∧
        IsMarker marker span.start.toNat span.stop.toNat) ∨
      readPlace source marker = .error (.schema (.invalidSourceRange marker)) ∧
        ∀ start stop, ¬ IsMarker marker start stop) ∧
    (∀ span : Span, span.start ≤ span.stop → ofMarker? span.text = some span) ∧
    ∀ span first second, ofMarker? marker = some span →
      marker.toList = first ++ ':' :: second →
      (span.text = marker ↔ Decimal.IsCanonical first ∧ Decimal.IsCanonical second) := by
  refine ⟨fun span => ofMarker?_eq_some_iff, fun source => ?_, fun span => ofMarker?_text,
    fun span first second => text_eq_iff⟩
  cases read : ofMarker? marker with
  | none =>
    exact .inr ⟨readPlace_eq_error_iff.2 read, ofMarker?_eq_none_iff.1 read⟩
  | some span =>
    refine .inl ⟨span, ?_, ofMarker?_eq_some_iff.1 read⟩
    rw [readPlace, SourceLocation.ofMarker?, read]
    rfl

/-- Leading zeros and the largest offset are read, and the zeros are not written again. -/
theorem marker_exact_padded :
    ofMarker? "007:4294967295" = some ⟨7, 4294967295⟩ ∧
    (⟨7, 4294967295⟩ : Span).text ≠ "007:4294967295" ∧
    readPlace "A.sol" "0:4294967296" = .error (.schema (.invalidSourceRange "0:4294967296")) := by
  have read : ofMarker? "007:4294967295" = some ⟨7, 4294967295⟩ := by decide +kernel
  refine ⟨read, fun same => ?_, ?_⟩
  · have canonical := ((marker_exact "007:4294967295").2.2.2 _ ['0', '0', '7']
      ['4', '2', '9', '4', '9', '6', '7', '2', '9', '5'] read (by decide)).1 same
    exact absurd canonical.1 (by decide)
  · rcases (marker_exact "0:4294967296").2.1 "A.sol" with ⟨span, _, isMarker⟩ | ⟨refused, _⟩
    · have read := ((marker_exact "0:4294967296").1 span).2 isMarker
      have unread : ofMarker? "0:4294967296" = none := by decide +kernel
      cases unread.symm.trans read
    · exact refused

end Span
end ContractTree
