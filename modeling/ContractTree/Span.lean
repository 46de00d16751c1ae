import ContractTree.Decimal

namespace ContractTree

/-!
# Spans

A span is a half-open range of byte offsets into a source.  It may be built
without looking at the order of its ends; the checked constructor refuses a range
that ends before it starts, and `Span.Ordered` is the condition that it tests.

In a document a span is a range marker, two decimal numerals with a colon between
them.  Reading a marker accepts leading zeros and refuses signs, blanks, further
fields, offsets past the range of a span's ends, and disorder.
-/

structure Span where
  start : UInt32
  stop : UInt32
  deriving DecidableEq, Repr, Inhabited

/-- The only way in which two offsets fail to delimit a range. -/
inductive SpanError where
  | inverted (start stop : UInt32)
  deriving DecidableEq, Repr

def SpanError.message : SpanError → String
  | inverted start stop => s!"span end {stop.toNat} is before span start {start.toNat}"

namespace Span

def Ordered (span : Span) : Prop := span.start ≤ span.stop

instance (span : Span) : Decidable span.Ordered :=
  inferInstanceAs (Decidable (_ ≤ _))

/-- The range between two offsets, which must be in order. -/
def between (start stop : UInt32) : Except SpanError Span :=
  if stop < start then .error (.inverted start stop) else .ok ⟨start, stop⟩

theorem between_eq_ok_iff {start stop : UInt32} {span : Span} :
    between start stop = .ok span ↔ span = ⟨start, stop⟩ ∧ span.Ordered := by
  unfold between
  split
  · next below =>
    simp only [reduceCtorEq, false_iff, not_and]
    rintro rfl ordered
    exact absurd (UInt32.lt_of_lt_of_le below ordered) (UInt32.lt_irrefl _)
  · next above =>
    rw [Except.ok.injEq]
    constructor
    · rintro rfl
      exact ⟨rfl, UInt32.not_lt.1 above⟩
    · exact fun same => same.1.symm

/-- The number of bytes in an ordered span. -/
def length (span : Span) : UInt32 := span.stop - span.start

def isEmpty (span : Span) : Bool := span.start = span.stop

def contains (span : Span) (offset : UInt32) : Bool :=
  span.start ≤ offset && offset < span.stop

/-- Both ends of `inner` lie within `outer`. -/
def containsSpan (outer inner : Span) : Bool :=
  outer.start ≤ inner.start && inner.stop ≤ outer.stop

/-- The range marker of a span. -/
def text (span : Span) : String := s!"{span.start.toNat}:{span.stop.toNat}"

/-- A span as diagnostics show it. -/
def label (span : Span) : String := s!"{span.start.toNat}..{span.stop.toNat}"

/-- The offset that a field of a marker writes. -/
def offset? (field : List Char) : Option UInt32 :=
  match Decimal.value? field with
  | none => none
  | some number => if number < UInt32.size then some (UInt32.ofNat number) else none

/-- The two fields of a marker.  A second colon stays in the later field, which
is then no numeral. -/
def fields (marker : List Char) : List Char × List Char :=
  (marker.takeWhile (· ≠ ':'), (marker.dropWhile (· ≠ ':')).drop 1)

/-- Reads a range marker. -/
def ofMarker? (marker : String) : Option Span :=
  match offset? (fields marker.toList).1, offset? (fields marker.toList).2 with
  | some start, some stop => (between start stop).toOption
  | _, _ => none

/-- What is read from a marker ends no earlier than it starts. -/
theorem ordered_of_ofMarker? {marker : String} {span : Span}
    (read : ofMarker? marker = some span) : span.Ordered := by
  unfold ofMarker? at read
  split at read
  · next start stop _ _ =>
    cases checked : between start stop with
    | error cause =>
      rw [checked] at read
      cases read
    | ok found =>
      rw [checked] at read
      cases read
      exact (between_eq_ok_iff.1 checked).2
  · cases read

end Span
end ContractTree
