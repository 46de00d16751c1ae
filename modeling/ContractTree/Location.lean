import ContractTree.Span

namespace ContractTree

/-!
# Source locations and node identifiers

Every node of a tree says where it was written, by a span in a named source, and
carries the identifier that its document gave it.  Identifiers are 64-bit
integers and are never made up or changed.
-/

/-- The name of a source.  Names are ordered by their code points. -/
abbrev SourceName := String

namespace SourceName

/-- A name in quotes, with quotes and backslashes in it escaped. -/
def label (name : SourceName) : String :=
  let escaped := name.toList.flatMap fun c => if c = '"' ∨ c = '\\' then ['\\', c] else [c]
  String.ofList ('"' :: escaped ++ ['"'])

/-- The names in ascending order. -/
def sort (names : List SourceName) : List SourceName :=
  names.mergeSort fun first second => decide (first ≤ second)

end SourceName

structure SourceLocation where
  source : SourceName
  span : Span
  deriving DecidableEq, Repr, Inhabited

namespace SourceLocation

/-- The place that a range marker names in a source. -/
def ofMarker? (source : SourceName) (marker : String) : Option SourceLocation :=
  (Span.ofMarker? marker).map fun span => ⟨source, span⟩

def text (location : SourceLocation) : String :=
  s!"{location.source}:{location.span.text}"

/-- A location as diagnostics show it. -/
def label (location : SourceLocation) : String :=
  s!"{location.source}@{location.span.label}"

end SourceLocation

abbrev NodeId := Int64

namespace NodeId

/-- The identifier of an integer, which must fit into 64 bits. -/
def ofInt? (number : Int) : Option NodeId :=
  if Int64.minValue.toInt ≤ number ∧ number ≤ Int64.maxValue.toInt then
    some (Int64.ofInt number)
  else
    none

def text (id : NodeId) : String := toString id.toInt

/-- An identifier as diagnostics show it. -/
def label (id : NodeId) : String := s!"#{id.toInt}"

theorem ofInt?_toInt (id : NodeId) : ofInt? id.toInt = some id := by
  unfold ofInt?
  rw [if_pos ⟨Int64.minValue_le_toInt id, Int64.toInt_le id⟩, Int64.ofInt_toInt]

end NodeId
end ContractTree
