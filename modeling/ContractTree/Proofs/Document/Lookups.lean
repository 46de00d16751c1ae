import ContractTree.Proofs.Document.Markers
import ContractTree.Proofs.Document.Readers

namespace ContractTree

/-!
# What a document node holds

The head of a document node is its identifier and its range marker, which nearly every form
reads.  A list stands under its key, or is empty if nothing does.  What is said here of a
document node is said of the values that it holds, and the readers find just that.
-/

/-- A text is read as the place that it is a marker of, or is a marker of none. -/
theorem readPlace_cases (source : SourceName) (marker : String) :
    (∃ span, readPlace source marker = .ok ⟨source, span⟩ ∧
      Span.IsMarker marker span.start.toNat span.stop.toNat) ∨
    (readPlace source marker = .error (.schema (.invalidSourceRange marker)) ∧
      ∀ start stop, ¬ Span.IsMarker marker start stop) := by
  cases read : Span.ofMarker? marker with
  | none => exact .inr ⟨readPlace_eq_error_iff.2 read, Span.ofMarker?_eq_none_iff.1 read⟩
  | some span =>
    refine .inl ⟨span, ?_, Span.ofMarker?_eq_some_iff.1 read⟩
    rw [readPlace, SourceLocation.ofMarker?, read]
    rfl

namespace DocumentNode

/-- A document node says which node it is and where it stands in the source. -/
structure Headed (document : DocumentNode) (source : SourceName) (id : NodeId)
    (location : SourceLocation) : Prop where
  id : document.structural? "id" = some (.int id.toInt)
  source : location.source = source
  marker : ∃ marker, document.structural? "src" = some (.str marker) ∧
    Span.IsMarker marker location.span.start.toNat location.span.stop.toNat

/-- The items of the list under a key, of which there are none if nothing stands there. -/
def Lists (document : DocumentNode) (key : String) (items : List Json) : Prop :=
  (document.structural? key = none ∧ items = []) ∨ document.structural? key = some (.arr items)

variable {document : DocumentNode} {source : SourceName} {id : NodeId} {location : SourceLocation}

theorem Headed.readId (headed : document.Headed source id location) :
    document.readId = .ok id := by
  have integral : (Json.int id.toInt).asInt?.bind NodeId.ofInt? = some id := NodeId.ofInt?_toInt id
  rw [DocumentNode.readId, headed.id]
  simp only [integral]

theorem Headed.readLocation (headed : document.Headed source id location) :
    document.readLocation source = .ok location := by
  rcases headed.marker with ⟨marker, stands, isMarker⟩
  have place : readPlace source marker = .ok location := by
    rw [readPlace, SourceLocation.ofMarker?, Span.ofMarker?_eq_some_iff.2 isMarker, ← headed.source]
    rfl
  have marked : document.readMarker? = .ok (some marker) := by rw [readMarker?, stands]
  simp only [DocumentNode.readLocation, readLocation?, marked, bind, Except.bind, place]
  rfl

theorem readText_of_scalar? {layout : FieldLayout} {key text : String}
    (found : document.scalar? layout key = some (.str text)) :
    document.readText layout key = .ok text := by
  simp only [readText, readText?, found]
  rfl

theorem readItems_eq_ok_iff {key : String} {items : List Json} :
    document.readItems key = .ok items ↔ document.Lists key items := by
  constructor
  · exact readItems_cases
  · rintro (⟨missing, rfl⟩ | stands)
    · rw [readItems, missing]
    · rw [readItems, stands]

end DocumentNode
end ContractTree
