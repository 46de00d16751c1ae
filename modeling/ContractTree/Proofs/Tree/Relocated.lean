import ContractTree.Form.Attribute
import ContractTree.Proofs.Tree.Fold
import ContractTree.Proofs.Tree.Grammar

namespace ContractTree

/-!
# Trees with their locations changed

A tree holds locations in two places: each node has one, and the references of inline
assembly may have one each.  Relocating a tree changes all of these and nothing else.
Renaming a source is a relocation, which moves the locations in the source to a source
of another name and leaves those in other sources where they are.
-/

/-- A location in the source of one name, moved to the source of another. -/
def SourceLocation.rename (old new : SourceName) (location : SourceLocation) : SourceLocation :=
  if location.source = old then ⟨new, location.span⟩ else location

theorem SourceLocation.rename_self (old new : SourceName) (span : Span) :
    SourceLocation.rename old new ⟨old, span⟩ = ⟨new, span⟩ := if_pos rfl

section Relocate

variable {α β : Type} (change : SourceLocation → SourceLocation)

def ExternalReference.relocate (reference : ExternalReference) : ExternalReference :=
  { reference with location := reference.location.map change }

def Statement.relocate : Statement α → Statement α
  | .inlineAssembly operations references =>
    .inlineAssembly operations (references.map (ExternalReference.relocate change))
  | other => other

/-- A shape with the locations of references changed.  No other shape than inline
assembly has locations. -/
def Shape.relocate : Shape α → Shape α
  | .statement shape => .statement (shape.relocate change)
  | other => other

theorem Statement.kind_relocate (shape : Statement α) :
    (shape.relocate change).kind = shape.kind := by
  cases shape <;> rfl

theorem Shape.kind_relocate (shape : Shape α) : (shape.relocate change).kind = shape.kind := by
  cases shape with
  | statement shape => exact shape.kind_relocate change
  | _ => rfl

instance : Inhabited Node := ⟨⟨0, default, .statement .placeholder⟩⟩

/-- A tree with all of its locations changed. -/
def Node.relocate : Node → Node :=
  fold fun id location shape => ⟨id, change location, shape.relocate change⟩

namespace Node

theorem relocate_eq (node : Node) :
    node.relocate change =
      ⟨node.id, change node.location, (node.shape.map (relocate change)).relocate change⟩ :=
  fold_eq _ node

/-- Relocating a node, as far as its shape is known. -/
theorem relocate_mk (id : NodeId) (location : SourceLocation) (shape : Shape Node) :
    relocate change ⟨id, location, shape⟩ =
      ⟨id, change location, (shape.map (relocate change)).relocate change⟩ :=
  relocate_eq change _

theorem relocate_bareIdentifier (id : NodeId) (location : SourceLocation) (name : String) :
    (bareIdentifier id location name).relocate change =
      bareIdentifier id (change location) name :=
  relocate_mk ..

theorem kind_relocate (node : Node) : (node.relocate change).kind = node.kind := by
  rw [relocate_eq, kind, kind, Shape.kind_relocate, Shape.kind_map]

theorem elementaryType?_relocate (node : Node) :
    (node.relocate change).elementaryType? = node.elementaryType? := by
  rcases node with ⟨id, location, shape⟩
  rw [relocate_mk]
  cases shape with
  | typeName shape => cases shape <;> rfl
  | _ => rfl

end Node
end Relocate

/-! ## The locations that a tree holds -/

def Statement.locations {α : Type} : Statement α → List SourceLocation
  | .inlineAssembly _ references => references.filterMap (·.location)
  | _ => []

/-- The locations that a shape holds, besides that of its node. -/
def Shape.locations {α : Type} : Shape α → List SourceLocation
  | .statement shape => shape.locations
  | _ => []

/-- All locations of a node name one source. -/
def Node.Names (source : SourceName) (node : Node) : Prop :=
  ∀ location ∈ node.location :: node.shape.locations, location.source = source

theorem Node.Grammatical.names {source : SourceName} {node : Node}
    (grammatical : node.Grammatical source) : node.Names source := by
  intro location member
  rcases List.mem_cons.1 member with rfl | inside
  · exact grammatical.location.source_eq
  · rcases node with ⟨id, place, shape⟩
    have within : shape.Grammatical source := grammatical.shape
    cases shape with
    | statement shape =>
      cases shape with
      | inlineAssembly operations references =>
        rcases List.mem_filterMap.1 inside with ⟨reference, listed, found⟩
        exact (within reference listed location found).source_eq
      | _ => cases inside
    | _ => cases inside

end ContractTree
