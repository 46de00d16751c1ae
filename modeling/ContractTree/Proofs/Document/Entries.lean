import ContractTree.Proofs.Document.Places

namespace ContractTree

/-!
# The listing of a document

The entries of a document are its nodes from the root on, each before the nodes in
its places, with the kind that its tag names, its identifier, and the span of its
range marker.  A source unit may do without an identifier or a marker, and no other
node may; a node without them ends the listing where it stands.

An entry also says where it comes from and whether the tree has a node for it.
-/

/-- Where the identifier of an entry comes from. -/
inductive Origin where
  /-- From the document. -/
  | written
  /-- The document has none. -/
  | defaulted
  /-- From the owner of a name. -/
  | bareName
  deriving DecidableEq, Repr

/-- A node of a document as a listing has it. -/
structure Entry where
  summary : NodeSummary
  origin : Origin
  /-- The tree has a node for the entry. -/
  isKept : Bool
  deriving DecidableEq, Repr

namespace Entry

def isBareName (entry : Entry) : Bool := entry.origin = .bareName

/-- A document node stands where the entry is listed. -/
def isConverted (entry : Entry) : Bool := !entry.isBareName

def isWritten (entry : Entry) : Bool := entry.origin = .written

/-- The entry of a node of which only the type is kept. -/
def typeOnly (entry : Entry) : Entry := { entry with isKept := false }

end Entry

namespace DocumentNode

/-- The identifier of the node of a document node. -/
def nodeId? (document : DocumentNode) : Option NodeId :=
  if document.kind = .sourceUnit then some (document.id?.getD 0) else document.id?

/-- The location of the node of a document node. -/
def location? (document : DocumentNode) (settings : Settings) : Option SourceLocation :=
  match document.structural? "src" with
  | some (.str marker) => SourceLocation.ofMarker? settings.source marker
  | some _ => none
  | none => if document.kind = .sourceUnit then some settings.wholeSource else none

/-- Where the identifier of a document node comes from. -/
def origin (document : DocumentNode) : Origin :=
  if document.id?.isSome then .written else .defaulted

/-- The entry of a document node itself. -/
def ownEntry? (document : DocumentNode) (settings : Settings) : Option Entry :=
  match document.nodeId?, document.location? settings with
  | some id, some location => some ⟨⟨document.kind, id, location.span⟩, document.origin, true⟩
  | _, _ => none

end DocumentNode

/-- The entries of a document from the node of a value on. -/
def entries (settings : Settings) (value : Json) : List Entry :=
  match _read : DocumentNode.ofJson? value with
  | .error _ => []
  | .ok document =>
    match document.ownEntry? settings with
    | none => []
    | some own =>
      own :: (document.places settings.layout).attach.flatMap fun ⟨place, _member⟩ =>
        match _stands : place with
        | .node child => entries settings child
        | .typeOnly child => (entries settings child).map Entry.typeOnly
        | .bareName _ => [⟨⟨.identifier, own.summary.id, own.summary.span⟩, .bareName, true⟩]
termination_by value.height
decreasing_by
  all_goals
    rw [DocumentNode.ofJson?_eq_ok _read]
    exact DocumentNode.height_lt_of_mem_places (by assumption) rfl

/-- The entries of what stands in a place of a node. -/
def Place.entries (settings : Settings) (owner : NodeSummary) : Place → List Entry
  | node child => ContractTree.entries settings child
  | typeOnly child => (ContractTree.entries settings child).map Entry.typeOnly
  | bareName _ => [⟨⟨.identifier, owner.id, owner.span⟩, .bareName, true⟩]

theorem entries_of_ok {settings : Settings} {value : Json} {document : DocumentNode} {own : Entry}
    (read : DocumentNode.ofJson? value = .ok document)
    (listed : document.ownEntry? settings = some own) :
    entries settings value =
      own :: (document.places settings.layout).flatMap (Place.entries settings own.summary) := by
  rw [entries]
  split
  · next found => cases read.symm.trans found
  · next found =>
    cases read.symm.trans found
    simp only [listed]
    congr 1
    rw [List.flatMap_subtype (g := Place.entries settings own.summary), List.unattach_attach]
    intro place _
    cases place <;> rfl

end ContractTree
