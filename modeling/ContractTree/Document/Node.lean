import ContractTree.Document.Tag

namespace ContractTree

/-!
# Document nodes

A node of a document is an object with a tag.  Its fields stand on the object
itself, inline, or in the object under its key `attributes`, and documents of
different ages use the one or the other.

The identifier, the source range and the children are structural: they are looked
up inline first and among the attributes second, always.  All other fields are
scalar, and a layout says where these are looked up.  A scalar is never read
inline from the key that holds the tag, since what stands there is the tag.
-/

/-- Where scalar fields are looked up. -/
inductive FieldLayout where
  /-- In both places.  A node tagged under `name` is of the older form, so its
  attributes are asked first; any other node is asked inline first. -/
  | auto
  | inline
  | nested
  deriving DecidableEq, Repr, Inhabited

/-- The members under `attributes`, if an object stands there. -/
def Members.attributes (members : Members) : Members :=
  ((members.find? "attributes").bind Json.asObject?).getD []

/-- What is found among the attributes stands in an object under their key. -/
theorem Members.find?_attributes_eq_some_iff {members : Members} {key : String} {value : Json} :
    members.attributes.find? key = some value ↔
      ∃ inner : Members, members.find? "attributes" = some (.obj inner) ∧
        inner.find? key = some value := by
  unfold attributes
  cases members.find? "attributes" with
  | none => simp [find?]
  | some group => cases group <;> simp [Json.asObject?, find?]

/-- A node of a document with its resolved tag. -/
structure DocumentNode where
  members : Members
  kind : NodeKind
  tagKey : TagKey

namespace DocumentNode

/-- The node that a value is. -/
def ofJson? : Json → Except ImportError DocumentNode
  | .obj members =>
    match TagKey.resolve members with
    | .ok (kind, tagKey) => .ok ⟨members, kind, tagKey⟩
    | .error cause => .error cause
  | _ => .error (.schemaViolation .unknown .notAnObject)

theorem ofJson?_eq_ok {value : Json} {node : DocumentNode} (read : ofJson? value = .ok node) :
    value = .obj node.members := by
  unfold ofJson? at read
  split at read
  · split at read
    · cases read
      rfl
    · cases read
  · cases read

/-- The value that a node was read from. -/
def toJson (node : DocumentNode) : Json := .obj node.members

/-- How deep a node nests, everything in it included. -/
def height (node : DocumentNode) : Nat := node.toJson.height

/-- The members among the attributes of a node. -/
def attributes (node : DocumentNode) : Members := node.members.attributes

/-- A field that stands on the object itself, whatever it is read for. -/
def own? (node : DocumentNode) (key : String) : Option Json := node.members.find? key

/-- A field that stands among the attributes. -/
def nested? (node : DocumentNode) (key : String) : Option Json := node.attributes.find? key

/-- A scalar field that stands on the object itself. -/
def inline? (node : DocumentNode) (key : String) : Option Json :=
  if key = node.tagKey.text then none else node.own? key

/-- A structural field. -/
def structural? (node : DocumentNode) (key : String) : Option Json :=
  (node.own? key).or (node.nested? key)

/-- A scalar field. -/
def scalar? (node : DocumentNode) (layout : FieldLayout) (key : String) : Option Json :=
  match layout with
  | .inline => node.inline? key
  | .nested => node.nested? key
  | .auto =>
    if node.tagKey = .name then (node.nested? key).or (node.inline? key)
    else (node.inline? key).or (node.nested? key)

theorem height_attributes_lt {node : DocumentNode} {key : String} {value : Json}
    (found : node.nested? key = some value) : value.height < node.height := by
  rcases Members.find?_attributes_eq_some_iff.1 found with ⟨inner, grouping, found⟩
  exact Nat.lt_trans (Members.height_lt_of_find? found) (Members.height_lt_of_find? grouping)

/-- What a node holds nests less deeply than the node. -/
theorem height_structural_lt {node : DocumentNode} {key : String} {value : Json}
    (found : node.structural? key = some value) : value.height < node.height := by
  unfold structural? at found
  rcases Option.or_eq_some_iff.1 found with own | ⟨_, nested⟩
  · exact Members.height_lt_of_find? own
  · exact height_attributes_lt nested

/-- The identifier, if an integer of 64 bits stands there. -/
def id? (node : DocumentNode) : Option NodeId :=
  ((node.structural? "id").bind Json.asInt?).bind NodeId.ofInt?

/-- What errors say about a node. -/
def context (node : DocumentNode) : NodeContext := ⟨some node.kind, node.id?⟩

end DocumentNode
end ContractTree
