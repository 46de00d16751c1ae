import ContractTree.Document.Node
import ContractTree.Tree.Statement

namespace ContractTree

/-!
# Reading fields

A field that is missing may be allowed to be, and then it has a default; a field
that is there must be of its type, and none is ever taken for missing because its
type is wrong.  The readers below report a defect without its node, since they all
report on the node they read.
-/

/-- The result of reading a field. -/
abbrev Checked := Except Defect

namespace DocumentNode

variable (node : DocumentNode) (layout : FieldLayout)

/-- The identifier of a node. -/
def readId : Checked NodeId :=
  match node.structural? "id" with
  | none => .error (.missing "id")
  | some value =>
    match value.asInt?.bind NodeId.ofInt? with
    | some id => .ok id
    | none => .error (.wrongType "id" .integer)

/-- The range marker of a node. -/
def readMarker? : Checked (Option String) :=
  match node.structural? "src" with
  | none => .ok none
  | some (.str marker) => .ok (some marker)
  | some _ => .error (.wrongType "src" .string)

end DocumentNode

/-- The place in a source that a marker names. -/
def readPlace (source : SourceName) (marker : String) : Checked SourceLocation :=
  match SourceLocation.ofMarker? source marker with
  | some location => .ok location
  | none => .error (.schema (.invalidSourceRange marker))

namespace DocumentNode

variable (node : DocumentNode) (layout : FieldLayout)

/-- The location of a node, unless it has no range marker. -/
def readLocation? (source : SourceName) : Checked (Option SourceLocation) := do
  match ← node.readMarker? with
  | none => return none
  | some marker => return some (← readPlace source marker)

/-- The location of a node that must have one. -/
def readLocation (source : SourceName) : Checked SourceLocation := do
  match ← node.readLocation? source with
  | some location => return location
  | none => throw (.missing "src")

def readText? (key : String) : Checked (Option String) :=
  match node.scalar? layout key with
  | none => .ok none
  | some (.str text) => .ok (some text)
  | some _ => .error (.wrongType key .string)

def readText (key : String) : Checked String := do
  match ← node.readText? layout key with
  | some text => return text
  | none => throw (.missing key)

def readFlag? (key : String) : Checked (Option Bool) :=
  match node.scalar? layout key with
  | none => .ok none
  | some (.bool flag) => .ok (some flag)
  | some _ => .error (.wrongType key .boolean)

def readFlag (key : String) : Checked Bool := do
  match ← node.readFlag? layout key with
  | some flag => return flag
  | none => throw (.missing key)

/-- The documentation of a declaration, as a text or as an object that holds it. -/
def readDocumentation? : Checked (Option String) :=
  match node.scalar? layout "documentation" with
  | none => .ok none
  | some (.str text) => .ok (some text)
  | some (.obj members) =>
    match Members.find? members "text" with
    | some (.str text) => .ok (some text)
    | _ => .error (.wrongType "documentation" .documentation)
  | some _ => .error (.wrongType "documentation" .documentation)

/-- The type in a type description.  A description without one counts as none. -/
def readTypeString? : Option String :=
  match node.scalar? layout "typeDescriptions" with
  | some (.obj members) => (Members.find? members "typeString").bind Json.asString?
  | _ => none

/-- The type that stands as a text under `typeName`. -/
def readTypeText : Checked String :=
  match node.scalar? layout "typeName" with
  | some (.str text) => .ok text
  | some _ => .error (.wrongType "typeName" .typeText)
  | none => .error (.missing "typeName")

/-- The items of a list; a missing list has none. -/
def readItems (key : String) : Checked (List Json) :=
  match node.structural? key with
  | none => .ok []
  | some (.arr items) => .ok items
  | some _ => .error (.wrongType key .array)

theorem height_item_lt {node : DocumentNode} {key : String} {items : List Json} {item : Json}
    (read : node.readItems key = .ok items) (member : item ∈ items) :
    item.height < node.height := by
  unfold readItems at read
  split at read
  · cases read
    cases member
  · next found =>
    cases read
    exact Nat.lt_trans (Json.height_lt_of_mem_arr member) (height_structural_lt found)
  · cases read

/-- A list of strings. -/
def readTexts (key : String) : Checked (List String) := do
  match (← node.readItems key).mapM Json.asString? with
  | some texts => return texts
  | none => throw (.wrongType key .stringList)

end DocumentNode

/-! ## References of inline assembly -/

namespace ExternalReference

/-- The defect of a reference with a field of the wrong type. -/
def malformed : Defect := .wrongType "externalReferences" .referenceFields

def readDeclaration? (info : Members) : Checked (Option NodeId) :=
  match info.find? "declaration" with
  | none => .ok none
  | some value =>
    match value.asInt?.bind NodeId.ofInt? with
    | some id => .ok (some id)
    | none => .error malformed

/-- The number of slots, one unless it says otherwise. -/
def readValueSize (info : Members) : Checked UInt32 :=
  match info.find? "valueSize" with
  | none => .ok 1
  | some (.int size) =>
    if 0 ≤ size ∧ size < UInt32.size then .ok (UInt32.ofNat size.toNat) else .error malformed
  | some _ => .error malformed

def readLocation? (source : SourceName) (info : Members) : Checked (Option SourceLocation) :=
  match info.find? "src" with
  | none => .ok none
  | some (.str marker) => (readPlace source marker).map some
  | some _ => .error malformed

/-- A flag, false unless it says otherwise. -/
def readFlag (info : Members) (key : String) : Checked Bool :=
  match info.find? key with
  | none => .ok false
  | some (.bool flag) => .ok flag
  | some _ => .error malformed

/-- A reference is an object with one member, named for what it refers to. -/
def read (source : SourceName) : Json → Checked ExternalReference
  | .obj [(name, .obj info)] => do
    let declaration ← readDeclaration? info
    let valueSize ← readValueSize info
    let location ← readLocation? source info
    let isOffset ← readFlag info "isOffset"
    let isSlot ← readFlag info "isSlot"
    return ⟨name, declaration, isOffset, isSlot, valueSize, location⟩
  | _ => throw (.wrongType "externalReferences" .referenceList)

end ExternalReference

/-- The references of an assembly block. -/
def DocumentNode.readReferences (node : DocumentNode) (source : SourceName) :
    Checked (List ExternalReference) := do
  (← node.readItems "externalReferences").mapM (ExternalReference.read source)

end ContractTree
