import ContractTree.Proofs.Conversion.Attempts
import ContractTree.Proofs.Import.Unit
import ContractTree.Tree.Equality

namespace ContractTree

/-!
# Identifiers and locations below the root

A node of a document identifies the node that it is converted to if it gives it its
identifier and its location.  Every form asks for both and admits no default, except
that of a source unit, which asks for them as if it were the root.  A source unit may
stand wherever any node may, and so it may do without them there as well.
-/

/-- A document node says which identifier and which location its node has. -/
structure DocumentNode.Identifies (document : DocumentNode) (settings : Settings)
    (node : Node) : Prop where
  id_eq : document.id? = some node.id
  marker_eq : ∃ marker, document.structural? "src" = some (.str marker) ∧
    SourceLocation.ofMarker? settings.source marker = some node.location

namespace DocumentNode

variable {document : DocumentNode} {settings : Settings}

theorem id?_eq_nodeId? (present : document.kind = .sourceUnit → document.id?.isSome) :
    document.id? = document.nodeId? := by
  unfold nodeId?
  split
  · next root =>
    rcases Option.isSome_iff_exists.1 (present root) with ⟨id, written⟩
    rw [written]
    rfl
  · rfl

/-- A location that is not that of the whole source is named by a marker. -/
theorem marker_of_location? {location : SourceLocation}
    (located : document.location? settings = some location)
    (present : document.kind = .sourceUnit → (document.structural? "src").isSome) :
    ∃ marker, document.structural? "src" = some (.str marker) ∧
      SourceLocation.ofMarker? settings.source marker = some location := by
  unfold location? at located
  split at located
  · next marker found => exact ⟨marker, found, located⟩
  · cases located
  · next missing =>
    split at located
    · next root =>
      have found := present root
      rw [missing] at found
      cases found
    · cases located

end DocumentNode

/-- A document node identifies its node, unless it is a source unit without an
identifier or a marker. -/
theorem Account.identifies_iff {settings : Settings} {depth : Nat} {value : Json}
    {document : DocumentNode} {node : Node}
    (account : Account settings depth value document node) :
    document.Identifies settings node ↔ (document.kind = .sourceUnit →
      document.id?.isSome ∧ (document.structural? "src").isSome) := by
  constructor
  · rintro ⟨id_eq, marker, found, _⟩ _
    rw [id_eq, found]
    exact ⟨rfl, rfl⟩
  · intro present
    have written : document.id? = some node.id :=
      (DocumentNode.id?_eq_nodeId? fun root => (present root).1).trans account.id_eq
    exact ⟨written, DocumentNode.marker_of_location? account.location_eq
      fun root => (present root).2⟩

/-- What an import with a result has converted below the root, it has converted to a
node that the tree keeps, and the document node identifies this node, unless it is a
source unit without an identifier or a marker. -/
theorem identifies_of_importUnit {settings : Settings} {document : Json} {unit : Node}
    (imported : importUnit settings document = .ok unit) :
    ∀ level value, .attempt (level + 1) value ∈ importEvents settings document →
      ∃ inner node, DocumentNode.ofJson? value = .ok inner ∧
        (journal settings (level + 1) value).result = .ok node ∧
        unit.Keeps (level + 1) node ∧
        (inner.Identifies settings node ↔ (inner.kind = .sourceUnit →
          inner.id?.isSome ∧ (inner.structural? "src").isSome)) := by
  intro level value happened
  rw [importEvents_of_ok imported] at happened
  have finished := (journal_of_importUnit imported).1
  rcases journal_attempted finished happened with ⟨below, node, depth, converted, keeps⟩
  rcases journal_account converted with ⟨inner, account⟩
  have same : below = level + 1 := by omega
  subst same
  exact ⟨inner, node, account.read, converted, keeps, account.identifies_iff⟩

/-- What stands in a place of the root is attempted one level below it. -/
theorem attempt_mem_importEvents {settings : Settings} {document inner : Json} {unit : Node}
    {root : DocumentNode} (imported : importUnit settings document = .ok unit)
    (read : DocumentNode.ofJson? document = .ok root)
    (stands : .node inner ∈ root.places settings.layout) :
    .attempt 1 inner ∈ importEvents settings document := by
  rw [importEvents_of_ok imported]
  rcases journal_account (journal_of_importUnit imported).1 with ⟨other, account⟩
  cases read.symm.trans account.read
  rcases account.converts _ stands inner rfl with ⟨child, converted⟩
  rcases journal_account converted with ⟨_, inside⟩
  exact account.event_of_place stands rfl inside.attempted

/-! ## Units in units -/

def plainContract : Json :=
  .obj [("nodeType", .str "ContractDefinition"), ("id", .int 7), ("src", .str "2:9"),
    ("name", .str "C"), ("contractKind", .str "contract")]

def unmarkedUnit : Json :=
  .obj [("nodeType", .str "SourceUnit"), ("nodes", .arr [plainContract])]

def unitSettings : Settings := { source := "a.sol" }

def unmarkedUnitTree : Node :=
  ⟨0, ⟨"a.sol", ⟨0, 0⟩⟩, .declaration (.sourceUnit none [⟨7, ⟨"a.sol", ⟨2, 9⟩⟩,
    .declaration (.contractDefinition ⟨"C", none, [], [], .contract⟩)⟩])⟩

/-- A root without an identifier does not keep a contract from being identified. -/
theorem identifies_plainContract :
    ∃ inner node, DocumentNode.ofJson? plainContract = .ok inner ∧
      unmarkedUnitTree.Keeps 1 node ∧ inner.Identifies unitSettings node := by
  have imported : importUnit unitSettings unmarkedUnit = .ok unmarkedUnitTree := by
    decide +kernel
  have happened : .attempt 1 plainContract ∈ importEvents unitSettings unmarkedUnit :=
    attempt_mem_importEvents imported rfl (List.mem_singleton_self _)
  rcases identifies_of_importUnit imported 0 plainContract happened with
    ⟨inner, node, read, _, keeps, identifies⟩
  refine ⟨inner, node, read, keeps, identifies.2 fun isUnit => ?_⟩
  cases read
  cases isUnit

def unmarkedInside : Json := .obj [("nodeType", .str "SourceUnit"), ("src", .str "0:1")]

def unitInUnit : Json :=
  .obj [("nodeType", .str "SourceUnit"), ("id", .int 1), ("src", .str "0:1"),
    ("nodes", .arr [unmarkedInside])]

def unitInUnitTree : Node :=
  ⟨1, ⟨"a.sol", ⟨0, 1⟩⟩, .declaration (.sourceUnit none [⟨0, ⟨"a.sol", ⟨0, 1⟩⟩,
    .declaration (.sourceUnit none [])⟩])⟩

/-- A source unit below the root is imported without an identifier. -/
theorem importUnit_unitInUnit :
    importUnit unitSettings unitInUnit = .ok unitInUnitTree ∧
      .attempt 1 unmarkedInside ∈ importEvents unitSettings unitInUnit ∧
      (DocumentNode.ofJson? unmarkedInside).toOption.map DocumentNode.id? = some none := by
  have imported : importUnit unitSettings unitInUnit = .ok unitInUnitTree := by
    decide +kernel
  have happened : .attempt 1 unmarkedInside ∈ importEvents unitSettings unitInUnit :=
    attempt_mem_importEvents imported rfl (List.mem_singleton_self _)
  exact ⟨imported, happened, rfl⟩

end ContractTree
