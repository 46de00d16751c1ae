import ContractTree.Proofs.Conversion.Account
import ContractTree.Proofs.Import.Unit
import ContractTree.Tree.Equality

namespace ContractTree

/-!
# Imported trees are grammatical

Whatever document is imported under whatever settings, the rules of the grammar hold
at every node of the tree.  They hold at a node because of the form it was made by;
an identifier that was made for a bare name has a location that is its owner's and
holds nothing else.
-/

theorem Node.Everywhere.bareIdentifier {source : SourceName} {location : SourceLocation}
    (within : location.Within source) (id : NodeId) (name : String) :
    (Node.bareIdentifier id location name).Everywhere (Node.Grammatical source) := by
  refine .intro ⟨within, trivial, ?_⟩ ?_
  · intro part member
    exact (List.not_mem_nil member).elim
  · intro child member
    exact (List.not_mem_nil member).elim

/-- The nodes that conversions end with are grammatical all the way down. -/
theorem journal_grammatical {settings : Settings} {depth : Nat} {value : Json} {node : Node}
    (finished : (journal settings depth value).result = .ok node) :
    node.Everywhere (Node.Grammatical settings.source) := by
  rcases journal_account finished with ⟨document, account⟩
  refine .intro account.grammatical fun child member => ?_
  rcases account.child_cases member with ⟨inner, listed, converted⟩ | ⟨name, _, rfl⟩
  · have smaller := DocumentNode.height_lt_of_mem_places listed rfl
    exact journal_grammatical converted
  · exact .bareIdentifier account.grammatical.location node.id name
termination_by value.height
decreasing_by
  rw [DocumentNode.ofJson?_eq_ok account.read]
  exact smaller

/-- Every tree that an import returns keeps to the grammar at all of its nodes: its
locations are ordered, its tokens are those that its places admit, its types and
paths are legal, its calls and literals are complete, and every child is of the
category of its place. -/
theorem grammatical_of_importUnit {settings : Settings} {document : Json} {unit : Node}
    (imported : importUnit settings document = .ok unit) :
    unit.Everywhere (Node.Grammatical settings.source) :=
  journal_grammatical (journal_of_importUnit imported).1

/-! ## A unit with tokens -/

def tokenUnit : Json :=
  .obj [("nodeType", .str "SourceUnit"), ("id", .int 1), ("src", .str "0:40"), ("nodes", .arr [
    .obj [("nodeType", .str "PragmaDirective"), ("id", .int 2), ("src", .str "0:20"),
      ("literals", .arr [.str "solidity", .str "^", .str "0.5"])],
    .obj [("nodeType", .str "UnaryOperation"), ("id", .int 3), ("src", .str "20:40"),
      ("operator", .str "!"), ("prefix", .bool true),
      ("subExpression", .obj [("nodeType", .str "Literal"), ("id", .int 4), ("src", .str "21:40"),
        ("kind", .str "bool"), ("value", .str "true")])]])]

def tokenUnitTree : Node :=
  ⟨1, ⟨"a.sol", ⟨0, 40⟩⟩, .declaration (.sourceUnit none [
    ⟨2, ⟨"a.sol", ⟨0, 20⟩⟩, .declaration (.pragmaDirective
      [.identifier, .symbol .bitXor, .number] ["solidity", "^", "0.5"])⟩,
    ⟨3, ⟨"a.sol", ⟨20, 40⟩⟩, .expression (.unary (.symbol .not)
      ⟨4, ⟨"a.sol", ⟨21, 40⟩⟩, .expression (.literal ⟨.boolean true, some "true", none, none⟩)⟩
      true)⟩])⟩

theorem grammatical_tokenUnit :
    importUnit { source := "a.sol" } tokenUnit = .ok tokenUnitTree ∧
      tokenUnitTree.Everywhere (Node.Grammatical "a.sol") := by
  have imported : importUnit { source := "a.sol" } tokenUnit = .ok tokenUnitTree := by
    decide +kernel
  exact ⟨imported, grammatical_of_importUnit imported⟩

end ContractTree
