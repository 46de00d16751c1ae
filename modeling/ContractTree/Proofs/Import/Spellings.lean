import ContractTree.Proofs.Conversion.Respelled
import ContractTree.Proofs.Conversion.Spelled
import ContractTree.Proofs.Import.Composed
import ContractTree.Tree.Equality

namespace ContractTree

/-!
# Documents in another spelling

Where fields are looked up in both places, where identifiers are not checked and the depth
is not bounded, it does not matter in which of its spellings a node is written.  A node
that is rewritten converts to the same node, and so does everything around it.
-/

section Respelled

variable {settings : Settings} (unbounded : settings.maxDepth = none)
  (auto : settings.layout = .auto)

include unbounded

/-- A node converts to all that it was converted to if the nodes below it do. -/
theorem journal_carries_of_below {depth : Nat} {members others : Members}
    (respelled : members.Respelled others)
    (children : ∀ child image : Json, child.height < (Json.obj members).height →
      child.MaybeRespelled image →
        (journal settings (depth + 1) child).Carries (journal settings (depth + 1) image)) :
    (journal settings depth (.obj members)).Carries (journal settings depth (.obj others)) := by
  cases read : DocumentNode.ofJson? (.obj members) with
  | error cause =>
    intro node converted
    rw [journal_of_error read] at converted
    cases converted
  | ok document =>
    rcases DocumentNode.respelled_of_members read respelled with ⟨reread, alike⟩
    rw [DocumentNode.ofJson?_eq_ok read] at children
    refine journal_carries unbounded read reread ?_
    exact .of_asks (fun field fits => (alike settings.layout).carries_answer children fits)
      (Form.asks_form document.kind)

include auto

/-- A node that is rewritten converts to all that it was converted to. -/
theorem journal_carries_of_spelling {depth : Nat} {before after : Members} {kind : NodeKind}
    {changes : List FieldChange} (tagged : TagKey.nodeType.kind? before = some kind)
    (spelling : Spelling kind changes) (rewritten : before.Rewritten changes after) :
    (journal settings depth (.obj before)).Carries (journal settings depth (.obj after)) := by
  have untagged := spelling.disjoint_unspelledKeys "nodeType" (by decide)
  have retagged := (rewritten.kind?_eq untagged).trans tagged
  exact journal_carries unbounded (DocumentNode.ofJson?_of_kind? tagged)
    (DocumentNode.ofJson?_of_kind? retagged) (spelling.carries auto unbounded rewritten)

/-- A value with a node rewritten in it converts to all that the value converts to.  The
induction is on how deep the value nests. -/
theorem journal_respelled (depth : Nat) {value other : Json}
    (respelled : value.MaybeRespelled other) :
    (journal settings depth value).Carries (journal settings depth other) := by
  induction height : value.height using Nat.strongRecOn generalizing depth value other with
  | ind bound ih =>
    cases respelled with
    | refl => exact .refl _
    | single step =>
      cases value with
      | obj members =>
        rcases step.cases_obj with ⟨others, rfl, below | ⟨_, _, tagged, spelling, rewritten⟩⟩
        · refine journal_carries_of_below unbounded below ?_
          exact fun child image smaller below => ih _ (height ▸ smaller) _ below rfl
        · exact journal_carries_of_spelling unbounded auto tagged spelling rewritten
      | _ =>
        intro node converted
        rw [journal_of_error rfl] at converted
        cases converted

/-- However many nodes of a document are rewritten, each from one of its spellings to
another, if the document is imported then the rewritten document is imported as the same
tree. -/
theorem importUnit_respelled (lenient : settings.rejectDuplicateIds = false)
    {document other : Json} {unit : Node} (imported : importUnit settings document = .ok unit)
    (respelled : Relation.ReflTransGen Json.Respelled document other) :
    importUnit settings other = .ok unit := by
  induction respelled with
  | refl => exact imported
  | tail _ step ih =>
    rcases journal_of_importUnit ih with ⟨converted, isUnit⟩
    have again := journal_respelled unbounded auto 0 (.single step) unit converted
    rw [← convertAlone_eq lenient] at again
    exact importUnit_of_ok lenient again isUnit

end Respelled

/-! ## A unit of an older exporter -/

def wordedLiteral (key : String) : Json :=
  .obj [("nodeType", .str "Literal"), ("id", .int 4), ("src", .str "30:32"),
    (key, .str "number"), ("value", .str "42")]

def wordedVariable (constancy : String × Json) (value : Json) : Json :=
  .obj [("nodeType", .str "VariableDeclaration"), ("id", .int 3), ("src", .str "10:33"),
    ("name", .str "answer"), constancy, ("value", value)]

def wordedUnit (key : String) (constant : Json) : Json :=
  .obj [("nodeType", .str "SourceUnit"), ("id", .int 1), ("src", .str "0:40"),
    (key, .arr [.obj [("nodeType", .str "EnumValue"), ("id", .int 2), ("src", .str "0:9"),
      ("name", .str "A")], constant])]

def newerUnit : Json :=
  wordedUnit "nodes" (wordedVariable ("constant", .bool true) (wordedLiteral "kind"))

def olderUnit : Json :=
  wordedUnit "children" (wordedVariable ("mutability", .str "constant") (wordedLiteral "token"))

def wordedSettings : Settings := { source := "a.sol" }

def wordedUnitTree : Node :=
  ⟨1, ⟨"a.sol", ⟨0, 40⟩⟩, .declaration (.sourceUnit none [
    ⟨2, ⟨"a.sol", ⟨0, 9⟩⟩, .declaration (.enumValue "A")⟩,
    ⟨3, ⟨"a.sol", ⟨10, 33⟩⟩, .declaration (.variableDeclaration {
      typeName := none
      name := "answer"
      value := some ⟨4, ⟨"a.sol", ⟨30, 32⟩⟩,
        .expression (.literal ⟨.number, some "42", none, none⟩)⟩
      visibility := .unspecified
      isStateVariable := false
      isIndexed := false
      isConstant := true
      storageLocation := .unspecified })⟩])⟩

/-- The literal is rewritten first, then the variable around it, and then the unit. -/
theorem newerUnit_respelled :
    Relation.ReflTransGen Json.Respelled newerUnit olderUnit := by
  have literal : Json.Respelled (wordedLiteral "kind") (wordedLiteral "token") :=
    Json.respelled_of_exchange
      [("nodeType", .str "Literal"), ("id", .int 4), ("src", .str "30:32")] [("value", .str "42")]
      (.literalKind (.str "number")) (by decide) rfl rfl ⟨rfl, rfl⟩
  have constant : Json.Respelled
      (wordedVariable ("constant", .bool true) (wordedLiteral "token"))
      (wordedVariable ("mutability", .str "constant") (wordedLiteral "token")) :=
    Json.respelled_of_exchange
      [("nodeType", .str "VariableDeclaration"), ("id", .int 3), ("src", .str "10:33"),
        ("name", .str "answer")] [("value", wordedLiteral "token")]
      (.constant "constant") (by decide) rfl rfl ⟨rfl, rfl⟩
  have unit : Json.Respelled
      (wordedUnit "nodes" (wordedVariable ("mutability", .str "constant") (wordedLiteral "token")))
      olderUnit :=
    Json.respelled_of_exchange
      [("nodeType", .str "SourceUnit"), ("id", .int 1), ("src", .str "0:40")] []
      (.unitMembers _) (by decide) rfl rfl ⟨rfl, rfl⟩
  have inVariable : Json.Respelled
      (wordedVariable ("constant", .bool true) (wordedLiteral "kind"))
      (wordedVariable ("constant", .bool true) (wordedLiteral "token")) :=
    .member [("nodeType", .str "VariableDeclaration"), ("id", .int 3), ("src", .str "10:33"),
      ("name", .str "answer"), ("constant", .bool true)] [] (by decide) literal
  have inUnit : ∀ {before after : Json}, before.Respelled after →
      (wordedUnit "nodes" before).Respelled (wordedUnit "nodes" after) :=
    fun inner => .member [("nodeType", .str "SourceUnit"), ("id", .int 1), ("src", .str "0:40")] []
      (by decide) (.item [.obj [("nodeType", .str "EnumValue"), ("id", .int 2),
        ("src", .str "0:9"), ("name", .str "A")]] [] inner)
  exact .tail (.tail (.tail .refl (inUnit inVariable)) (inUnit constant)) unit

/-- A unit is imported as the same tree when its members, a constant and the value of the
constant are all rewritten. -/
theorem importUnit_respelled_newerUnit :
    importUnit wordedSettings newerUnit = .ok wordedUnitTree ∧
      importUnit wordedSettings olderUnit = .ok wordedUnitTree := by
  have imported : importUnit wordedSettings newerUnit = .ok wordedUnitTree := by
    decide +kernel
  exact ⟨imported, importUnit_respelled rfl rfl rfl imported newerUnit_respelled⟩

end ContractTree
