import ContractTree.Proofs.Document.Places
import ContractTree.Proofs.Form.Expected

namespace ContractTree

/-!
# The lists of a node

Some nodes hold lists of nodes.  In two of these lists an entry may be a gap, and in all
others every entry is a node.  Each list of a node is the answer to one question of its form,
which is asked with gaps just where there may be some, so no list is put together from
anything but what the document has under the key of the list.
-/

/-- The lists in which an entry may be a gap. -/
def NodeKind.hasGaps : NodeKind → String → Bool
  | tupleExpression, key => key = "components"
  | variableDeclarationStatement, key => key = "declarations"
  | _, _ => false

section Lists

variable {α : Type}

/-- The lists of a declaration by their keys. -/
def Declaration.lists : Declaration α → List (String × List (Option α))
  | sourceUnit _ nodes => [("nodes", nodes.map some)]
  | contractDefinition contract =>
    [("baseContracts", contract.baseContracts.map some), ("nodes", contract.members.map some)]
  | inheritanceSpecifier _ arguments => [("arguments", arguments.map some)]
  | structDefinition _ members => [("members", members.map some)]
  | enumDefinition _ members => [("members", members.map some)]
  | parameterList parameters => [("parameters", parameters.map some)]
  | functionDefinition function => [("modifiers", function.modifiers.map some)]
  | modifierInvocation _ arguments => [("arguments", arguments.map some)]
  | _ => []

def Statement.lists : Statement α → List (String × List (Option α))
  | block statements => [("statements", statements.map some)]
  | declareVariables declarations _ => [("declarations", declarations)]
  | _ => []

def Expression.lists : Expression α → List (String × List (Option α))
  | tuple components _ => [("components", components)]
  | functionCall _ arguments _ => [("arguments", arguments.map some)]
  | _ => []

/-- The lists of a node by their keys.  The entries of a list without gaps are nodes. -/
def Shape.lists : Shape α → List (String × List (Option α))
  | declaration shape => shape.lists
  | typeName _ => []
  | statement shape => shape.lists
  | expression shape => shape.lists

end Lists

/-- The key in the document of a list of a node.  The members of a source unit have two. -/
def DocumentNode.listKey (document : DocumentNode) (key : String) : String :=
  if document.kind = .sourceUnit then document.membersKey else key

/-- The key of the list that a question is about. -/
def Field.listKey? : Field → Option String
  | children key _ | gappedChildren key _ => some key
  | _ => none

/-- Where gaps are possible, they are asked for. -/
def Field.AsksGaps (kind : NodeKind) : Field → Prop
  | children key _ => kind.hasGaps key = false
  | gappedChildren key _ => kind.hasGaps key = true
  | _ => True

/-- An answer with a list is listed under the key and the category of its question. -/
def Field.ListsAs (document : DocumentNode)
    (listed : String → Category → Bool → List (Option Node) → Prop) :
    (field : Field) → field.Answer → Prop
  | children key category, nodes => listed key category false (nodes.map some)
  | gappedChildren key category, entries => listed key category true entries
  | holds key, answer => (document.structural? key).isSome = answer
  | _, _ => True

namespace Form

open Opened OpenedWords

/-- The form of a kind asks for gaps where there may be some, and nowhere else. -/
theorem asks_gaps (kind : NodeKind) : kind.form.Asks (Field.AsksGaps kind) fun _ => True := by
  cases kind <;> simp [Field.AsksGaps, NodeKind.hasGaps, Option.forall]

section Ensures

variable {α β : Type} {possible : (field : Field) → field.Answer → Prop}

@[simp] theorem ensures_map {form : Form α} {change : α → β}
    {property : β → List Answered → Prop} :
    (change <$> form).Ensures possible property ↔
      form.Ensures possible fun result reads => property (change result) reads := by
  rw [map_eq_pure_bind, ensures_bind]
  simp only [ensures_pure, List.append_nil]

/-- What holds of all results is ensured. -/
theorem ensures_of_forall {form : Form α} {property : α → List Answered → Prop}
    (holds : ∀ result reads, property result reads) : form.Ensures possible property := by
  induction form generalizing property with
  | done result => exact holds result []
  | fail defect => trivial
  | read field next ih => exact fun answer _ => ih answer fun result reads => holds _ _

end Ensures

/-! ## The lists of a node are answers -/

section Answers

variable {document : DocumentNode} {listed : String → Category → Bool → List (Option Node) → Prop}

/-- The members of a source unit stand under the key that is asked about. -/
theorem lists_sourceUnit (kind : document.kind = .sourceUnit) :
    sourceUnit.Ensures (Field.ListsAs document listed) fun node _ =>
      ∀ list ∈ node.shape.lists, listed (document.listKey list.1)
        (NodeKind.sourceUnit.expected list.1) (NodeKind.sourceUnit.hasGaps list.1) list.2 := by
  intro location _ id _ hasNodes holds
  have key : (if hasNodes then "nodes" else "children") = document.membersKey := by
    have same : (document.structural? "nodes").isSome = hasNodes := holds
    rw [DocumentNode.membersKey, same]
  simp only [done_bind, key]
  intro nodes members absolutePath _ list listed
  cases List.mem_singleton.1 listed
  rw [DocumentNode.listKey, if_pos kind]
  exact members

/-- The lists of a node are the answers to the questions about them. -/
theorem lists_form {kind : NodeKind} (same : document.kind = kind) :
    kind.form.Ensures (Field.ListsAs document listed) fun node _ =>
      ∀ list ∈ node.shape.lists, listed (document.listKey list.1) (kind.expected list.1)
        (kind.hasGaps list.1) list.2 := by
  cases kind
  case sourceUnit => exact lists_sourceUnit same
  all_goals
    have key : ∀ key, document.listKey key = key := fun key => if_neg (by rw [same]; decide)
    simp [Field.ListsAs, NodeKind.expected, NodeKind.categories, List.lookup_cons,
      List.lookup_nil, Option.forall, NodeKind.hasGaps, key, Shape.lists, Declaration.lists,
      Statement.lists, Expression.lists, declare, execute, express, nameType,
      Node.bareIdentifier, ensures_trivial]
  case contractDefinition =>
    rintro _ _ _ bases listedBases members listedMembers _ _ (⟨rfl, rfl⟩ | ⟨rfl, rfl⟩)
    · simpa using listedBases
    · simpa using listedMembers
  case functionDefinition =>
    intro _ _ modifiers listedModifiers
    simp [listedModifiers]
  case functionCall =>
    intro _ arguments listedArguments names
    exact ensures_of_forall fun _ _ => listedArguments

end Answers
end Form
end ContractTree
