import ContractTree.Proofs.Conversion.Account
import ContractTree.Proofs.Tree.Levels

namespace ContractTree

/-!
# Attempts and the nodes of the tree

A conversion that ends with a tree has attempted nothing in vain.  Every node of the
tree was converted from a value that was attempted at the level of the node, or stands
for a bare name.  And every value that was attempted was converted to a node of the
tree, or to an elementary type name of which an expression of the tree keeps the type.
-/

/-- The node at a depth stands for a bare name in a place of a document node that was
attempted one level above.  It has the identifier and the location of the node there. -/
def StandsForName (settings : Settings) (events : List Event) (depth : Nat) (node : Node) :
    Prop :=
  ∃ above value document owner name, depth = above + 1 ∧ .attempt above value ∈ events ∧
    DocumentNode.ofJson? value = .ok document ∧
    .bareName name ∈ document.places settings.layout ∧
    (journal settings above value).result = .ok owner ∧
    node = Node.bareIdentifier owner.id owner.location name

/-- A tree has a node at a level, or an expression one level above has the type that the
node names. -/
def Node.Keeps (root : Node) (level : Nat) (node : Node) : Prop :=
  root.Below level node ∨ ∃ above owner type, level = above + 1 ∧ root.Below above owner ∧
    owner.shape = .expression (.elementaryTypeName type) ∧ node.elementaryType? = some type

theorem Node.Keeps.under {root child node : Node} {level : Nat} (keeps : child.Keeps level node)
    (member : child ∈ root.children) : root.Keeps (level + 1) node := by
  rcases keeps with below | ⟨above, owner, type, rfl, below, shape, named⟩
  · exact .inl (below.under member)
  · exact .inr ⟨above + 1, owner, type, rfl, below.under member, shape, named⟩

/-! ## From nodes to attempts -/

/-- Nothing stands below the identifier that is made for a bare name. -/
theorem Node.Below.of_bareIdentifier {id : NodeId} {location : SourceLocation} {name : String}
    {level : Nat} {node : Node} (below : (Node.bareIdentifier id location name).Below level node) :
    level = 0 ∧ node = Node.bareIdentifier id location name := by
  rcases below.cases_children with here | ⟨child, member, _⟩
  · exact here
  · exact (List.not_mem_nil member).elim

/-- A node of a tree was converted at its depth, or it stands for a bare name. -/
theorem journal_source {settings : Settings} {depth level : Nat} {value : Json} {root node : Node}
    (finished : (journal settings depth value).result = .ok root) (below : root.Below level node) :
    (∃ inner, .attempt (depth + level) inner ∈ (journal settings depth value).events ∧
      (journal settings (depth + level) inner).result = .ok node) ∨
    StandsForName settings (journal settings depth value).events (depth + level) node := by
  rcases journal_account finished with ⟨document, account⟩
  rcases below.cases_children with ⟨rfl, rfl⟩ | ⟨child, member, rest, rfl, under⟩
  · exact .inl ⟨value, account.attempted, finished⟩
  · rcases account.child_cases member with ⟨inner, listed, converted⟩ | ⟨name, listed, rfl⟩
    · have smaller := DocumentNode.height_lt_of_mem_places listed rfl
      have deeper : depth + (rest + 1) = depth + 1 + rest := by omega
      rw [deeper]
      rcases journal_source converted under with ⟨other, happened, made⟩ | ⟨above, other, owned,
        owner, name, same, happened, read, stands, made, given⟩
      · exact .inl ⟨other, account.event_of_place listed rfl happened, made⟩
      · exact .inr ⟨above, other, owned, owner, name, same,
          account.event_of_place listed rfl happened, read, stands, made, given⟩
    · rcases under.of_bareIdentifier with ⟨rfl, rfl⟩
      exact .inr ⟨depth, value, document, root, name, rfl, account.attempted, account.read,
        listed, finished, rfl⟩
termination_by value.height
decreasing_by
  rw [DocumentNode.ofJson?_eq_ok account.read]
  exact smaller

/-! ## From attempts to nodes -/

/-- If an object stands under `typeName`, the type of the node there is the type of the
expression. -/
theorem Form.elementaryTypeNameExpression_ensures
    (possible : (field : Field) → field.Answer → Prop)
    (object : ∀ isObject, possible (.holdsObject "typeName") isObject → isObject = true) :
    elementaryTypeNameExpression.Ensures possible fun node reads =>
      ∃ type, ⟨.elementaryChild "typeName", type⟩ ∈ reads ∧
        node.shape = .expression (.elementaryTypeName type) := by
  intro location _ isObject answered
  cases object isObject answered
  intro type _ id _
  exact ⟨type, by simp, rfl⟩

/-- A node of which only the type is kept is an elementary type name, and the type is
that of the expression. -/
theorem Account.type_of_place {settings : Settings} {depth : Nat} {value : Json}
    {document : DocumentNode} {node : Node}
    (account : Account settings depth value document node)
    (finished : (journal settings depth value).result = .ok node) {inner : Json}
    (listed : .typeOnly inner ∈ document.places settings.layout) :
    ∃ named type, (journal settings (depth + 1) inner).result = .ok named ∧
      named.elementaryType? = some type ∧
        node.shape = .expression (.elementaryTypeName type) := by
  rcases DocumentNode.stands_of_typeOnly listed with ⟨kind, stands, isObject⟩
  rcases fill_of_journal finished with ⟨_, read, _, filled⟩
  cases account.read.symm.trans read
  rw [kind] at filled
  have object : ∀ isObject,
      ((Field.holdsObject "typeName").answer settings (depth + 1) document).result =
        .ok isObject → isObject = true := by
    intro given answered
    have same : (document.structural? "typeName").any Json.isObject = given :=
      Except.ok.inj answered
    rw [← same, stands]
    exact isObject
  have ensured := Form.elementaryTypeNameExpression_ensures
    (fun field answer => (field.answer settings (depth + 1) document).result = .ok answer) object
  rcases ensured.of_fill (fun _ _ answered => answered) filled with
    ⟨reads, ⟨type, asked, shape⟩, each, _, _⟩
  have answered := each _ asked
  rw [Field.answer_elementaryChild, stands] at answered
  rcases Journal.ensures_narrowed type answered with ⟨_, _, named, converted, narrowed⟩
  exact ⟨named, type, converted, narrowed, shape⟩

/-- An elementary type name has no places, so converting it attempts nothing else. -/
theorem Account.attempt_eq_of_elementary {settings : Settings} {depth level : Nat}
    {value other : Json} {document : DocumentNode} {node : Node}
    (account : Account settings depth value document node)
    (elementary : node.elementaryType?.isSome = true)
    (happened : .attempt level other ∈ (journal settings depth value).events) :
    level = depth ∧ other = value := by
  have kind : document.kind = .elementaryTypeName := by
    rw [node.elementaryType?_isSome, account.kind_eq] at elementary
    exact of_decide_eq_true elementary
  rcases account.attempt_cases happened with same | ⟨place, listed, _⟩
  · exact same
  · rw [DocumentNode.places, kind] at listed
    cases listed

/-- A value that was attempted was converted to a node that the tree has at its level, or
whose type it has. -/
theorem journal_attempted {settings : Settings} {depth level : Nat} {value other : Json}
    {root : Node} (finished : (journal settings depth value).result = .ok root)
    (happened : .attempt level other ∈ (journal settings depth value).events) :
    ∃ below node, level = depth + below ∧ (journal settings level other).result = .ok node ∧
      root.Keeps below node := by
  rcases journal_account finished with ⟨document, account⟩
  rcases account.attempt_cases happened with ⟨rfl, rfl⟩ | ⟨place, listed, inner, stands, within⟩
  · exact ⟨0, root, rfl, finished, .inl .root⟩
  · have smaller := DocumentNode.height_lt_of_mem_places listed stands
    cases place with
    | bareName name => cases stands
    | node held =>
      cases stands
      rcases account.converts _ listed inner rfl with ⟨child, converted⟩
      rcases journal_attempted converted within with ⟨below, node, rfl, made, keeps⟩
      refine ⟨below + 1, node, by omega, made, ?_⟩
      exact keeps.under (account.child_of_place listed converted)
    | typeOnly held =>
      cases stands
      rcases account.type_of_place finished listed with ⟨named, type, converted, kept, shape⟩
      rcases journal_account converted with ⟨_, inside⟩
      have elementary : named.elementaryType?.isSome = true := by rw [kept]; rfl
      rcases inside.attempt_eq_of_elementary elementary within with ⟨rfl, rfl⟩
      exact ⟨1, named, rfl, converted, .inr ⟨0, root, type, rfl, .root, shape, kept⟩⟩
termination_by value.height
decreasing_by
  rw [DocumentNode.ofJson?_eq_ok account.read]
  exact smaller

end ContractTree
