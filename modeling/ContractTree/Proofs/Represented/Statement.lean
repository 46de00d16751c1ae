import ContractTree.Form.Statement
import ContractTree.Proofs.Form.Represents

namespace ContractTree

/-!
# Statements represent their document nodes
-/

namespace Form

variable {settings : Settings} {depth : Nat} {document : DocumentNode}

theorem represent_inlineAssembly (kind : document.kind = .inlineAssembly) :
    inlineAssembly.Represent settings depth document := by
  intro location placed operations _ references within id written
  refine .of_parts kind.symm written placed within trivial ?_ rfl
  rw [DocumentNode.places, kind]
  rfl

theorem represent_block (kind : document.kind = .block) :
    block.Represent settings depth document := by
  intro id written location placed statements stand
  refine .of_parts kind.symm written placed trivial stand ?_ rfl
  rw [DocumentNode.places, kind]
  rfl

/-- A statement without fields has no parts, and its kind has no places. -/
theorem represent_bare {statement : Statement Node} (kind : document.kind = statement.kind)
    (rule : statement.Grammatical settings.source) (parts : statement.parts = [])
    (places : document.places settings.layout = []) :
    (bare statement).Represent settings depth document := by
  intro id written location placed
  refine .of_parts kind.symm written placed rule ?_ ?_ ?_
  · change statement.parts.Forall _
    rw [parts]
    trivial
  · change _ = statement.parts.flatMap _
    rw [parts, places]
    rfl
  · change _ = statement.parts.flatMap _
    rw [parts]
    rfl

theorem represent_placeholder (kind : document.kind = .placeholderStatement) :
    (bare .placeholder).Represent settings depth document := by
  refine represent_bare kind trivial rfl ?_
  rw [DocumentNode.places, kind]
  rfl

theorem represent_continue (kind : document.kind = .continueStatement) :
    (bare .continueLoop).Represent settings depth document := by
  refine represent_bare kind trivial rfl ?_
  rw [DocumentNode.places, kind]
  rfl

theorem represent_break (kind : document.kind = .breakStatement) :
    (bare .breakLoop).Represent settings depth document := by
  refine represent_bare kind trivial rfl ?_
  rw [DocumentNode.places, kind]
  rfl

theorem represent_throw (kind : document.kind = .throwStatement) :
    (bare .throw).Represent settings depth document := by
  refine represent_bare kind trivial rfl ?_
  rw [DocumentNode.places, kind]
  rfl

theorem represent_ifStatement (kind : document.kind = .ifStatement) :
    ifStatement.Represent settings depth document := by
  intro id written location placed condition conditionStands trueBody trueStands
    falseBody falseStands
  refine .of_parts kind.symm written placed trivial ⟨conditionStands, trueStands, falseStands.1⟩
    ?_ rfl
  rw [DocumentNode.places, kind]
  rfl

theorem represent_doWhile (kind : document.kind = .doWhileStatement) :
    (loop true).Represent settings depth document := by
  intro id written location placed condition conditionStands body bodyStands
  refine .of_parts kind.symm written placed trivial ⟨conditionStands, bodyStands⟩ ?_ rfl
  rw [DocumentNode.places, kind]
  rfl

theorem represent_while (kind : document.kind = .whileStatement) :
    (loop false).Represent settings depth document := by
  intro id written location placed condition conditionStands body bodyStands
  refine .of_parts kind.symm written placed trivial ⟨conditionStands, bodyStands⟩ ?_ rfl
  rw [DocumentNode.places, kind]
  rfl

/-- The initialization of a loop is the only part of a statement that may stand under
another key than its own. -/
theorem represent_forStatement (kind : document.kind = .forStatement) :
    forStatement.Represent settings depth document := by
  intro hasLongKey holds id written location placed
  have key : (if hasLongKey then "initializationExpression" else "initExpression") =
      document.initializationKey := by
    rw [DocumentNode.initializationKey, holds]
  simp only [done_bind, key]
  intro initialization initializationStands condition conditionStands loopExpression loopStands
    body bodyStands
  have places : document.places settings.layout =
      document.under document.initializationKey ++ document.under "condition" ++
        document.under "loopExpression" ++ document.under "body" := by
    rw [DocumentNode.places, kind]
  refine ⟨kind.symm, written, placed, ⟨DocumentNode.within_of_location? placed, trivial, ?_⟩,
    ?_, ?_⟩
  · intro part member child inside
    simp only [execute, Shape.parts, Statement.parts, List.mem_cons, List.not_mem_nil,
      or_false] at member
    rcases member with rfl | rfl | rfl | rfl
    · exact initializationStands.1.accepted child inside
    · exact conditionStands.1.accepted child inside
    · exact loopStands.1.accepted child inside
    · exact bodyStands.accepted child inside
  · rw [places, List.flatMap_append, List.flatMap_append, List.flatMap_append,
      initializationStands.1.nodes_eq, conditionStands.1.nodes_eq, loopStands.1.nodes_eq,
      bodyStands.nodes_eq]
    simp [Node.children, Shape.children, execute, Shape.parts, Statement.parts, Part.children]
  · simp [places, Field.places]

theorem represent_returnStatement (kind : document.kind = .returnStatement) :
    returnStatement.Represent settings depth document := by
  intro id written location placed expression stands
  refine .of_parts kind.symm written placed trivial stands.1 ?_ rfl
  rw [DocumentNode.places, kind]
  rfl

theorem represent_emitStatement (kind : document.kind = .emitStatement) :
    emitStatement.Represent settings depth document := by
  intro id written location placed eventCall stands
  refine .of_parts kind.symm written placed trivial stands ?_ rfl
  rw [DocumentNode.places, kind]
  rfl

theorem represent_variableDeclarationStatement
    (kind : document.kind = .variableDeclarationStatement) :
    variableDeclarationStatement.Represent settings depth document := by
  intro id written location placed declarations declarationsStand initialValue valueStands
  refine .of_parts kind.symm written placed trivial ⟨declarationsStand, valueStands.1⟩ ?_ rfl
  rw [DocumentNode.places, kind]
  rfl

theorem represent_expressionStatement (kind : document.kind = .expressionStatement) :
    expressionStatement.Represent settings depth document := by
  intro id written location placed expression stands
  refine .of_parts kind.symm written placed trivial stands ?_ rfl
  rw [DocumentNode.places, kind]
  rfl

end Form
end ContractTree
