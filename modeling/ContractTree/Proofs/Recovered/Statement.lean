import ContractTree.Form.Statement
import ContractTree.Proofs.Writing.Says

namespace ContractTree

/-!
# Statements are recovered
-/

namespace Form

variable {id : NodeId} {location : SourceLocation}

theorem recovers_inlineAssembly {operations : String} {references : List ExternalReference} :
    inlineAssembly.Recovers
      ⟨id, location, .statement (.inlineAssembly operations references)⟩ := by
  apply Yields.read .location
  apply Yields.read (.text operations (by simp))
  apply Yields.read (.references rfl)
  apply Yields.read .id
  rfl

theorem recovers_block {statements : List Node} :
    block.Recovers ⟨id, location, .statement (.block statements)⟩ := by
  apply Yields.read .id
  apply Yields.read .location
  apply Yields.read (.children statements (by simp))
  rfl

/-- A statement without fields is known by its kind alone. -/
theorem recovers_bare {statement : Statement Node} :
    (bare statement).Recovers ⟨id, location, .statement statement⟩ := by
  apply Yields.read .id
  apply Yields.read .location
  rfl

theorem recovers_ifStatement {condition trueBody : Node} {falseBody : Option Node} :
    ifStatement.Recovers ⟨id, location, .statement (.branch condition trueBody falseBody)⟩ := by
  apply Yields.read .id
  apply Yields.read .location
  apply Yields.read (.child condition (by simp))
  apply Yields.read (.child trueBody (by simp))
  apply Yields.read (.child? falseBody (by simp))
  rfl

theorem recovers_loop {condition body : Node} {isDoWhile : Bool} :
    (loop isDoWhile).Recovers ⟨id, location, .statement (.loop condition body isDoWhile)⟩ := by
  apply Yields.read .id
  apply Yields.read .location
  apply Yields.read (.child condition (by simp))
  apply Yields.read (.child body (by simp))
  rfl

/-- An initialization is written under its long key.  If there is none, then nothing is
found under the short key either. -/
theorem recovers_forStatement {initialization condition loopExpression : Option Node}
    {body : Node} :
    forStatement.Recovers
      ⟨id, location, .statement (.forLoop initialization condition loopExpression body)⟩ := by
  apply Yields.read (.holds .statement (.maybe initialization) (by simp))
  apply Yields.read .id
  apply Yields.read .location
  refine Exists.intro initialization ⟨?_, ?_⟩
  · cases initialization with
    | some start => exact .child? (some start) (by simp)
    | none => exact .noChild (by simp) (by decide)
  apply Yields.read (.child? condition (by simp))
  apply Yields.read (.child? loopExpression (by simp))
  apply Yields.read (.child body (by simp))
  rfl

theorem recovers_returnStatement {value : Option Node} :
    returnStatement.Recovers ⟨id, location, .statement (.returnResult value)⟩ := by
  apply Yields.read .id
  apply Yields.read .location
  apply Yields.read (.child? value (by simp))
  rfl

theorem recovers_emitStatement {eventCall : Node} :
    emitStatement.Recovers ⟨id, location, .statement (.emit eventCall)⟩ := by
  apply Yields.read .id
  apply Yields.read .location
  apply Yields.read (.child eventCall (by simp))
  rfl

theorem recovers_variableDeclarationStatement {declarations : List (Option Node)}
    {initialValue : Option Node} :
    variableDeclarationStatement.Recovers
      ⟨id, location, .statement (.declareVariables declarations initialValue)⟩ := by
  apply Yields.read .id
  apply Yields.read .location
  apply Yields.read (.gappedChildren declarations (by simp))
  apply Yields.read (.child? initialValue (by simp))
  rfl

theorem recovers_expressionStatement {value : Node} :
    expressionStatement.Recovers ⟨id, location, .statement (.expression value)⟩ := by
  apply Yields.read .id
  apply Yields.read .location
  apply Yields.read (.child value (by simp))
  rfl

end Form
end ContractTree
