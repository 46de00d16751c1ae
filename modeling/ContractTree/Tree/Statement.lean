import ContractTree.Location
import ContractTree.Tree.Slot

namespace ContractTree

/-!
# Statements

A loop that tests its condition after its body differs from one that tests it
before by a flag, and by that flag alone.  Inline assembly is kept as text, with
the names from outside that it refers to.
-/

/-- A name from outside of an assembly block that the block refers to. -/
structure ExternalReference where
  name : String
  declaration : Option NodeId
  isOffset : Bool
  isSlot : Bool
  valueSize : UInt32
  location : Option SourceLocation
  deriving DecidableEq, Repr

inductive Statement (α : Type) where
  | inlineAssembly (operations : String) (externalReferences : List ExternalReference)
  | block (statements : List α)
  /-- The place in a modifier where the modified body runs. -/
  | placeholder
  | branch (condition trueBody : α) (falseBody : Option α)
  | loop (condition body : α) (isDoWhile : Bool)
  | forLoop (initialization condition loopExpression : Option α) (body : α)
  | continueLoop
  | breakLoop
  | returnResult (expression : Option α)
  | throw
  | emit (eventCall : α)
  /-- A gap is a component of the initial value that is dropped. -/
  | declareVariables (declarations : List (Option α)) (initialValue : Option α)
  | expression (expression : α)
  deriving DecidableEq, Repr

namespace Statement

variable {α β : Type}

def kind : Statement α → NodeKind
  | inlineAssembly .. => .inlineAssembly
  | block .. => .block
  | placeholder => .placeholderStatement
  | branch .. => .ifStatement
  | loop _ _ isDoWhile => if isDoWhile then .doWhileStatement else .whileStatement
  | forLoop .. => .forStatement
  | continueLoop => .continueStatement
  | breakLoop => .breakStatement
  | returnResult .. => .returnStatement
  | throw => .throwStatement
  | emit .. => .emitStatement
  | declareVariables .. => .variableDeclarationStatement
  | expression .. => .expressionStatement

/-- The places of a statement in the order of traversal. -/
def parts : Statement α → List (Part α)
  | inlineAssembly _ _ => []
  | block statements => [⟨"statements", .statement, .many statements⟩]
  | placeholder => []
  | branch condition trueBody falseBody =>
    [⟨"condition", .expression, .one condition⟩, ⟨"trueBody", .statement, .one trueBody⟩,
      ⟨"falseBody", .statement, .maybe falseBody⟩]
  | loop condition body _ =>
    [⟨"condition", .expression, .one condition⟩, ⟨"body", .statement, .one body⟩]
  | forLoop initialization condition loopExpression body =>
    [⟨"initializationExpression", .statement, .maybe initialization⟩,
      ⟨"condition", .expression, .maybe condition⟩,
      ⟨"loopExpression", .expressionStatement, .maybe loopExpression⟩,
      ⟨"body", .statement, .one body⟩]
  | continueLoop => []
  | breakLoop => []
  | returnResult value => [⟨"expression", .expression, .maybe value⟩]
  | throw => []
  | emit eventCall => [⟨"eventCall", .functionCall, .one eventCall⟩]
  | declareVariables declarations initialValue =>
    [⟨"declarations", .variableDeclaration, .gapped declarations⟩,
      ⟨"initialValue", .expression, .maybe initialValue⟩]
  | expression value => [⟨"expression", .expression, .one value⟩]

def map (f : α → β) : Statement α → Statement β
  | inlineAssembly operations externalReferences => inlineAssembly operations externalReferences
  | block statements => block (statements.map f)
  | placeholder => placeholder
  | branch condition trueBody falseBody => branch (f condition) (f trueBody) (falseBody.map f)
  | loop condition body isDoWhile => loop (f condition) (f body) isDoWhile
  | forLoop initialization condition loopExpression body =>
    forLoop (initialization.map f) (condition.map f) (loopExpression.map f) (f body)
  | continueLoop => continueLoop
  | breakLoop => breakLoop
  | returnResult value => returnResult (value.map f)
  | throw => throw
  | emit eventCall => emit (f eventCall)
  | declareVariables declarations initialValue =>
    declareVariables (declarations.map (Option.map f)) (initialValue.map f)
  | expression value => expression (f value)

theorem kind_map (f : α → β) (shape : Statement α) : (shape.map f).kind = shape.kind := by
  cases shape <;> rfl

theorem parts_map (f : α → β) (shape : Statement α) :
    (shape.map f).parts = shape.parts.map (Part.map f) := by
  cases shape <;> rfl

theorem sizeOf_slot_le [SizeOf α] (shape : Statement α) :
    ∀ part ∈ shape.parts, sizeOf part.slot ≤ sizeOf shape := by
  cases shape <;> simp [parts] <;> omega

/-- A statement is determined by its outline and the contents of its places. -/
theorem eq_of_map_eq {f : α → β} {first second : Statement α}
    (outline : first.map f = second.map f) (same : first.parts = second.parts) :
    first = second := by
  cases first <;> cases second <;> simp only [map, reduceCtorEq] at outline
  all_goals simp_all [parts]

end Statement
end ContractTree
