import ContractTree.Form.Expression
import ContractTree.Proofs.Recovered.Attribute

namespace ContractTree

/-!
# Expressions are recovered

Operators, units and types are written as texts, and the rules of the grammar are
what brings the tokens back.
-/

namespace Form

variable {id : NodeId} {location : SourceLocation} {node : Node}

theorem recovers_conditional {condition trueExpression falseExpression : Node} :
    conditional.Recovers ⟨id, location,
      .expression (.conditional condition trueExpression falseExpression)⟩ := by
  apply Yields.read .id
  apply Yields.read .location
  apply Yields.read (.child condition (by simp))
  apply Yields.read (.child trueExpression (by simp))
  apply Yields.read (.child falseExpression (by simp))
  rfl

/-! ## Operators -/

theorem recovers_assignment {leftHandSide rightHandSide : Node} {operator : Token}
    (assigns : operator.isAssignment = true) :
    assignment.Recovers
      ⟨id, location, .expression (.assignment leftHandSide operator rightHandSide)⟩ := by
  have resolved : Token.resolveIn .assignment operator.text = .ok operator :=
    Token.resolveIn_of_scan (Token.scan_text_of_isAssignment assigns) assigns
  apply Yields.read .location
  apply Yields.read (.child leftHandSide (by simp))
  apply Yields.read (.text operator.text (by simp))
  simp only [done_bind]
  apply Yields.bind (.lift resolved)
  apply Yields.read (.child rightHandSide (by simp))
  apply Yields.read .id
  rfl

theorem recovers_unaryOperation {subExpression : Node} {operator : Token} {isPrefix : Bool}
    (unary : operator.isUnary = true) :
    unaryOperation.Recovers
      ⟨id, location, .expression (.unary operator subExpression isPrefix)⟩ := by
  have resolved : Token.resolveIn .unary operator.text = .ok operator :=
    Token.resolveIn_of_scan (Token.scan_text_of_isUnary unary) unary
  apply Yields.read .location
  apply Yields.read (.text operator.text (by simp))
  simp only [done_bind]
  apply Yields.bind (.lift resolved)
  apply Yields.read .id
  apply Yields.read (.child subExpression (by simp))
  apply Yields.read (.flag isPrefix (by simp))
  rfl

theorem recovers_binaryOperation {left right : Node} {operator : Token}
    (binary : operator.isBinary = true) :
    binaryOperation.Recovers ⟨id, location, .expression (.binary left operator right)⟩ := by
  have resolved : Token.resolveIn .binary operator.text = .ok operator :=
    Token.resolveIn_of_scan (Token.scan_text_of_isBinary binary) binary
  apply Yields.read .location
  apply Yields.read (.child left (by simp))
  apply Yields.read (.text operator.text (by simp))
  simp only [done_bind]
  apply Yields.bind (.lift resolved)
  apply Yields.read (.child right (by simp))
  apply Yields.read .id
  rfl

/-! ## Calls and accesses -/

theorem recovers_tupleExpression {components : List (Option Node)} {isInlineArray : Bool} :
    tupleExpression.Recovers ⟨id, location, .expression (.tuple components isInlineArray)⟩ := by
  apply Yields.read .id
  apply Yields.read .location
  apply Yields.read (.gappedChildren components (by simp))
  apply Yields.read (.flag? (some isInlineArray) (by simp))
  rfl

theorem recovers_functionCall {callee : Node} {arguments : List Node} {names : List String}
    (named : names = [] ∨ names.length = arguments.length) :
    functionCall.Recovers
      ⟨id, location, .expression (.functionCall callee arguments names)⟩ := by
  apply Yields.read .location
  apply Yields.read (.child callee (by simp))
  apply Yields.read (.children arguments (by simp))
  apply Yields.read (.texts names (by simp) (by decide))
  simp only [done_bind, checkNames, if_pos named]
  apply Yields.read .id
  rfl

theorem recovers_newExpression {typeName : Node} :
    newExpression.Recovers ⟨id, location, .expression (.newObject typeName)⟩ := by
  apply Yields.read .id
  apply Yields.read .location
  apply Yields.read (.child typeName (by simp))
  rfl

theorem recovers_memberAccess {object : Node} {memberName : String} :
    memberAccess.Recovers ⟨id, location, .expression (.memberAccess object memberName)⟩ := by
  apply Yields.read .id
  apply Yields.read .location
  apply Yields.read (.child object (by simp))
  apply Yields.read (.text memberName (by simp))
  rfl

theorem recovers_indexAccess {base : Node} {index : Option Node} :
    indexAccess.Recovers ⟨id, location, .expression (.indexAccess base index)⟩ := by
  apply Yields.read .id
  apply Yields.read .location
  apply Yields.read (.child base (by simp))
  apply Yields.read (.child? index (by simp))
  rfl

/-! ## Names and literals -/

theorem recovers_identifier {name : String} :
    identifier.Recovers ⟨id, location, .expression (.identifier name)⟩ := by
  apply Yields.read .id
  apply Yields.read .location
  apply Yields.read (.text name (by simp))
  rfl

/-- A type that is written as a text is no object. -/
theorem yields_expressedType {type : ElementaryType} (grammatical : type.Grammatical)
    (field : ("typeName", some (.str type.text)) ∈ node.shape.scalars) :
    expressedType.Yields node.Says type := by
  apply Yields.read (.noObject field)
  apply Yields.read (.typeText type.text field)
  exact .lift (Token.resolveElementary_text grammatical)

theorem recovers_elementaryTypeNameExpression {type : ElementaryType}
    (grammatical : type.Grammatical) :
    elementaryTypeNameExpression.Recovers
      ⟨id, location, .expression (.elementaryTypeName type)⟩ := by
  apply Yields.read .location
  simp only [done_bind]
  apply Yields.bind (yields_expressedType grammatical (by simp))
  apply Yields.read .id
  rfl

theorem yields_literalKind (word : String)
    (field : ("kind", some (.str word)) ∈ node.shape.scalars) :
    literalKind.Yields node.Says word := by
  apply Yields.read (.text? (some word) field)
  rfl

/-- The word for the kind of a literal gives its token; for a boolean literal its value
does. -/
theorem yields_literalToken {constant : Literal} (grammatical : constant.Grammatical) :
    (literalToken constant.word constant.value).Yields node.Says constant.token := by
  rcases constant with ⟨token, value, hexValue, denomination⟩
  have listed := grammatical.token
  simp only [List.mem_cons, List.not_mem_nil, or_false] at listed
  rcases listed with rfl | rfl | rfl | boolean
  · rfl
  · rfl
  · rfl
  · have isBoolean : token.isBoolean = true := by rcases boolean with rfl | rfl <;> rfl
    have word : (⟨token, value, hexValue, denomination⟩ : Literal).word = "bool" := by
      rcases boolean with rfl | rfl <;> rfl
    rcases grammatical.boolean isBoolean with ⟨text, rfl, scanned⟩
    rw [word]
    exact .lift (Token.resolveIn_of_scan scanned isBoolean)

theorem yields_checkValue {constant : Literal} (grammatical : constant.Grammatical) :
    (checkValue constant.token constant.value constant.hexValue).Yields node.Says () := by
  have complete : constant.value.isSome = true ∨
      (constant.token = .hexString ∧ constant.hexValue.isSome = true) := by
    cases value : constant.value with
    | some text => exact .inl rfl
    | none => exact .inr (grammatical.value value)
  rw [checkValue, if_pos complete]
  rfl

theorem yields_denomination {unit : Option Token}
    (counted : ∀ token, unit = some token → token.isDenomination = true)
    (field : textField "subdenomination" (unit.map Token.text) ∈ node.shape.scalars) :
    denomination.Yields node.Says unit := by
  cases unit with
  | none =>
    apply Yields.read (.text? none field)
    rfl
  | some token =>
    have resolved : Token.resolveIn .denomination token.text = .ok token :=
      Token.resolveIn_of_scan (Token.scan_text_of_isDenomination (counted token rfl))
        (counted token rfl)
    apply Yields.read (.text? (some token.text) field)
    simp only [done_bind]
    apply Yields.bind (.lift resolved)
    rfl

theorem recovers_literal {constant : Literal} (grammatical : constant.Grammatical) :
    literal.Recovers ⟨id, location, .expression (.literal constant)⟩ := by
  apply Yields.read .location
  simp only [done_bind]
  apply Yields.bind (yields_literalKind constant.word (by simp))
  apply Yields.read (.text? constant.value (by simp))
  simp only [done_bind]
  apply Yields.bind (yields_literalToken grammatical)
  apply Yields.read (.text? constant.hexValue (by simp))
  simp only [done_bind]
  apply Yields.bind (yields_checkValue grammatical)
  apply Yields.bind (yields_denomination grammatical.denomination (by simp))
  apply Yields.read .id
  rfl

end Form
end ContractTree
