import ContractTree.Form.Expression
import ContractTree.Proofs.Form.Represents

namespace ContractTree

/-!
# Expressions represent their document nodes

One lemma for each form of an expression.  The answers are introduced in the order
in which the form asks for them.
-/

namespace Form

variable {settings : Settings} {depth : Nat} {document : DocumentNode}

theorem represent_conditional (kind : document.kind = .conditional) :
    conditional.Represent settings depth document := by
  intro id written location placed condition conditionStands trueExpression trueStands
    falseExpression falseStands
  refine .of_parts kind.symm written placed trivial ⟨conditionStands, trueStands, falseStands⟩
    ?_ rfl
  rw [DocumentNode.places, kind]
  rfl

theorem represent_assignment (kind : document.kind = .assignment) :
    assignment.Represent settings depth document := by
  intro location placed left leftStands word spelt
  apply Ensures.lift_bind
  intro operator resolved right rightStands id written
  refine .of_parts kind.symm written placed ?_ ⟨leftStands, rightStands⟩ ?_ rfl
  · exact (Token.resolveIn_eq_ok resolved).1
  · rw [DocumentNode.places, kind]
    rfl

theorem represent_tupleExpression (kind : document.kind = .tupleExpression) :
    tupleExpression.Represent settings depth document := by
  intro id written location placed components stand isInlineArray _
  refine .of_parts kind.symm written placed trivial stand ?_ rfl
  rw [DocumentNode.places, kind]
  rfl

theorem represent_unaryOperation (kind : document.kind = .unaryOperation) :
    unaryOperation.Represent settings depth document := by
  intro location placed word spelt
  apply Ensures.lift_bind
  intro operator resolved id written subExpression stands isPrefix _
  refine .of_parts kind.symm written placed ?_ stands ?_ rfl
  · exact (Token.resolveIn_eq_ok resolved).1
  · rw [DocumentNode.places, kind]
    rfl

theorem represent_binaryOperation (kind : document.kind = .binaryOperation) :
    binaryOperation.Represent settings depth document := by
  intro location placed left leftStands word spelt
  apply Ensures.lift_bind
  intro operator resolved right rightStands id written
  refine .of_parts kind.symm written placed ?_ ⟨leftStands, rightStands⟩ ?_ rfl
  · exact (Token.resolveIn_eq_ok resolved).1
  · rw [DocumentNode.places, kind]
    rfl

theorem scalar_checkNames (names : List String) (arguments : List Node) :
    (checkNames names arguments).Scalar settings depth document fun _ =>
      names = [] ∨ names.length = arguments.length := by
  unfold checkNames
  split
  · next fitting => exact ⟨fitting, rfl⟩
  · trivial

theorem represent_functionCall (kind : document.kind = .functionCall) :
    functionCall.Represent settings depth document := by
  intro location placed callee calleeStands arguments argumentsStand names _
  simp only [done_bind]
  apply Ensures.bind (scalar_checkNames names arguments)
  rintro _ here ⟨fitting, quiet⟩ id written
  refine .of_parts kind.symm written placed fitting ⟨calleeStands, argumentsStand⟩ ?_ ?_
  · rw [DocumentNode.places, kind]
    rfl
  · simp [quiet, Field.places, express, Shape.parts, Expression.parts]

theorem represent_newExpression (kind : document.kind = .newExpression) :
    newExpression.Represent settings depth document := by
  intro id written location placed typeName stands
  refine .of_parts kind.symm written placed trivial stands ?_ rfl
  rw [DocumentNode.places, kind]
  rfl

theorem represent_memberAccess (kind : document.kind = .memberAccess) :
    memberAccess.Represent settings depth document := by
  intro id written location placed object stands memberName _
  refine .of_parts kind.symm written placed trivial stands ?_ rfl
  rw [DocumentNode.places, kind]
  rfl

theorem represent_indexAccess (kind : document.kind = .indexAccess) :
    indexAccess.Represent settings depth document := by
  intro id written location placed base baseStands index indexStands
  refine .of_parts kind.symm written placed trivial ⟨baseStands, indexStands.1⟩ ?_ rfl
  rw [DocumentNode.places, kind]
  rfl

theorem represent_identifier (kind : document.kind = .identifier) :
    identifier.Represent settings depth document := by
  intro id written location placed name _
  refine .of_parts kind.symm written placed trivial trivial ?_ rfl
  rw [DocumentNode.places, kind]
  rfl

/-! ## Types as expressions -/

/-- The type of an expression is grammatical, and the place that is asked about is
the one in which only a type stands. -/
theorem expressedType_ensures :
    expressedType.Ensures (Field.Faithful settings depth document) fun type reads =>
      type.Grammatical ∧ document.placesRead reads = document.typeOnlyPlaces "typeName" := by
  intro isObject stands
  cases isObject with
  | true =>
    intro type legal
    refine ⟨⟨rfl, legal⟩, ?_⟩
    exact List.append_nil _
  | false =>
    intro word _
    apply ensures_lift.2
    intro type resolved
    refine ⟨Token.grammatical_of_resolveElementary resolved, ?_⟩
    exact (DocumentNode.typeOnlyPlaces_of_text stands).symm

/-- A place in which only a type stands has no nodes. -/
theorem nodes_typeOnlyPlaces (key : String) (id : NodeId) (location : SourceLocation) :
    (document.typeOnlyPlaces key).flatMap (Place.nodes settings depth id location) = [] := by
  unfold DocumentNode.typeOnlyPlaces
  split <;> rfl

theorem represent_elementaryTypeNameExpression
    (kind : document.kind = .elementaryTypeNameExpression) :
    elementaryTypeNameExpression.Represent settings depth document := by
  intro location placed
  simp only [done_bind]
  apply Ensures.bind expressedType_ensures
  rintro type here ⟨grammatical, asked⟩ id written
  have places : document.places settings.layout = document.typeOnlyPlaces "typeName" := by
    rw [DocumentNode.places, kind]
  refine ⟨kind.symm, written, placed, ⟨DocumentNode.within_of_location? placed, grammatical, ?_⟩,
    ?_, ?_⟩
  · intro part member
    exact (List.not_mem_nil member).elim
  · rw [places]
    exact nodes_typeOnlyPlaces ..
  · simp [asked, places, Field.places]

/-! ## Literals -/

theorem scalar_literalKind :
    literalKind.Scalar settings depth document fun _ => True := by
  intro kind _
  cases kind with
  | some word => exact ⟨trivial, rfl⟩
  | none =>
    intro token _
    cases token with
    | some word => exact ⟨trivial, rfl⟩
    | none => trivial

theorem scalar_literalToken (word : String) (value : Option String) :
    (literalToken word value).Scalar settings depth document fun token =>
      token ∈ [.number, .string, .hexString, .boolean true, .boolean false] ∧
        (token.isBoolean = true → ∃ text, value = some text ∧ Token.scan text = .ok token) := by
  unfold literalToken
  split
  · exact ⟨⟨by decide, fun impossible => nomatch impossible⟩, rfl⟩
  · split
    · exact ⟨⟨by decide, fun impossible => nomatch impossible⟩, rfl⟩
    · split
      · exact ⟨⟨by decide, fun impossible => nomatch impossible⟩, rfl⟩
      · split
        · split
          · next text =>
            refine ensures_lift.2 fun token resolved => ⟨⟨?_, ?_⟩, rfl⟩
            · cases token with
              | boolean flag => cases flag <;> decide
              | _ => cases (Token.resolveIn_eq_ok resolved).1
            · intro _
              exact ⟨text, rfl, (Token.resolveIn_eq_ok resolved).2⟩
          · trivial
        · trivial

theorem scalar_checkValue (token : Token) (value hexValue : Option String) :
    (checkValue token value hexValue).Scalar settings depth document fun _ =>
      value = none → token = .hexString ∧ hexValue.isSome = true := by
  unfold checkValue
  split
  · next complete =>
    refine ⟨?_, rfl⟩
    rintro rfl
    rcases complete with present | bytes
    · cases present
    · exact bytes
  · trivial

theorem scalar_denomination :
    denomination.Scalar settings depth document fun unit? =>
      ∀ unit, unit? = some unit → unit.isDenomination = true := by
  intro word _
  cases word with
  | some text =>
    refine Ensures.lift_bind fun unit resolved => ⟨?_, rfl⟩
    rintro _ ⟨⟩
    exact (Token.resolveIn_eq_ok resolved).1
  | none => exact ⟨(fun _ impossible => nomatch impossible), rfl⟩

theorem represent_literal (kind : document.kind = .literal) :
    literal.Represent settings depth document := by
  intro location placed
  simp only [done_bind]
  apply Ensures.bind scalar_literalKind
  rintro word kindReads ⟨-, kindQuiet⟩ value _
  simp only [done_bind]
  apply Ensures.bind (scalar_literalToken word value)
  rintro token tokenReads ⟨⟨known, boolean⟩, tokenQuiet⟩ hexValue _
  simp only [done_bind]
  apply Ensures.bind (scalar_checkValue token value hexValue)
  rintro _ valueReads ⟨complete, valueQuiet⟩
  apply Ensures.bind scalar_denomination
  rintro unit unitReads ⟨counted, unitQuiet⟩ id written
  refine .of_parts kind.symm written placed ⟨known, boolean, complete, counted⟩ trivial ?_ ?_
  · rw [DocumentNode.places, kind]
    rfl
  · simp [kindQuiet, tokenQuiet, valueQuiet, unitQuiet, Field.places, express, Shape.parts,
      Expression.parts]

end Form
end ContractTree
