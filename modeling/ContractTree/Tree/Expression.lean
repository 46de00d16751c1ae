import ContractTree.Token.Basic
import ContractTree.Tree.Slot

namespace ContractTree

/-!
# Expressions

An operator is kept as the token that writes it.  Calls with named arguments have
as many names as arguments, and all other calls have none.
-/

/-- A literal by the token that it is read as.  Only a hexadecimal string may lack
a value, if its bytes are no text. -/
structure Literal where
  token : Token
  value : Option String
  hexValue : Option String
  denomination : Option Token
  deriving DecidableEq, Repr

inductive Expression (α : Type) where
  | conditional (condition trueExpression falseExpression : α)
  | assignment (leftHandSide : α) (operator : Token) (rightHandSide : α)
  /-- A gap is a component that was left out. -/
  | tuple (components : List (Option α)) (isInlineArray : Bool)
  | unary (operator : Token) (subExpression : α) (isPrefix : Bool)
  | binary (left : α) (operator : Token) (right : α)
  | functionCall (callee : α) (arguments : List α) (names : List String)
  | newObject (typeName : α)
  | memberAccess (object : α) (memberName : String)
  /-- The index is missing where an array type stands as an expression. -/
  | indexAccess (base : α) (index : Option α)
  | identifier (name : String)
  | elementaryTypeName (type : ElementaryType)
  | literal (literal : Literal)
  deriving DecidableEq, Repr

namespace Expression

variable {α β : Type}

def kind : Expression α → NodeKind
  | conditional .. => .conditional
  | assignment .. => .assignment
  | tuple .. => .tupleExpression
  | unary .. => .unaryOperation
  | binary .. => .binaryOperation
  | functionCall .. => .functionCall
  | newObject .. => .newExpression
  | memberAccess .. => .memberAccess
  | indexAccess .. => .indexAccess
  | identifier .. => .identifier
  | elementaryTypeName .. => .elementaryTypeNameExpression
  | .literal .. => .literal

/-- The places of an expression in the order of traversal. -/
def parts : Expression α → List (Part α)
  | conditional condition trueExpression falseExpression =>
    [⟨"condition", .expression, .one condition⟩,
      ⟨"trueExpression", .expression, .one trueExpression⟩,
      ⟨"falseExpression", .expression, .one falseExpression⟩]
  | assignment leftHandSide _ rightHandSide =>
    [⟨"leftHandSide", .expression, .one leftHandSide⟩,
      ⟨"rightHandSide", .expression, .one rightHandSide⟩]
  | tuple components _ => [⟨"components", .expression, .gapped components⟩]
  | unary _ subExpression _ => [⟨"subExpression", .expression, .one subExpression⟩]
  | binary left _ right =>
    [⟨"leftExpression", .expression, .one left⟩, ⟨"rightExpression", .expression, .one right⟩]
  | functionCall callee arguments _ =>
    [⟨"expression", .expression, .one callee⟩, ⟨"arguments", .expression, .many arguments⟩]
  | newObject typeName => [⟨"typeName", .typeName, .one typeName⟩]
  | memberAccess object _ => [⟨"expression", .expression, .one object⟩]
  | indexAccess base index =>
    [⟨"baseExpression", .expression, .one base⟩,
      ⟨"indexExpression", .expression, .maybe index⟩]
  | identifier _ => []
  | elementaryTypeName _ => []
  | .literal _ => []

def map (f : α → β) : Expression α → Expression β
  | conditional condition trueExpression falseExpression =>
    conditional (f condition) (f trueExpression) (f falseExpression)
  | assignment leftHandSide operator rightHandSide =>
    assignment (f leftHandSide) operator (f rightHandSide)
  | tuple components isInlineArray => tuple (components.map (Option.map f)) isInlineArray
  | unary operator subExpression isPrefix => unary operator (f subExpression) isPrefix
  | binary left operator right => binary (f left) operator (f right)
  | functionCall callee arguments names => functionCall (f callee) (arguments.map f) names
  | newObject typeName => newObject (f typeName)
  | memberAccess object memberName => memberAccess (f object) memberName
  | indexAccess base index => indexAccess (f base) (index.map f)
  | identifier name => identifier name
  | elementaryTypeName type => elementaryTypeName type
  | .literal constant => .literal constant

theorem kind_map (f : α → β) (shape : Expression α) : (shape.map f).kind = shape.kind := by
  cases shape <;> rfl

theorem parts_map (f : α → β) (shape : Expression α) :
    (shape.map f).parts = shape.parts.map (Part.map f) := by
  cases shape <;> rfl

theorem sizeOf_slot_le [SizeOf α] (shape : Expression α) :
    ∀ part ∈ shape.parts, sizeOf part.slot ≤ sizeOf shape := by
  cases shape <;> simp [parts] <;> omega

/-- An expression is determined by its outline and the contents of its places. -/
theorem eq_of_map_eq {f : α → β} {first second : Expression α}
    (outline : first.map f = second.map f) (same : first.parts = second.parts) :
    first = second := by
  cases first <;> cases second <;> simp only [map, reduceCtorEq] at outline
  all_goals simp_all [parts]

end Expression
end ContractTree
