import ContractTree.Token.Scan
import ContractTree.Tree.Node
import ContractTree.Tree.Path

namespace ContractTree

/-!
# The grammar of trees

A tree may hold any token where an operator stands, and any node in any place.  The
grammar says which trees are those of a source: operators are operators, sizes are
legal, paths can be spelt, literals are complete, and every child is of the
category of its place.  Each rule is about one node and what it holds directly, and
a tree is grammatical if the rules hold at every node of it.
-/

/-- A type that its own token stands for, in sizes that the language has. -/
def ElementaryType.Grammatical (type : ElementaryType) : Prop :=
  (Token.elementary type).elementaryType? = some type ∧ type.Legal

/-- The rules for literals.  A boolean literal is the token that its value writes,
and only the bytes of a hexadecimal string can do without a value. -/
structure Literal.Grammatical (literal : Literal) : Prop where
  token : literal.token ∈ [.number, .string, .hexString, .boolean true, .boolean false]
  boolean : literal.token.isBoolean = true →
    ∃ value, literal.value = some value ∧ Token.scan value = .ok literal.token
  value : literal.value = none → literal.token = .hexString ∧ literal.hexValue.isSome = true
  denomination : ∀ unit, literal.denomination = some unit → unit.isDenomination = true

/-- A location in a source, with its ends in order. -/
structure SourceLocation.Within (source : SourceName) (location : SourceLocation) : Prop where
  source_eq : location.source = source
  ordered : location.span.Ordered

section Shape

variable {α : Type} (source : SourceName)

/-- The literals of a pragma are texts of one token each, and come with these tokens. -/
def Declaration.Grammatical : Declaration α → Prop
  | .pragmaDirective tokens literals => literals.map Token.scan = tokens.map .ok
  | _ => True

def TypeName.Grammatical : TypeName α → Prop
  | .elementary type => type.Grammatical
  | .userDefined path => TypePath.Valid path
  | _ => True

/-- Of statements, inline assembly alone holds locations besides its own. -/
def Statement.Grammatical : Statement α → Prop
  | .inlineAssembly _ references => ∀ reference ∈ references, ∀ location,
    reference.location = some location → location.Within source
  | _ => True

def Expression.Grammatical : Expression α → Prop
  | .assignment _ operator _ => operator.isAssignment = true
  | .unary operator _ _ => operator.isUnary = true
  | .binary _ operator _ => operator.isBinary = true
  | .functionCall _ arguments names => names = [] ∨ names.length = arguments.length
  | .elementaryTypeName type => type.Grammatical
  | .literal constant => constant.Grammatical
  | _ => True

/-- The rules for what a node holds besides its children. -/
def Shape.Grammatical : Shape α → Prop
  | .declaration shape => shape.Grammatical
  | .typeName shape => shape.Grammatical
  | .statement shape => shape.Grammatical source
  | .expression shape => shape.Grammatical

end Shape

/-- The rules for one node of a tree. -/
structure Node.Grammatical (source : SourceName) (node : Node) : Prop where
  location : node.location.Within source
  shape : node.shape.Grammatical source
  /-- The children are of the categories of their places. -/
  parts : ∀ part ∈ node.shape.parts, ∀ child ∈ part.children,
    part.category.accepts child.kind = true

/-- A property holds at a node and at every node below it. -/
inductive Node.Everywhere (property : Node → Prop) : Node → Prop where
  | intro {node : Node} (here : property node)
    (children : ∀ child ∈ node.children, Everywhere property child) : Everywhere property node

namespace Node.Everywhere

variable {property : Node → Prop} {node : Node}

theorem here (everywhere : node.Everywhere property) : property node := by
  cases everywhere with
  | intro here children => exact here

theorem children (everywhere : node.Everywhere property) :
    ∀ child ∈ node.children, child.Everywhere property := by
  cases everywhere with
  | intro here children => exact children

theorem imp {other : Node → Prop} (implies : ∀ node, property node → other node)
    (everywhere : node.Everywhere property) : node.Everywhere other := by
  induction everywhere with
  | intro here _ ih => exact .intro (implies _ here) ih

end Node.Everywhere
end ContractTree
