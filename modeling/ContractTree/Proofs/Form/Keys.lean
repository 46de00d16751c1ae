import ContractTree.Proofs.Conversion.Congruent
import ContractTree.Proofs.Form.Questions

namespace ContractTree

/-!
# The keys of a kind

A form asks about a few keys, and which these are is known from the kind.  A node may
have any number of other members, and no question is about them.
-/

/-- The keys under which the form of a kind looks something up, those of older documents
included.  All nodes have an identifier and a source range. -/
def NodeKind.keys (kind : NodeKind) : List String :=
  "id" :: "src" :: match kind with
  | sourceUnit => ["nodes", "children", "absolutePath"]
  | pragmaDirective => ["literals"]
  | importDirective => ["file", "unitAlias", "symbolAliases"]
  | contractDefinition => ["contractKind", "name", "documentation", "baseContracts", "nodes"]
  | inheritanceSpecifier => ["baseName", "arguments"]
  | usingForDirective => ["libraryName", "typeName"]
  | structDefinition | enumDefinition => ["name", "members"]
  | enumValue => ["name"]
  | parameterList => ["parameters"]
  | functionDefinition => ["name", "visibility", "isConstructor", "kind", "documentation",
      "parameters", "returnParameters", "modifiers", "constant", "payable", "stateMutability",
      "implemented", "body"]
  | variableDeclaration => ["typeName", "name", "value", "visibility", "storageLocation",
      "location", "constant", "mutability", "stateVariable", "indexed"]
  | modifierDefinition => ["name", "documentation", "parameters", "body"]
  | modifierInvocation => ["modifierName", "name", "arguments"]
  | eventDefinition => ["name", "documentation", "parameters", "anonymous"]
  | elementaryTypeName => ["name", "typeDescriptions"]
  | userDefinedTypeName => ["name"]
  | functionTypeName => ["parameterTypes", "returnParameterTypes", "visibility", "constant",
      "payable", "stateMutability"]
  | mapping => ["keyType", "valueType"]
  | arrayTypeName => ["baseType", "length"]
  | inlineAssembly => ["operations", "externalReferences"]
  | block => ["statements"]
  | placeholderStatement | continueStatement | breakStatement | throwStatement => []
  | ifStatement => ["condition", "trueBody", "falseBody"]
  | whileStatement | doWhileStatement => ["condition", "body"]
  | forStatement => ["initializationExpression", "initExpression", "condition",
      "loopExpression", "body"]
  | returnStatement | expressionStatement => ["expression"]
  | emitStatement => ["eventCall"]
  | variableDeclarationStatement => ["declarations", "initialValue"]
  | conditional => ["condition", "trueExpression", "falseExpression"]
  | assignment => ["leftHandSide", "operator", "rightHandSide"]
  | tupleExpression => ["components", "isInlineArray"]
  | unaryOperation => ["operator", "subExpression", "prefix"]
  | binaryOperation => ["leftExpression", "operator", "rightExpression"]
  | functionCall => ["expression", "arguments", "names"]
  | newExpression | elementaryTypeNameExpression => ["typeName"]
  | memberAccess => ["expression", "memberName"]
  | indexAccess => ["baseExpression", "indexExpression"]
  | identifier => ["name"]
  | literal => ["kind", "token", "value", "hexValue", "subdenomination"]

/-- No form looks up the attributes, which are where it looks things up. -/
theorem NodeKind.attributes_not_mem_keys (kind : NodeKind) : "attributes" ∉ kind.keys := by
  cases kind <;> decide

theorem NodeKind.id_mem_keys (kind : NodeKind) : "id" ∈ kind.keys := List.mem_cons_self ..

/-- A question that looks up some keys only. -/
def Field.LooksUp (keys : List String) (field : Field) : Prop :=
  ∀ key ∈ field.structuralKeys ++ field.scalarKeys, key ∈ keys

namespace Form

open Opened OpenedWords

/-- The form of a kind asks about the keys of the kind. -/
theorem asks_keys (kind : NodeKind) :
    kind.form.Asks (Field.LooksUp kind.keys) fun _ => True := by
  cases kind <;>
    simp [Field.LooksUp, NodeKind.keys, Field.structuralKeys, Field.scalarKeys, Option.forall]

end Form

/-! ## The keys that are asked for -/

/-- A word that may stand wherever a node of a kind has to have a word. -/
def NodeKind.word : NodeKind → String
  | contractDefinition => "contract"
  | elementaryTypeName | elementaryTypeNameExpression => "bool"
  | assignment => "="
  | binaryOperation | unaryOperation => "-"
  | _ => "number"

/-- What a node answers that has one word wherever it has to have one, and of the words
that it may lack those under some keys only. -/
def Field.sparseAnswer (word : String) (present : List String) :
    (field : Field) → Except ImportError field.Answer
  | id | idOrZero => .ok 0
  | location | locationOrWhole => .ok ⟨"", ⟨0, 0⟩⟩
  | text _ | typeText => .ok word
  | text? key => .ok (if key ∈ present then some word else none)
  | flag _ => .ok false
  | flag? _ | documentation | child? _ _ => .ok none
  | typeString => .ok (some word)
  | holds _ | holdsObject _ => .ok false
  | texts _ | references | children _ _ | gappedChildren _ _ | aliases => .ok []
  | child _ _ => .ok (Node.bareIdentifier 0 ⟨"", ⟨0, 0⟩⟩ word)
  | elementaryChild _ => .error (.unknownKind word)

/-- The keys of a kind are just those under which its form may look something up. -/
theorem NodeKind.mem_keys_iff (kind : NodeKind) (key : String) :
    key ∈ kind.keys ↔ ∃ answers, ∃ field ∈ kind.form.asked answers,
      key ∈ field.structuralKeys ++ field.scalarKeys := by
  constructor
  · -- Without the words that a literal may lack, its form ends before the last questions.
    have sparse : ∀ key ∈ kind.keys, ∃ present ∈ [[], ["kind", "value"]],
        ∃ field ∈ kind.form.asked (Field.sparseAnswer kind.word present),
          key ∈ field.structuralKeys ++ field.scalarKeys := by
      cases kind <;> decide +kernel
    intro listed
    rcases sparse key listed with ⟨present, _, asked⟩
    exact ⟨_, asked⟩
  · rintro ⟨answers, field, asked, mentioned⟩
    exact (Form.asks_keys kind).of_asked field asked key mentioned

end ContractTree
