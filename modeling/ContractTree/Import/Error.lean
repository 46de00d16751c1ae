import ContractTree.Location
import ContractTree.Token.Class
import ContractTree.Token.Scan
import ContractTree.Tree.Category

namespace ContractTree

/-!
# Why an import fails

A failure is kept as its cause, and one function words it.  A defect is a cause by
itself: something is wrong with a node.  An error adds where: it names the kind of
the node and its identifier, as far as the document gives them.  Three causes need
no place, because they are told apart by what the document holds: an unknown tag,
a text that is not the required token, and a document that nests too deeply.

No two defects share their wording, so nothing is lost by wording them.
-/

/-- What a field has to hold. -/
inductive FieldType where
  | integer
  | string
  | boolean
  | array
  | stringList
  | node
  | documentation
  | typeText
  | aliasList
  | aliasForeign
  | aliasLocal
  | referenceList
  | referenceFields
  deriving DecidableEq, Repr

def FieldType.description : FieldType → String
  | integer => "an integer"
  | string => "a string"
  | boolean => "a boolean"
  | array => "an array"
  | stringList => "a list of strings"
  | node => "a node object"
  | documentation => "a string or a documentation node"
  | typeText => "a type string or an elementary type name"
  | aliasList => "a list of alias objects"
  | aliasForeign => "aliases with an identifier or name in `foreign`"
  | aliasLocal => "aliases with a string or null `local`"
  | referenceList => "a list of single-entry reference objects"
  | referenceFields => "references with integer and boolean fields"

/-- What is wrong with the fields of a node. -/
inductive SchemaReason where
  | missingField (key : String)
  | wrongType (key : String) (expected : FieldType)
  | invalidSourceRange (marker : String)
  | notAnObject
  deriving DecidableEq, Repr

def SchemaReason.message : SchemaReason → String
  | missingField key => s!"missing field `{key}`"
  | wrongType key expected => s!"field `{key}` should be {expected.description}"
  | invalidSourceRange marker => s!"invalid source range `{marker}`"
  | notAnObject => "expected a node object"

/-- Why a text is not the token that it should be. -/
inductive TokenReason where
  | scan (cause : ScanError)
  | wrongClass (expected : TokenClass) (found : Token)
  deriving DecidableEq, Repr

def TokenReason.message : TokenReason → String
  | scan cause => cause.message
  | wrongClass expected found => s!"expected {expected.description}, found `{found.text}`"

/-- How a node whose fields are of the right type may still be no node. -/
inductive Violation where
  | unknownVisibility (word : String)
  | unknownStorageLocation (word : String)
  | unknownContractKind (word : String)
  | unknownLiteralKind (word : String)
  | malformedPath (name : String)
  | argumentNames (names arguments : Nat)
  | missingChild (key : String) (expected : Category)
  | unexpectedChild (key : String) (expected : Category) (found : NodeKind)
  | emptyEntry (key : String)
  | duplicateId (id : NodeId)
  | notASourceUnit (found : NodeKind)
  deriving DecidableEq, Repr

def Violation.message : Violation → String
  | unknownVisibility word => s!"unknown visibility `{word}`"
  | unknownStorageLocation word => s!"unknown storage location `{word}`"
  | unknownContractKind word => s!"unknown contract kind `{word}`"
  | unknownLiteralKind word => s!"unknown literal kind `{word}`"
  | malformedPath name => s!"malformed type path `{name}`"
  | argumentNames names arguments => s!"{names} argument names for {arguments} arguments"
  | missingChild key expected => s!"missing required {expected.description} `{key}`"
  | unexpectedChild key expected found =>
    s!"`{key}`: expected {expected.description}, found {found.tag}"
  | emptyEntry key => s!"`{key}` has an empty entry"
  | duplicateId id => s!"duplicate node id {id.text}"
  | notASourceUnit found => s!"root is a {found.tag}, not a source unit"

/-- The node that an error is raised on, as far as it is known. -/
structure NodeContext where
  kind : Option NodeKind
  id : Option NodeId
  deriving DecidableEq, Repr

namespace NodeContext

/-- Nothing is known of the node. -/
def unknown : NodeContext := ⟨none, none⟩

def text : NodeContext → String
  | ⟨some kind, some id⟩ => s!"{kind.tag} {id.label}"
  | ⟨some kind, none⟩ => kind.tag
  | ⟨none, some id⟩ => s!"node {id.label}"
  | ⟨none, none⟩ => "node"

end NodeContext

inductive ImportError where
  | schemaViolation (node : NodeContext) (reason : SchemaReason)
  | unknownKind (tag : String)
  | invalidToken (text : String) (reason : TokenReason)
  | invariantViolation (node : NodeContext) (violation : Violation)
  | depthLimitExceeded (limit : Nat)
  deriving DecidableEq, Repr

def ImportError.message : ImportError → String
  | schemaViolation node reason => s!"schema violation in {node.text}: {reason.message}"
  | unknownKind tag => s!"unknown node kind `{tag}`"
  | invalidToken text reason => s!"invalid token `{text}`: {reason.message}"
  | invariantViolation node violation =>
    s!"invariant violation in {node.text}: {violation.message}"
  | depthLimitExceeded limit => s!"document nests deeper than {limit} levels"

/-- What is wrong with a node, without saying with which. -/
inductive Defect where
  | schema (reason : SchemaReason)
  | token (text : String) (reason : TokenReason)
  | violation (violation : Violation)
  deriving DecidableEq, Repr

namespace Defect

/-- The error that a defect of a node is. -/
def on (node : NodeContext) : Defect → ImportError
  | schema reason => .schemaViolation node reason
  | token text reason => .invalidToken text reason
  | violation cause => .invariantViolation node cause

def missing (key : String) : Defect := schema (.missingField key)

def wrongType (key : String) (expected : FieldType) : Defect := schema (.wrongType key expected)

end Defect
end ContractTree
