import ContractTree.Import.Error
import ContractTree.Json.Basic

namespace ContractTree

/-!
# Tags

A document says what kind a node is by a tag under one of three keys.  The key
`nodeType` holds nothing but tags, so a string there decides, supported or not.
The keys `name` and `kind` are also ordinary fields, so they are asked only if no
string stands under `nodeType`, and a string there is passed over if it names no
kind.
-/

/-- The keys under which a tag may stand. -/
inductive TagKey where
  | nodeType
  | name
  | kind
  deriving DecidableEq, Repr

namespace TagKey

def text : TagKey → String
  | nodeType => "nodeType"
  | name => "name"
  | kind => "kind"

/-- The string under a key. -/
def string? (members : Members) (key : TagKey) : Option String :=
  (members.find? key.text).bind Json.asString?

/-- The kind that the string under a key names. -/
def kind? (members : Members) (key : TagKey) : Option NodeKind :=
  (key.string? members).bind NodeKind.ofTag?

/-- The identifier that stands beside the tag, for errors about a missing tag. -/
def idBeside? (members : Members) : Option NodeId :=
  ((members.find? "id").bind Json.asInt?).bind NodeId.ofInt?

/-- The kind of a node and the key that its tag stands under. -/
def resolve (members : Members) : Except ImportError (NodeKind × TagKey) :=
  match nodeType.string? members with
  | some tag =>
    match NodeKind.ofTag? tag with
    | some found => .ok (found, nodeType)
    | none => .error (.unknownKind tag)
  | none =>
    match name.kind? members with
    | some found => .ok (found, name)
    | none =>
      match kind.kind? members with
      | some found => .ok (found, kind)
      | none =>
        match (name.string? members).or (kind.string? members) with
        | some tag => .error (.unknownKind tag)
        | none => .error (.schemaViolation ⟨none, idBeside? members⟩ (.missingField "nodeType"))

end TagKey
end ContractTree
