import ContractTree.Token.Basic
import ContractTree.Tree.Attribute
import ContractTree.Tree.Slot

namespace ContractTree

/-!
# Type names

Types as they are written in declarations.
-/

inductive TypeName (α : Type) where
  | elementary (type : ElementaryType)
  /-- A contract, a struct or an enum by the segments of its dotted name. -/
  | userDefined (path : List String)
  | function (parameterTypes returnTypes : α) (visibility : Visibility)
      (isDeclaredConst isPayable : Bool)
  | mapping (keyType valueType : α)
  /-- An array without a length is of dynamic size. -/
  | array (baseType : α) (length : Option α)
  deriving DecidableEq, Repr

namespace TypeName

variable {α β : Type}

def kind : TypeName α → NodeKind
  | elementary .. => .elementaryTypeName
  | userDefined .. => .userDefinedTypeName
  | function .. => .functionTypeName
  | mapping .. => .mapping
  | array .. => .arrayTypeName

/-- The places of a type name in the order of traversal.  The key of a mapping is
elementary. -/
def parts : TypeName α → List (Part α)
  | elementary _ => []
  | userDefined _ => []
  | function parameterTypes returnTypes _ _ _ =>
    [⟨"parameterTypes", .parameterList, .one parameterTypes⟩,
      ⟨"returnParameterTypes", .parameterList, .one returnTypes⟩]
  | mapping keyType valueType =>
    [⟨"keyType", .elementaryTypeName, .one keyType⟩, ⟨"valueType", .typeName, .one valueType⟩]
  | array baseType length =>
    [⟨"baseType", .typeName, .one baseType⟩, ⟨"length", .expression, .maybe length⟩]

def map (f : α → β) : TypeName α → TypeName β
  | elementary type => elementary type
  | userDefined path => userDefined path
  | function parameterTypes returnTypes visibility isDeclaredConst isPayable =>
    function (f parameterTypes) (f returnTypes) visibility isDeclaredConst isPayable
  | mapping keyType valueType => mapping (f keyType) (f valueType)
  | array baseType length => array (f baseType) (length.map f)

theorem kind_map (f : α → β) (shape : TypeName α) : (shape.map f).kind = shape.kind := by
  cases shape <;> rfl

theorem parts_map (f : α → β) (shape : TypeName α) :
    (shape.map f).parts = shape.parts.map (Part.map f) := by
  cases shape <;> rfl

theorem sizeOf_slot_le [SizeOf α] (shape : TypeName α) :
    ∀ part ∈ shape.parts, sizeOf part.slot ≤ sizeOf shape := by
  cases shape <;> simp [parts]
  omega

/-- A type name is determined by its outline and the contents of its places. -/
theorem eq_of_map_eq {f : α → β} {first second : TypeName α}
    (outline : first.map f = second.map f) (same : first.parts = second.parts) :
    first = second := by
  cases first <;> cases second <;> simp only [map, reduceCtorEq] at outline
  all_goals simp_all [parts]

end TypeName
end ContractTree
