import ContractTree.Form.TypeName
import ContractTree.Proofs.Form.Represents
import ContractTree.Proofs.Represented.Attribute

namespace ContractTree

/-!
# Type names represent their document nodes
-/

namespace Form

variable {settings : Settings} {depth : Nat} {document : DocumentNode}

theorem scalar_typeWord : typeWord.Scalar settings depth document fun _ => True := by
  intro name _
  cases name with
  | some word => exact ⟨trivial, rfl⟩
  | none =>
    intro described _
    cases described with
    | some word => exact ⟨trivial, rfl⟩
    | none => trivial

theorem represent_elementaryTypeName (kind : document.kind = .elementaryTypeName) :
    elementaryTypeName.Represent settings depth document := by
  intro location placed
  simp only [done_bind]
  apply Ensures.bind scalar_typeWord
  rintro word here ⟨-, quiet⟩ id written
  apply Ensures.lift_bind
  intro type resolved
  refine .of_parts kind.symm written placed (Token.grammatical_of_resolveElementary resolved)
    trivial ?_ ?_
  · rw [DocumentNode.places, kind]
    rfl
  · simp [quiet, Field.places, nameType, Shape.parts, TypeName.parts]

theorem represent_userDefinedTypeName (kind : document.kind = .userDefinedTypeName) :
    userDefinedTypeName.Represent settings depth document := by
  intro location placed name _
  apply Ensures.lift_bind
  intro path read id written
  refine .of_parts kind.symm written placed (TypePath.valid_of_read read) trivial ?_ rfl
  rw [DocumentNode.places, kind]
  rfl

theorem represent_functionTypeName (kind : document.kind = .functionTypeName) :
    functionTypeName.Represent settings depth document := by
  apply Ensures.bind scalar_mutability
  rintro ⟨isDeclaredConst, isPayable⟩ mutabilityReads ⟨-, mutabilityQuiet⟩ id written location
    placed parameterTypes parametersStand returnTypes returnsStand
  simp only [done_bind]
  apply Ensures.bind scalar_visibility
  rintro visibility visibilityReads ⟨-, visibilityQuiet⟩
  refine .of_parts kind.symm written placed trivial ⟨parametersStand, returnsStand⟩ ?_ ?_
  · rw [DocumentNode.places, kind]
    rfl
  · simp [mutabilityQuiet, visibilityQuiet, Field.places, nameType, Shape.parts, TypeName.parts]

theorem represent_mapping (kind : document.kind = .mapping) :
    mapping.Represent settings depth document := by
  intro id written location placed keyType keyStands valueType valueStands
  refine .of_parts kind.symm written placed trivial ⟨keyStands, valueStands⟩ ?_ rfl
  rw [DocumentNode.places, kind]
  rfl

theorem represent_arrayTypeName (kind : document.kind = .arrayTypeName) :
    arrayTypeName.Represent settings depth document := by
  intro id written location placed baseType baseStands length lengthStands
  refine .of_parts kind.symm written placed trivial ⟨baseStands, lengthStands.1⟩ ?_ rfl
  rw [DocumentNode.places, kind]
  rfl

end Form
end ContractTree
