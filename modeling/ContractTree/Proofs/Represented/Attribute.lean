import ContractTree.Form.Attribute
import ContractTree.Proofs.Form.Represents

namespace ContractTree

/-!
# Attributes ask about no place
-/

namespace Form

variable {settings : Settings} {depth : Nat} {document : DocumentNode}

theorem scalar_mutability : mutability.Scalar settings depth document fun _ => True := by
  intro state _ isConstant _ isPayable _
  exact ⟨trivial, rfl⟩

theorem scalar_visibility : visibility.Scalar settings depth document fun _ => True := by
  intro word _
  cases word with
  | some text => exact ensures_lift.2 fun _ _ => ⟨trivial, rfl⟩
  | none => exact ⟨trivial, rfl⟩

theorem scalar_storageLocation :
    storageLocation.Scalar settings depth document fun _ => True := by
  intro word _
  cases word with
  | some text => exact ensures_lift.2 fun _ _ => ⟨trivial, rfl⟩
  | none =>
    intro older _
    cases older with
    | some text => exact ensures_lift.2 fun _ _ => ⟨trivial, rfl⟩
    | none => exact ⟨trivial, rfl⟩

end Form
end ContractTree
