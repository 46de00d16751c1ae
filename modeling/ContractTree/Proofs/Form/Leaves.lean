import ContractTree.Import.Answer

namespace ContractTree

/-!
# Forms of one document node

A question about what stands in the document node itself is answered by a reader, and a form
goes on with what was read or ends with the defect that was met.  A form with no other
questions converts nothing, so its plan is a result or a failure.
-/

namespace Form

variable {α : Type} {settings : Settings} {document : DocumentNode}

section Ask

variable {field : Field} {checked : Checked field.Answer} {next : field.Answer → Form α}
  (planned : field.plan settings document = .ofChecked document checked)

include planned

/-- A form goes on with what has been read. -/
theorem plan_ask_of_ok {answer : field.Answer} (read : checked = .ok answer) :
    (ask field >>= next).plan settings document = (next answer).plan settings document := by
  change ((field.plan settings document).bind _ : Plan document.height α) = _
  rw [planned, read]
  rfl

/-- A form ends with a defect that has been met. -/
theorem plan_ask_of_error {defect : Defect} (read : checked = .error defect) :
    (ask field >>= next).plan settings document = .fail (defect.on document.context) := by
  change ((field.plan settings document).bind _ : Plan document.height α) = _
  rw [planned, read]
  rfl

end Ask
end Form
end ContractTree
