import ContractTree.Proofs.Form.Reads

namespace ContractTree

/-!
# What a form yields

A form yields a result if its questions, in the order in which they are asked, have
possible answers that lead to this result.  Where `Form.Ensures` is about all
answers that may be given, this is about some that are.  If they are given, then the
form is filled in to the result.
-/

namespace Form

variable {α β : Type} {possible : (field : Field) → field.Answer → Prop}

/-- Some possible answers lead to a result. -/
def Yields (possible : (field : Field) → field.Answer → Prop) : Form α → α → Prop
  | done result, wanted => result = wanted
  | fail _, _ => False
  | read field next, wanted => ∃ answer, possible field answer ∧
      (next answer).Yields possible wanted

namespace Yields

/-- A question is passed with a possible answer to it. -/
theorem read {field : Field} {next : field.Answer → Form α} {answer : field.Answer} {wanted : α}
    (given : possible field answer) (rest : (next answer).Yields possible wanted) :
    (Form.read field next).Yields possible wanted :=
  ⟨answer, given, rest⟩

theorem bind {form : Form α} {next : α → Form β} {middle : α} {wanted : β}
    (first : form.Yields possible middle) (rest : (next middle).Yields possible wanted) :
    (form >>= next).Yields possible wanted := by
  induction form with
  | done result =>
    cases first
    exact rest
  | fail defect => exact first.elim
  | read field branch ih =>
    rcases first with ⟨answer, given, later⟩
    exact read given (ih answer later)

/-- What is checked in between has to succeed. -/
theorem lift {checked : Checked α} {result : α} (succeeds : checked = .ok result) :
    (liftM checked : Form α).Yields possible result := by
  rw [succeeds]
  rfl

theorem mapM_lift {γ : Type} {check : γ → Checked α} {items : List γ} {results : List α}
    (succeeds : items.map check = results.map .ok) :
    (items.mapM fun item => (liftM (check item) : Form α)).Yields possible results := by
  induction items generalizing results with
  | nil =>
    cases List.map_eq_nil_iff.1 succeeds.symm
    rfl
  | cons item rest ih =>
    cases results with
    | nil => cases succeeds
    | cons result later =>
      have first := List.cons.inj succeeds
      rw [List.mapM_cons]
      exact bind (lift first.1) (bind (ih first.2) rfl)

/-- A form is filled in to what it yields. -/
theorem fill {document : DocumentNode} {answers : (field : Field) → Journal field.Answer}
    (given : ∀ field answer, possible field answer → (answers field).result = .ok answer)
    {form : Form α} {wanted : α} (yields : form.Yields possible wanted) :
    (form.fill document answers).result = .ok wanted := by
  induction form with
  | done result => exact congrArg Except.ok yields
  | fail defect => exact yields.elim
  | read field next ih =>
    rcases yields with ⟨answer, possible, rest⟩
    exact Journal.result_bind_eq_ok.2 ⟨answer, given field answer possible, ih answer rest⟩

end Yields
end Form
end ContractTree
