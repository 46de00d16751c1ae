import ContractTree.Proofs.Form.Questions
import ContractTree.Proofs.Form.Yields

namespace ContractTree

/-!
# Forms that are carried over

Two document nodes may say the same in different ways.  Then a form is not asked the same
questions for both, yet it leads to the same result.  One form is carried over to another
one if each result that the answers for the first node lead to is a result that the
answers for the second node lead to.

A part of a form that is answered alike for both nodes is carried over to itself.  Where
the answers differ, one follows the two forms apart, each through what its node answers,
until they meet again.
-/

namespace Form

variable {α β : Type} {given other : (field : Field) → field.Answer → Prop}

/-- A result that a form is filled in to is one that its questions lead to. -/
theorem yields_of_fill {document : DocumentNode}
    {answers : (field : Field) → Journal field.Answer} {form : Form α} {result : α}
    (filled : (form.fill document answers).result = .ok result) :
    form.Yields (fun field answer => (answers field).result = .ok answer) result := by
  induction form with
  | done last => exact Except.ok.inj filled
  | fail defect => cases filled
  | read field next ih =>
    rcases Journal.result_bind_eq_ok.1 filled with ⟨answer, answered, rest⟩
    exact .read answered (ih answer rest)

/-- A form that goes on after a part of it goes on from a result of that part. -/
theorem Yields.of_bind {possible : (field : Field) → field.Answer → Prop} {form : Form α}
    {next : α → Form β} {result : β} (yields : (form >>= next).Yields possible result) :
    ∃ middle, form.Yields possible middle ∧ (next middle).Yields possible result := by
  induction form with
  | done middle => exact ⟨middle, rfl, yields⟩
  | fail defect => exact yields.elim
  | read field branch ih =>
    rcases yields with ⟨answer, answered, rest⟩
    rcases ih answer rest with ⟨middle, first, later⟩
    exact ⟨middle, .read answered first, later⟩

/-- All that the answers for one node lead to, the answers for another node lead to. -/
def Carries (given other : (field : Field) → field.Answer → Prop) (form image : Form α) : Prop :=
  ∀ result, form.Yields given result → image.Yields other result

namespace Carries

/-- A form is carried over if all its questions are answered for the other node as for the
first one. -/
theorem of_asks {property : Field → Prop}
    (same : ∀ field, property field → ∀ answer, given field answer → other field answer)
    {form : Form α} (asks : form.Asks property fun _ => True) : Carries given other form form := by
  induction form with
  | done last => exact fun _ yields => yields
  | fail defect => exact fun _ yields => yields
  | read field next ih =>
    rintro result ⟨answer, answered, rest⟩
    exact .read (same field asks.1 answer answered) (ih answer (asks.2 answer) result rest)

/-- A result that is there asks nothing. -/
theorem done (result : α) : Carries given other (Form.done result) (Form.done result) :=
  fun _ same => same

/-- What is checked in between asks nothing. -/
theorem lift (checked : Checked α) :
    Carries given other (liftM checked : Form α) (liftM checked) := by
  cases checked <;> exact fun _ same => same

theorem bind {form image : Form α} {next following : α → Form β}
    (first : Carries given other form image)
    (rest : ∀ result, Carries given other (next result) (following result)) :
    Carries given other (form >>= next) (image >>= following) := by
  intro result yields
  rcases yields.of_bind with ⟨middle, here, later⟩
  exact (first middle here).bind (rest middle result later)

/-- What the first form asks is known. -/
theorem known {field : Field} {answer : field.Answer}
    (only : ∀ found, given field found → found = answer) {next : field.Answer → Form α}
    {image : Form α} (rest : Carries given other (next answer) image) :
    Carries given other (Bind.bind (α := no_index field.Answer) (ask field) next) image := by
  rintro result ⟨found, answered, later⟩
  rw [only found answered] at later
  exact rest result later

/-- What the second form asks is answered. -/
theorem told {field : Field} {answer : field.Answer} (answered : other field answer)
    {form : Form α} {following : field.Answer → Form α}
    (rest : Carries given other form (following answer)) :
    Carries given other form
      (Bind.bind (α := no_index field.Answer) (ask field) following) :=
  fun result yields => .read answered (rest result yields)

theorem children {key name : String} {category : Category}
    (same : ∀ answer, given (.children key category) answer →
      other (.children name category) answer) :
    Carries given other (Form.children key category) (Form.children name category) := by
  rintro result ⟨answer, answered, rest⟩
  exact .read (same answer answered) rest

theorem child? {key name : String} {category : Category}
    (same : ∀ answer, given (.child? key category) answer → other (.child? name category) answer) :
    Carries given other (Form.child? key category) (Form.child? name category) := by
  rintro result ⟨answer, answered, rest⟩
  exact .read (same answer answered) rest

end Carries
end Form
end ContractTree
