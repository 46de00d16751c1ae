import ContractTree.Proofs.Conversion.Answers

namespace ContractTree

/-!
# What a form reads

A form that is filled in successfully has asked some questions, in some order, and
each has been answered.  `Form.Ensures` states a property of the result and of
these reads for all the ways in which the form may be filled in with answers of a
certain sort.  For a given form it unfolds to a statement without any monad, with
one quantifier for each question.

The property then holds of the result that a journal of the form has, and the
events of the journal are the events of the answers in the order of the reads.
-/

/-- A question with its answer. -/
structure Answered where
  field : Field
  answer : field.Answer

namespace Form

variable {α β : Type} {possible : (field : Field) → field.Answer → Prop}

/-- Whatever possible answers a form is filled in with, its result and its reads
have a property. -/
def Ensures (possible : (field : Field) → field.Answer → Prop) :
    Form α → (α → List Answered → Prop) → Prop
  | done result, property => property result []
  | fail _, _ => True
  | read field next, property => ∀ answer, possible field answer →
      (next answer).Ensures possible fun result later => property result (⟨field, answer⟩ :: later)

@[simp] theorem ensures_pure {result : α} {property : α → List Answered → Prop} :
    (pure result : Form α).Ensures possible property ↔ property result [] := Iff.rfl

@[simp] theorem ensures_done {result : α} {property : α → List Answered → Prop} :
    (done result).Ensures possible property ↔ property result [] := Iff.rfl

@[simp] theorem ensures_fail {defect : Defect} {property : α → List Answered → Prop} :
    (fail defect).Ensures possible property ↔ True := Iff.rfl

@[simp] theorem ensures_ask {field : Field} {property : field.Answer → List Answered → Prop} :
    Ensures (α := no_index field.Answer) possible (ask field) property ↔
      ∀ answer, possible field answer → property answer [⟨field, answer⟩] := Iff.rfl

@[simp] theorem ensures_bind {form : Form α} {next : α → Form β}
    {property : β → List Answered → Prop} :
    (form >>= next).Ensures possible property ↔
      form.Ensures possible fun result here =>
        (next result).Ensures possible fun last later => property last (here ++ later) := by
  induction form generalizing property with
  | done result => rfl
  | fail defect => rfl
  | read field rest ih =>
    constructor
    · intro ensured answer given
      exact ih answer |>.1 (ensured answer given)
    · intro ensured answer given
      exact ih answer |>.2 (ensured answer given)

@[simp] theorem ensures_formBind {form : Form α} {next : α → Form β}
    {property : β → List Answered → Prop} :
    (form.bind next).Ensures possible property ↔
      form.Ensures possible fun result here =>
        (next result).Ensures possible fun last later => property last (here ++ later) :=
  ensures_bind

/-- What has been checked reads nothing. -/
@[simp] theorem ensures_lift {checked : Checked α} {property : α → List Answered → Prop} :
    (liftM checked : Form α).Ensures possible property ↔
      ∀ result, checked = .ok result → property result [] := by
  cases checked with
  | ok result =>
    constructor
    · rintro holds _ ⟨⟩
      exact holds
    · intro holds
      exact holds result rfl
  | error defect => exact iff_of_true trivial (fun _ impossible => nomatch impossible)

theorem done_bind (result : α) (next : α → Form β) : (done result).bind next = next result := rfl

/-- What a part of a form ensures is known in the rest of it. -/
theorem Ensures.bind {form : Form α} {next : α → Form β} {middle : α → List Answered → Prop}
    {property : β → List Answered → Prop} (first : form.Ensures possible middle)
    (rest : ∀ result here, middle result here →
      (next result).Ensures possible fun last later => property last (here ++ later)) :
    (form >>= next).Ensures possible property := by
  induction form generalizing middle property with
  | done result => exact rest result [] first
  | fail defect => trivial
  | read field branch ih =>
    intro answer given
    exact ih answer (first answer given) fun result here known =>
      rest result (⟨field, answer⟩ :: here) known

/-- What is checked in between may be taken to succeed. -/
theorem Ensures.lift_bind {checked : Checked α} {next : α → Form β}
    {property : β → List Answered → Prop}
    (rest : ∀ result, checked = .ok result → (next result).Ensures possible property) :
    (liftM checked >>= next).Ensures possible property := by
  cases checked with
  | ok result => exact rest result rfl
  | error defect => trivial

@[simp] theorem ensures_mapM_lift {γ : Type} {check : γ → Checked α} {items : List γ}
    {property : List α → List Answered → Prop} :
    (items.mapM fun item => (liftM (check item) : Form α)).Ensures possible property ↔
      ∀ results, items.mapM check = .ok results → property results [] := by
  induction items generalizing property with
  | nil =>
    constructor
    · rintro holds _ ⟨⟩
      exact holds
    · intro holds
      exact holds [] rfl
  | cons item rest ih =>
    rw [List.mapM_cons, List.mapM_cons]
    cases here : check item with
    | error defect => exact iff_of_true trivial (fun _ impossible => nomatch impossible)
    | ok result =>
      simp only [ensures_bind, ensures_lift, Except.ok.injEq, forall_eq', List.nil_append, ih,
        ensures_pure]
      cases rest.mapM check with
      | error defect =>
        exact iff_of_true (fun _ impossible => nomatch impossible)
          (fun _ impossible => nomatch impossible)
      | ok results =>
        constructor
        · rintro holds _ ⟨⟩
          exact holds results rfl
        · rintro holds _ ⟨⟩
          exact holds _ rfl

theorem ensures_trivial (form : Form α) : form.Ensures possible fun _ _ => True := by
  induction form with
  | done result => trivial
  | fail defect => trivial
  | read field next ih => exact fun answer _ => ih answer

/-- The questions that a form asks, up to the first one without an answer. -/
def asked (answers : (field : Field) → Except ImportError field.Answer) : Form α → List Field
  | done _ | fail _ => []
  | read field next =>
    field :: match answers field with
      | .ok answer => (next answer).asked answers
      | .error _ => []

/-- A property that is ensured holds of what a form is filled in to, and of the reads of
just those questions that the form asks. -/
theorem Ensures.of_fill {document : DocumentNode}
    {answers : (field : Field) → Journal field.Answer}
    (given : ∀ field answer, (answers field).result = .ok answer → possible field answer)
    {form : Form α} {property : α → List Answered → Prop}
    (ensured : form.Ensures possible property) {result : α}
    (filled : (form.fill document answers).result = .ok result) :
    ∃ reads : List Answered, property result reads ∧
      (∀ read ∈ reads, (answers read.field).result = .ok read.answer) ∧
      (form.fill document answers).events =
        (reads.flatMap fun read => (answers read.field).events) ∧
      form.asked (fun field => (answers field).result) = reads.map Answered.field := by
  induction form generalizing property with
  | done last =>
    cases filled
    exact ⟨[], ensured, fun _ member => (List.not_mem_nil member).elim, rfl, rfl⟩
  | fail defect => cases filled
  | read field next ih =>
    rcases Journal.result_bind_eq_ok.1 filled with ⟨answer, answered, rest⟩
    rcases ih answer (ensured answer (given field answer answered)) rest with
      ⟨later, holds, each, events, asked⟩
    refine ⟨⟨field, answer⟩ :: later, holds, ?_, ?_, ?_⟩
    · intro read member
      rcases List.mem_cons.1 member with rfl | after
      · exact answered
      · exact each read after
    · change (answers field >>= _).events = _
      rw [Journal.events_bind_of_ok answered, List.flatMap_cons, events]
    · rw [Form.asked, answered]
      exact congrArg (field :: ·) asked

end Form
end ContractTree
