import ContractTree.Form.Kind
import ContractTree.Proofs.Document.Positions
import ContractTree.Proofs.Form.Reads

namespace ContractTree

/-!
# The questions of a form

Whatever a form is answered, it asks certain questions only: a form of a kind asks for
children where nodes of the kind have them, for lists of children where they have
lists, and for scalars elsewhere.  It never asks for a tag under `nodeType` or for the
attributes, and what it asks for under the other keys of tags is a scalar.
-/

/-- A question that the form of a kind may ask. -/
def Field.Fits (kind : NodeKind) : Field → Prop
  | id | location | documentation | references | typeText => True
  | idOrZero | locationOrWhole => kind = .sourceUnit
  | typeString => kind = .elementaryTypeName
  | holdsObject key => kind = .elementaryTypeNameExpression ∧ key = "typeName"
  | text key | text? key | flag key | flag? key =>
    kind.position key = .plain ∧ key ∉ ["nodeType", "attributes"]
  | texts key => kind.position key = .plain ∧ key ∉ reservedKeys
  | holds key => key ∉ reservedKeys
  | child key _ | child? key _ | elementaryChild key => kind.position key = .node
  | children key _ | gappedChildren key _ => kind.position key = .nodes
  | aliases => kind.position "symbolAliases" = .symbolAliases

namespace Form

variable {α β γ : Type} {property : Field → Prop}

/-- Whatever the answers are, the questions of a form have a property, and so has its
result. -/
def Asks (property : Field → Prop) : Form α → (α → Prop) → Prop
  | done result, good => good result
  | fail _, _ => True
  | read field next, good => property field ∧ ∀ answer, (next answer).Asks property good

@[simp] theorem asks_pure {result : α} {good : α → Prop} :
    (pure result : Form α).Asks property good ↔ good result := Iff.rfl

@[simp] theorem asks_done {result : α} {good : α → Prop} :
    (done result).Asks property good ↔ good result := Iff.rfl

@[simp] theorem asks_fail {defect : Defect} {good : α → Prop} :
    (fail defect).Asks property good ↔ True := Iff.rfl

@[simp] theorem asks_ask {field : Field} {good : field.Answer → Prop} :
    Asks (α := no_index field.Answer) property (ask field) good ↔
      property field ∧ ∀ answer, good answer := Iff.rfl

@[simp] theorem asks_bind {form : Form α} {next : α → Form β} {good : β → Prop} :
    (form >>= next).Asks property good ↔
      form.Asks property fun result => (next result).Asks property good := by
  induction form with
  | done result => rfl
  | fail defect => rfl
  | read field rest ih => exact and_congr_right fun _ => forall_congr' ih

@[simp] theorem asks_formBind {form : Form α} {next : α → Form β} {good : β → Prop} :
    (form.bind next).Asks property good ↔
      form.Asks property fun result => (next result).Asks property good :=
  asks_bind

/-- What is checked in between asks nothing. -/
@[simp] theorem asks_lift {checked : Checked α} {good : α → Prop} :
    (liftM checked : Form α).Asks property good ↔ ∀ result, checked = .ok result → good result := by
  cases checked with
  | ok result =>
    constructor
    · rintro holds _ ⟨⟩
      exact holds
    · intro holds
      exact holds result rfl
  | error defect => exact iff_of_true trivial (fun _ impossible => nomatch impossible)

@[simp] theorem asks_map {form : Form α} {change : α → β} {good : β → Prop} :
    (change <$> form).Asks property good ↔
      form.Asks property fun result => good (change result) := by
  rw [map_eq_pure_bind, asks_bind]
  rfl

@[simp] theorem asks_mapM_lift {check : γ → Checked α} {items : List γ} :
    (items.mapM fun item => (liftM (check item) : Form α)).Asks property (fun _ => True) ↔
      True := by
  refine iff_true_intro ?_
  induction items with
  | nil => trivial
  | cons item rest ih =>
    rw [List.mapM_cons, asks_bind, asks_lift]
    intro result _
    exact asks_bind.2 ih

/-- What is true of all questions is true of those that are asked. -/
theorem Asks.of_asked {form : Form α} {good : α → Prop} (asks : form.Asks property good)
    {answers : (field : Field) → Except ImportError field.Answer} :
    ∀ field ∈ form.asked answers, property field := by
  induction form with
  | done result => exact fun _ member => (List.not_mem_nil member).elim
  | fail defect => exact fun _ member => (List.not_mem_nil member).elim
  | read first next ih =>
    intro field member
    rw [asked] at member
    rcases List.mem_cons.1 member with rfl | later
    · exact asks.1
    · cases answered : answers first with
      | ok answer =>
        rw [answered] at later
        exact ih answer (asks.2 answer) field later
      | error cause =>
        rw [answered] at later
        cases later

/-! ## Parts of forms that ask nothing -/

@[simp] theorem asks_checkNames {names : List String} {arguments : List Node} :
    (checkNames names arguments).Asks property (fun _ => True) ↔ True := by
  refine iff_true_intro ?_
  unfold checkNames
  split <;> trivial

@[simp] theorem asks_checkValue {token : Token} {value hexValue : Option String} :
    (checkValue token value hexValue).Asks property (fun _ => True) ↔ True := by
  refine iff_true_intro ?_
  unfold checkValue
  split <;> trivial

@[simp] theorem asks_literalToken {word : String} {value : Option String} :
    (literalToken word value).Asks property (fun _ => True) ↔ True := by
  refine iff_true_intro ?_
  have boolean : ∀ text, (liftM (Token.resolveIn .boolean text) : Form Token).Asks property
      fun _ => True := fun text => asks_lift.2 fun _ _ => trivial
  unfold literalToken
  repeat' split
  case h_1 text => exact boolean text
  all_goals trivial

/-! ## The questions of each kind -/

open Opened OpenedWords

/-- The form of a kind asks no question but those that fit the kind.  Each form is
followed through all of its answers, and its keys are looked up among the positions of
the kind. -/
theorem asks_form (kind : NodeKind) : kind.form.Asks (Field.Fits kind) fun _ => True := by
  cases kind <;>
    simp [Field.Fits, reservedKeys, NodeKind.position, NodeKind.positions, List.lookup_cons,
      List.lookup_nil, Option.forall]

end Form
end ContractTree
