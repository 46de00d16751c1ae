import ContractTree.Proofs.Conversion.Answers
import ContractTree.Proofs.Form.Questions
import ContractTree.Proofs.Tree.Replaced

namespace ContractTree

/-!
# Forms that are filled in twice

A form may be filled in with answers that differ in the nodes that they hold, and only
in these.  Then it asks the same questions both times, and the results differ in the
nodes only: forms pass children on and look at none of them.  The one exception is a
type that is read off a child.
-/

/-- Answers that differ in their nodes only. -/
def Field.Parallel : (field : Field) → field.Answer → field.Answer → Prop
  | child _ _, _, _ => True
  | child? _ _, first, second => first.isSome = second.isSome
  | children _ _, first, second => second.map (fun _ => ()) = first.map fun _ => ()
  | gappedChildren _ _, first, second =>
    second.map (Option.map fun _ => ()) = first.map (Option.map fun _ => ())
  | elementaryChild _, _, _ => True
  | aliases, first, second =>
    second.map (SymbolAlias.map fun _ => ()) = first.map (SymbolAlias.map fun _ => ())
  | _, first, second => first = second

/-- A question about a word or a flag that may be missing. -/
def Field.IsWord : Field → Prop
  | text? _ | flag? _ | typeString => True
  | _ => False

theorem Field.parallel_self (field : Field) (answer : field.Answer) :
    field.Parallel answer answer := by
  cases field <;> first | rfl | trivial

theorem Field.parallel_iff_of_isWord {field : Field} (word : field.IsWord)
    (first second : field.Answer) : field.Parallel first second ↔ first = second := by
  cases field <;> first | exact Iff.rfl | exact word.elim

/-- Answers that are the same, but for the type of a child, which is there. -/
def Field.Retyped (before after : ElementaryType) :
    (field : Field) → field.Answer → field.Answer → Prop
  | elementaryChild _, first, second => first = before ∧ second = after
  | holdsObject _, first, second => first = true ∧ second = true
  | _, first, second => first = second

theorem SymbolAlias.outline_comp_map {α β : Type} (f : α → β) :
    (SymbolAlias.map fun _ => ()) ∘ SymbolAlias.map f = SymbolAlias.map fun _ => () := rfl

namespace Form

variable {α β γ : Type} {related : (field : Field) → field.Answer → field.Answer → Prop}

/-- Two forms ask the same as long as their answers are related, and then their results
are. -/
def Parallel (related : (field : Field) → field.Answer → field.Answer → Prop) :
    Form α → Form β → (α → β → Prop) → Prop
  | done first, other, good => ∃ second, other = done second ∧ good first second
  | fail defect, other, _ => other = fail defect
  | read field next, other, good => ∃ following, other = read field following ∧
      ∀ first second, related field first second →
        (next first).Parallel related (following second) good

theorem parallel_done {first : α} {second : β} {good : α → β → Prop} :
    (done first).Parallel related (done second) good ↔ good first second := by
  constructor
  · rintro ⟨_, ⟨⟩, holds⟩
    exact holds
  · intro holds
    exact ⟨second, rfl, holds⟩

theorem parallel_pure {first : α} {second : β} {good : α → β → Prop} :
    (pure first : Form α).Parallel related (pure second) good ↔ good first second :=
  parallel_done

theorem parallel_ask_bind {field : Field} {next : field.Answer → Form α}
    {following : field.Answer → Form β} {good : α → β → Prop} :
    Parallel related (Bind.bind (α := no_index field.Answer) (ask field) next)
        (Bind.bind (α := no_index field.Answer) (ask field) following) good ↔
      ∀ first second, related field first second →
        (next first).Parallel related (following second) good := by
  constructor
  · rintro ⟨_, ⟨⟩, rest⟩
    exact rest
  · intro rest
    exact ⟨following, rfl, rest⟩

/-- A part of a form that asks for words ends in the same way for both. -/
theorem parallel_words_bind
    (equal : ∀ field : Field, field.IsWord → ∀ first second, related field first second ↔
      first = second)
    {form : Form γ} (words : form.Asks Field.IsWord fun _ => True) {next : γ → Form α}
    {following : γ → Form β} {good : α → β → Prop} :
    (form >>= next).Parallel related (form >>= following) good ↔
      form.Asks (fun _ => True) fun result =>
        (next result).Parallel related (following result) good := by
  induction form with
  | done result => rfl
  | fail defect => exact iff_true_intro rfl
  | read field rest ih =>
    have same := equal field words.1
    constructor
    · rintro ⟨_, ⟨⟩, later⟩
      exact ⟨trivial, fun answer =>
        (ih answer (words.2 answer)).1 (later answer answer ((same answer answer).2 rfl))⟩
    · rintro ⟨_, later⟩
      refine ⟨_, rfl, fun first second agrees => ?_⟩
      rw [(same first second).1 agrees]
      exact (ih second (words.2 second)).2 (later second)

theorem parallel_checkNames_bind {names : List String} {first second : List Node}
    (same : second.map (fun _ => ()) = first.map fun _ => ()) {next : Unit → Form α}
    {following : Unit → Form β} {good : α → β → Prop} :
    (checkNames names first >>= next).Parallel related (checkNames names second >>= following)
        good ↔
      ((names = [] ∨ names.length = first.length) →
        (next ()).Parallel related (following ()) good) := by
  have lengths : second.length = first.length := by
    rw [← List.length_map fun _ => (), same, List.length_map]
  unfold checkNames
  rw [lengths]
  split
  · next holds => exact (imp_iff_right holds).symm
  · next fails => exact iff_of_true rfl fun holds => absurd holds fails

/-- A form is parallel to itself if its answers are the same. -/
theorem parallel_refl {same : (field : Field) → field.Answer → field.Answer → Prop}
    (equal : ∀ field first second, same field first second → first = second) (form : Form α) :
    form.Parallel same form Eq := by
  induction form with
  | done result => exact ⟨result, rfl, rfl⟩
  | fail defect => rfl
  | read field next ih =>
    refine ⟨next, rfl, fun first second agrees => ?_⟩
    rw [equal field first second agrees]
    exact ih second

/-- Filling in parallel forms with related answers gives related results.  The second
form fails if one of its questions is answered with a failure. -/
theorem Parallel.of_fill {document : DocumentNode} (image : DocumentNode)
    {answers others : (field : Field) → Journal field.Answer} {property : Field → Prop}
    {fails : ImportError → Prop}
    (answered : ∀ field, property field → ∀ answer, (answers field).result = .ok answer →
      (∃ other, (others field).result = .ok other ∧ related field answer other) ∨
        ∃ cause, fails cause ∧ (others field).result = .error cause)
    {form : Form α} {other : Form β} {good : α → β → Prop} {any : α → Prop}
    (parallel : form.Parallel related other good) (asks : form.Asks property any) {result : α}
    (filled : (form.fill document answers).result = .ok result) :
    (∃ second, (other.fill image others).result = .ok second ∧ good result second) ∨
      ∃ cause, fails cause ∧ (other.fill image others).result = .error cause := by
  induction form generalizing other with
  | done first =>
    rcases parallel with ⟨second, rfl, holds⟩
    cases filled
    exact .inl ⟨second, rfl, holds⟩
  | fail defect => cases filled
  | read field next ih =>
    rcases parallel with ⟨following, rfl, rest⟩
    rcases Journal.result_bind_eq_ok.1 filled with ⟨answer, given, later⟩
    rw [fill, Journal.result_bind]
    rcases answered field asks.1 answer given with
      ⟨second, found, agrees⟩ | ⟨cause, isFailure, found⟩
    · rw [found]
      exact ih answer (rest answer second agrees) (asks.2 answer) later
    · rw [found]
      exact .inr ⟨cause, isFailure, rfl⟩

/-! ## The forms of all kinds -/

theorem parallel_elementaryTypeNameExpression (before after : ElementaryType) :
    elementaryTypeNameExpression.Parallel (Field.Retyped before after)
      elementaryTypeNameExpression fun first second => ∃ id location,
        first = express id location (.elementaryTypeName before) ∧
          second = express id location (.elementaryTypeName after) := by
  simp [-bind_pure_comp, elementaryTypeNameExpression, expressedType, Form.id, location, express,
    parallel_ask_bind, parallel_pure, Field.Retyped]

/-- The questions about an expression whose type is given by a node. -/
theorem asks_elementaryTypeNameExpression :
    elementaryTypeNameExpression.Asks (fun field => field ∈ [.location, .holdsObject "typeName",
      .elementaryChild "typeName", .typeText, .id]) fun _ => True := by
  simp [elementaryTypeNameExpression, expressedType, Form.id, location]

/-! ## Parts of forms that ask for words -/

@[simp] theorem asks_words_mutability : mutability.Asks Field.IsWord fun _ => True := by
  simp [mutability, text?, flag?, Field.IsWord]

@[simp] theorem asks_words_visibility : visibility.Asks Field.IsWord fun _ => True := by
  simp [visibility, text?, Option.forall, Field.IsWord]

@[simp] theorem asks_words_storageLocation : storageLocation.Asks Field.IsWord fun _ => True := by
  simp [storageLocation, text?, Option.forall, Field.IsWord]

@[simp] theorem asks_words_isConstructor : isConstructor.Asks Field.IsWord fun _ => True := by
  simp [isConstructor, text?, flag?, Option.forall, Field.IsWord]

@[simp] theorem asks_words_isConstant : isConstant.Asks Field.IsWord fun _ => True := by
  simp [isConstant, text?, flag?, Option.forall, Field.IsWord]

@[simp] theorem asks_words_typeWord : typeWord.Asks Field.IsWord fun _ => True := by
  simp [typeWord, text?, Option.forall, Field.IsWord]

@[simp] theorem asks_words_literalKind : literalKind.Asks Field.IsWord fun _ => True := by
  simp [literalKind, text?, Option.forall, Field.IsWord]

@[simp] theorem asks_words_denomination : denomination.Asks Field.IsWord fun _ => True := by
  simp [denomination, text?, Option.forall, Field.IsWord]

@[simp] theorem asks_true (form : Form α) : (form.Asks (fun _ => True) fun _ => True) ↔ True := by
  refine iff_true_intro ?_
  induction form with
  | done result => trivial
  | fail defect => trivial
  | read field next ih => exact ⟨trivial, ih⟩

open Opened

/-- Whatever nodes a form is answered, they only make a difference to the children. -/
theorem parallel_form {kind : NodeKind} (other : kind ≠ .elementaryTypeNameExpression) :
    kind.form.Parallel Field.Parallel kind.form Node.Parallel := by
  cases kind
  case elementaryTypeNameExpression => exact absurd rfl other
  all_goals
    simp +contextual [-bind_pure_comp, Field.Parallel, Field.IsWord, Option.forall,
      Node.parallel_iff, SymbolAlias.outline_comp_map, Shape.outline, Shape.map,
      Declaration.map, TypeName.map, Statement.map, Expression.map, parallel_pure,
      parallel_ask_bind, parallel_words_bind @Field.parallel_iff_of_isWord,
      parallel_checkNames_bind, declare, nameType, execute, express]

end Form
end ContractTree
