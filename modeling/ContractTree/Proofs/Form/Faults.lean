import ContractTree.Form.Kind
import ContractTree.Proofs.Form.Reads

namespace ContractTree

/-!
# The faults of a form

Where a form fails by itself, it says what is wrong, and some of its defects quote a
text.  Whatever a form is answered, the texts that it quotes are texts that it has been
answered, and what it says of them is true.
-/

/-- The text is refused as a token, for a reason. -/
def Token.Rejects (text : String) (reason : TokenReason) : Prop :=
  resolve text = .error (.token text reason) ∨
    (∃ expected, resolveIn expected text = .error (.token text reason)) ∨
    resolveElementary text = .error (.token text reason)

/-- The texts that a defect quotes are among those that a node has, and they are wrong. -/
def Defect.Grounded (owns : String → Prop) : Defect → Prop
  | schema (.invalidSourceRange marker) => owns marker ∧ Span.ofMarker? marker = none
  | schema .notAnObject => False
  | schema _ => True
  | token text reason => owns text ∧ Token.Rejects text reason
  | violation (.notASourceUnit _) => False
  | violation _ => True

/-- The texts in an answer are among those that a node has. -/
def Field.Quotes (owns : String → Prop) : (field : Field) → field.Answer → Prop
  | text _, answer => owns answer
  | text? _, answer => ∀ text, answer = some text → owns text
  | typeString, answer => ∀ text, answer = some text → owns text
  | typeText, answer => owns answer
  | texts _, answer => ∀ text ∈ answer, owns text
  | _, _ => True

section Checks

variable {owns : String → Prop} {text : String}

/-- A text of a node that is no token is blamed for it. -/
theorem Token.grounded_resolve (owned : owns text) :
    ∀ defect, resolve text = .error defect → defect.Grounded owns := by
  intro defect refused
  unfold resolve at refused
  split at refused
  · cases refused
  · next cause scanned =>
    cases refused
    refine ⟨owned, .inl ?_⟩
    rw [resolve, scanned]

theorem Token.resolve_eq_token {defect : Defect} (refused : resolve text = .error defect) :
    ∃ reason, defect = .token text reason := by
  unfold resolve at refused
  split at refused
  · cases refused
  · next cause _ =>
    cases refused
    exact ⟨_, rfl⟩

theorem Token.grounded_resolveIn (owned : owns text) (expected : TokenClass) :
    ∀ defect, resolveIn expected text = .error defect → defect.Grounded owns := by
  intro defect refused
  have quoted : ∃ reason, defect = .token text reason := by
    have same := refused
    unfold resolveIn at same
    cases resolved : resolve text with
    | error cause =>
      rw [resolved] at same
      cases same
      exact resolve_eq_token resolved
    | ok token =>
      rw [resolved] at same
      change (if expected.accepts token then pure token else throw _) = _ at same
      split at same
      · cases same
      · cases same
        exact ⟨_, rfl⟩
  rcases quoted with ⟨reason, rfl⟩
  exact ⟨owned, .inr (.inl ⟨expected, refused⟩)⟩

theorem Token.grounded_resolveElementary (owned : owns text) :
    ∀ defect, resolveElementary text = .error defect → defect.Grounded owns := by
  intro defect refused
  have quoted : ∃ reason, defect = .token text reason := by
    have same := refused
    unfold resolveElementary at same
    cases resolved : resolve text with
    | error cause =>
      rw [resolved] at same
      cases same
      exact resolve_eq_token resolved
    | ok token =>
      rw [resolved] at same
      cases named : token.elementaryType? with
      | some type =>
        simp only [bind, Except.bind, named] at same
        cases same
      | none =>
        simp only [bind, Except.bind, named] at same
        cases same
        exact ⟨_, rfl⟩
  rcases quoted with ⟨reason, rfl⟩
  exact ⟨owned, .inr (.inr refused)⟩

theorem Visibility.grounded_read (word : String) :
    ∀ defect, read word = .error defect → defect.Grounded owns := by
  intro defect refused
  unfold read at refused
  split at refused
  · cases refused
  · cases refused
    trivial

theorem StorageLocation.grounded_read (word : String) :
    ∀ defect, read word = .error defect → defect.Grounded owns := by
  intro defect refused
  unfold read at refused
  split at refused
  · cases refused
  · cases refused
    trivial

theorem ContractKind.grounded_read (word : String) :
    ∀ defect, read word = .error defect → defect.Grounded owns := by
  intro defect refused
  unfold read at refused
  split at refused
  · cases refused
  · cases refused
    trivial

theorem TypePath.grounded_read (name : String) :
    ∀ defect, TypePath.read name = .error defect → defect.Grounded owns := by
  intro defect refused
  unfold TypePath.read at refused
  split at refused
  · cases refused
    trivial
  · cases refused

end Checks

namespace Form

variable {α β γ : Type} {owns : String → Prop}

/-- Whatever a form is answered with texts that a node has, its defects are grounded in
these texts, and its results are good. -/
def Grounded (owns : String → Prop) : Form α → (α → Prop) → Prop
  | done result, good => good result
  | fail defect, _ => defect.Grounded owns
  | read field next, good =>
    ∀ answer, field.Quotes owns answer → (next answer).Grounded owns good

theorem grounded_pure {result : α} {good : α → Prop} :
    (pure result : Form α).Grounded owns good ↔ good result := Iff.rfl

theorem grounded_done {result : α} {good : α → Prop} :
    (done result).Grounded owns good ↔ good result := Iff.rfl

theorem grounded_fail {defect : Defect} {good : α → Prop} :
    (fail defect).Grounded owns good ↔ defect.Grounded owns := Iff.rfl

theorem grounded_ask {field : Field} {good : field.Answer → Prop} :
    Grounded (α := no_index field.Answer) owns (ask field) good ↔
      ∀ answer, field.Quotes owns answer → good answer := Iff.rfl

theorem grounded_bind {form : Form α} {next : α → Form β} {good : β → Prop} :
    (form >>= next).Grounded owns good ↔
      form.Grounded owns fun result => (next result).Grounded owns good := by
  induction form with
  | done result => rfl
  | fail defect => rfl
  | read field rest ih => exact forall_congr' fun answer => imp_congr_right fun _ => ih answer

theorem grounded_formBind {form : Form α} {next : α → Form β} {good : β → Prop} :
    (form.bind next).Grounded owns good ↔
      form.Grounded owns fun result => (next result).Grounded owns good :=
  grounded_bind

theorem grounded_map {form : Form α} {change : α → β} {good : β → Prop} :
    (change <$> form).Grounded owns good ↔
      form.Grounded owns fun result => good (change result) := by
  rw [map_eq_pure_bind, grounded_bind]
  rfl

/-- What is checked may fail as long as its defects are grounded. -/
theorem grounded_lift {checked : Checked α}
    (faults : ∀ defect, checked = .error defect → defect.Grounded owns) {good : α → Prop} :
    (liftM checked : Form α).Grounded owns good ↔ ∀ result, checked = .ok result → good result := by
  cases checked with
  | ok result =>
    constructor
    · rintro holds _ ⟨⟩
      exact holds
    · intro holds
      exact holds result rfl
  | error defect => exact iff_of_true (faults defect rfl) (fun _ impossible => nomatch impossible)

section Checks

variable {text : String}

theorem grounded_resolveIn (owned : owns text) {expected : TokenClass} {good : Token → Prop} :
    (liftM (Token.resolveIn expected text) : Form Token).Grounded owns good ↔
      ∀ token, Token.resolveIn expected text = .ok token → good token :=
  grounded_lift (Token.grounded_resolveIn owned expected)

theorem grounded_resolveElementary (owned : owns text) {good : ElementaryType → Prop} :
    (liftM (Token.resolveElementary text) : Form ElementaryType).Grounded owns good ↔
      ∀ type, Token.resolveElementary text = .ok type → good type :=
  grounded_lift (Token.grounded_resolveElementary owned)

theorem grounded_visibility {good : Visibility → Prop} :
    (liftM (Visibility.read text) : Form Visibility).Grounded owns good ↔
      ∀ word, Visibility.read text = .ok word → good word :=
  grounded_lift (Visibility.grounded_read text)

theorem grounded_storageLocation {good : StorageLocation → Prop} :
    (liftM (StorageLocation.read text) : Form StorageLocation).Grounded owns good ↔
      ∀ word, StorageLocation.read text = .ok word → good word :=
  grounded_lift (StorageLocation.grounded_read text)

theorem grounded_contractKind {good : ContractKind → Prop} :
    (liftM (ContractKind.read text) : Form ContractKind).Grounded owns good ↔
      ∀ word, ContractKind.read text = .ok word → good word :=
  grounded_lift (ContractKind.grounded_read text)

theorem grounded_typePath {good : List String → Prop} :
    (liftM (TypePath.read text) : Form (List String)).Grounded owns good ↔
      ∀ path, TypePath.read text = .ok path → good path :=
  grounded_lift (TypePath.grounded_read text)

theorem grounded_literals {texts : List String} (owned : ∀ text ∈ texts, owns text) :
    (texts.mapM fun text => (liftM (Token.resolve text) : Form Token)).Grounded owns
      (fun _ => True) ↔ True := by
  refine iff_true_intro ?_
  induction texts with
  | nil => trivial
  | cons text texts ih =>
    rw [List.mapM_cons, grounded_bind,
      grounded_lift (Token.grounded_resolve (owned text (List.mem_cons_self ..)))]
    intro token _
    exact grounded_bind.2 (ih fun other member => owned other (List.mem_cons_of_mem _ member))

end Checks

/-! ## Parts of forms -/

theorem grounded_checkNames {names : List String} {arguments : List Node} {good : Unit → Prop}
    (rest : good ()) : (checkNames names arguments).Grounded owns good := by
  unfold checkNames
  split
  · exact rest
  · trivial

theorem grounded_checkValue {token : Token} {value hexValue : Option String} {good : Unit → Prop}
    (rest : good ()) : (checkValue token value hexValue).Grounded owns good := by
  unfold checkValue
  split
  · exact rest
  · trivial

theorem grounded_literalToken {word : String} {value : Option String}
    (owned : ∀ text, value = some text → owns text) {good : Token → Prop}
    (rest : ∀ token, good token) : (literalToken word value).Grounded owns good := by
  unfold literalToken
  repeat' split
  · exact rest _
  · exact rest _
  · exact rest _
  · next _ text => exact (grounded_resolveIn (owned text rfl)).2 fun token _ => rest token
  · trivial
  · trivial

/-! ## All kinds -/

open Opened OpenedWords

/-- The defects of the form of a kind are grounded in the texts that it is answered. -/
theorem grounded_form (kind : NodeKind) : kind.form.Grounded owns fun _ => True := by
  cases kind <;>
    simp +contextual [Field.Quotes, Option.forall, grounded_pure, grounded_done,
      grounded_fail, grounded_ask, grounded_bind, grounded_formBind, grounded_map,
      grounded_resolveIn, grounded_resolveElementary, grounded_visibility,
      grounded_storageLocation, grounded_contractKind, grounded_typePath, grounded_literals,
      grounded_checkNames, grounded_checkValue, grounded_literalToken, Defect.Grounded,
      Defect.missing]

end Form
end ContractTree
