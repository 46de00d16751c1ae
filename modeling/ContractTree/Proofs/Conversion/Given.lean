import ContractTree.Proofs.Conversion.Carried
import ContractTree.Proofs.Document.Respelled
import ContractTree.Proofs.Document.Types

namespace ContractTree

/-!
# Answers of a node with a tag of its own

Where scalars are looked up in both places and the tag stands under `nodeType`, every
other field is found wherever it stands.  This module says what questions about a few
fields are answered then, so that a form can be followed through such a node.
-/

section Given

variable {settings : Settings} {depth : Nat} {members : Members} {kind : NodeKind} {key : String}

/-- A question is given an answer by members with a tag under `nodeType`. -/
abbrev Members.Given (settings : Settings) (depth : Nat) (kind : NodeKind) (members : Members) :
    (field : Field) → field.Answer → Prop :=
  Field.Given settings depth ⟨members, kind, .nodeType⟩

/-- A question is given one answer. -/
theorem Members.only_given {field : Field} {answer : field.Answer}
    (given : members.Given settings depth kind field answer) (found : field.Answer)
    (also : members.Given settings depth kind field found) : found = answer :=
  Except.ok.inj (also.symm.trans given)

theorem Field.given_of_checked {document : DocumentNode} (field : Field)
    {checked : Checked field.Answer} {answer : field.Answer} (read : checked = .ok answer)
    (planned : field.plan settings document = .ofChecked document checked) :
    field.Given settings depth document answer := by
  rw [Given, Field.answer, planned, Plan.run_ofChecked, read]
  rfl

variable (auto : settings.layout = .auto)

include auto

theorem Members.given_text? (text : Option String) (other : key ≠ "nodeType")
    (found : members.field? key = text.map .str) :
    members.Given settings depth kind (.text? key) text := by
  refine Field.given_of_checked (.text? key) ?_ rfl
  rw [DocumentNode.readText?, auto, DocumentNode.scalar?_auto _ _ other, found]
  cases text <;> rfl

theorem Members.given_flag? (flag : Option Bool) (other : key ≠ "nodeType")
    (found : members.field? key = flag.map .bool) :
    members.Given settings depth kind (.flag? key) flag := by
  refine Field.given_of_checked (.flag? key) ?_ rfl
  rw [DocumentNode.readFlag?, auto, DocumentNode.scalar?_auto _ _ other, found]
  cases flag <;> rfl

theorem Members.given_typeString {word : String} {description : Members}
    (found : members.field? "typeDescriptions" = some (.obj description))
    (named : description.find? "typeString" = some (.str word)) :
    members.Given settings depth kind .typeString (some word) := by
  have read : (.ok (DocumentNode.readTypeString? ⟨members, kind, .nodeType⟩ settings.layout) :
      Checked (Option String)) = .ok (some word) := by
    rw [DocumentNode.readTypeString?, auto, DocumentNode.scalar?_auto _ _ (by decide), found]
    simp only [named, Option.bind_some, Json.asString?]
  exact Field.given_of_checked .typeString read rfl

theorem Members.given_typeText {word : String}
    (found : members.field? "typeName" = some (.str word)) :
    members.Given settings depth kind .typeText word := by
  refine Field.given_of_checked .typeText ?_ rfl
  rw [DocumentNode.readTypeText, auto, DocumentNode.scalar?_auto _ _ (by decide), found]

omit auto in
theorem Members.given_holds {value : Option Json} (found : members.field? key = value) :
    members.Given settings depth kind (.holds key) value.isSome := by
  have read : (.ok ((DocumentNode.mk members kind .nodeType).structural? key).isSome :
      Checked Bool) = .ok value.isSome := by
    rw [← found]
    rfl
  exact Field.given_of_checked (.holds key) read rfl

omit auto in
theorem Members.given_holdsObject {value : Json} (found : members.field? key = some value) :
    members.Given settings depth kind (.holdsObject key) value.isObject := by
  have read : (.ok (((DocumentNode.mk members kind .nodeType).structural? key).any Json.isObject) :
      Checked Bool) = .ok value.isObject := by
    have stands : (DocumentNode.mk members kind .nodeType).structural? key = some value := found
    rw [stands]
    rfl
  exact Field.given_of_checked (.holdsObject key) read rfl

theorem Members.given_documentation {value : Json} {text : String}
    (found : members.field? "documentation" = some value)
    (gives : value = .str text ∨
      ∃ inner : Members, value = .obj inner ∧ inner.find? "text" = some (.str text)) :
    members.Given settings depth kind .documentation (some text) := by
  refine Field.given_of_checked .documentation ?_ rfl
  rw [DocumentNode.readDocumentation?, auto, DocumentNode.scalar?_auto _ _ (by decide), found]
  rcases gives with rfl | ⟨inner, rfl, named⟩
  · rfl
  · simp only [named]

/-- A scalar that is read as a text is one. -/
theorem Members.text_of_given {value : Json} {answer : Option String} (other : key ≠ "nodeType")
    (found : members.field? key = some value)
    (given : members.Given settings depth kind (.text? key) answer) :
    ∃ word, value = .str word ∧ answer = some word := by
  have read := Field.checked_of_answer rfl given
  rw [DocumentNode.readText?, auto, DocumentNode.scalar?_auto _ _ other, found] at read
  cases value with
  | str word =>
    cases read
    exact ⟨word, rfl, rfl⟩
  | _ => cases read

omit auto in
/-- What stands under one key before and under another one after. -/
theorem related_of_field? {after : Members} {name : String} {value : Json}
    {related : Json → Json → Prop} (found : members.field? key = some value)
    (added : after.field? name = some value) (same : related value value) :
    Option.Rel related ((DocumentNode.mk members kind .nodeType).structural? key)
      ((DocumentNode.mk after kind .nodeType).structural? name) := by
  have first : (DocumentNode.mk members kind .nodeType).structural? key = some value := found
  have second : (DocumentNode.mk after kind .nodeType).structural? name = some value := added
  rw [first, second]
  exact .some same

end Given

namespace Form.Carries

variable {α : Type} {settings : Settings} {depth : Nat} {kind : NodeKind} {members : Members}
  {other : (field : Field) → field.Answer → Prop} {key : String}

/-- What the first node answers is known. -/
theorem given {field : Field} {answer : field.Answer}
    (given : members.Given settings depth kind field answer)
    {next : field.Answer → Form α} {image : Form α}
    (rest : Carries (members.Given settings depth kind) other (next answer) image) :
    Carries (members.Given settings depth kind) other
      (Bind.bind (α := no_index field.Answer) (ask field) next) image :=
  known (Members.only_given given) rest

/-- Only a text is read under the key of a text. -/
theorem text (auto : settings.layout = .auto) {value : Json} (apart : key ≠ "nodeType")
    (found : members.field? key = some value) {next : Option String → Form α} {image : Form α}
    (rest : ∀ word, value = .str word →
      Carries (members.Given settings depth kind) other (next (some word)) image) :
    Carries (members.Given settings depth kind) other (text? key >>= next) image := by
  rintro result ⟨answer, answered, later⟩
  rcases Members.text_of_given auto apart found answered with ⟨word, same, rfl⟩
  exact rest word same result later

end Form.Carries

end ContractTree
