import ContractTree.Proofs.Conversion.Followed
import ContractTree.Proofs.Form.Carried
import Mathlib.Data.List.Forall2

namespace ContractTree

/-!
# Answers that are carried over

A journal is carried over to another one if its answer, if it has one, is the answer of
the other one.  Where a value converts to all that another value converts to, a question
about the first is carried over to the same question about the second, under whichever
key the two stand: the key of a child only shows in errors.
-/

namespace Journal

variable {α β : Type}

/-- What the first journal has as an answer, the second has. -/
def Carries (first second : Journal α) : Prop :=
  ∀ answer, first.result = .ok answer → second.result = .ok answer

namespace Carries

theorem refl (journal : Journal α) : journal.Carries journal := fun _ finished => finished

theorem of_eq {first second : Journal α} (same : second = first) : first.Carries second :=
  same ▸ refl first

theorem bind {first second : Journal α} {next following : α → Journal β}
    (carries : first.Carries second) (rest : ∀ answer, (next answer).Carries (following answer)) :
    (first >>= next).Carries (second >>= following) := by
  intro answer finished
  rcases result_bind_eq_ok.1 finished with ⟨middle, here, later⟩
  exact result_bind_eq_ok.2 ⟨middle, carries middle here, rest middle answer later⟩

theorem mapM {step other : Json → Journal α} {items others : List Json}
    (each : List.Forall₂ (fun item image => (step item).Carries (other image)) items others) :
    (items.mapM step).Carries (others.mapM other) := by
  induction each with
  | nil => exact refl _
  | cons here _ ih =>
    rw [List.mapM_cons, List.mapM_cons]
    exact here.bind fun answer => ih.bind fun answers => refl _

theorem ofChecked {document image : DocumentNode} {checked imaged : Checked α}
    (same : ∀ answer, checked = .ok answer → imaged = .ok answer) :
    (Journal.ofChecked document checked).Carries (Journal.ofChecked image imaged) := by
  cases checked with
  | error defect => exact fun _ finished => nomatch finished
  | ok answer =>
    rw [same answer rfl]
    exact refl _

end Carries
end Journal

/-! ## Values that convert alike -/

/-- A value converts to all that another value converts to. -/
structure Json.ConvertsAs (settings : Settings) (depth : Nat) (value other : Json) : Prop where
  isNull_eq : other.isNull = value.isNull
  isObject_eq : other.isObject = value.isObject
  asString?_eq : other.asString? = value.asString?
  carries : (journal settings depth value).Carries (journal settings depth other)

/-- If a value is a list, another value is a list whose items are related to those of the
first one. -/
def Json.ListsAs (related : Json → Json → Prop) (value other : Json) : Prop :=
  ∀ items, value = .arr items → ∃ others, other = .arr others ∧ List.Forall₂ related items others

theorem Json.ListsAs.refl {related : Json → Json → Prop} (same : ∀ item, related item item)
    (value : Json) : value.ListsAs related value :=
  fun items list => ⟨items, list, List.forall₂_same.2 fun item _ => same item⟩

/-- If a value is an alias, another value is an alias with the same local name, and what
they are for is related. -/
def Json.AliasesAs (related : Json → Json → Prop) (value other : Json) : Prop :=
  ∀ members : Members, value = .obj members → ∃ others : Members, other = .obj others ∧
    (∀ localName, SymbolAlias.readLocalName members = .ok localName →
      SymbolAlias.readLocalName others = .ok localName) ∧
    Option.Rel related (members.find? "foreign") (others.find? "foreign")

section ConvertsAs

variable {settings : Settings} {depth : Nat} {document image : DocumentNode}
  {key name : String} {category : Category} {value other : Json}

theorem Json.ConvertsAs.refl (value : Json) : value.ConvertsAs settings depth value :=
  ⟨rfl, rfl, rfl, .refl _⟩

namespace Journal

theorem carries_narrowed {α : Type} (narrow : Node → Option α)
    (converts : value.ConvertsAs settings depth other) :
    (narrowed settings depth document key category narrow value).Carries
      (narrowed settings depth image name category narrow other) := by
  intro answer finished
  rcases ensures_narrowed answer finished with ⟨object, _, node, converted, narrowed⟩
  rw [narrowed_of_converted (converts.isObject_eq.trans object) (converts.carries node converted),
    narrowed]
  rfl

theorem carries_inCategory (converts : value.ConvertsAs settings depth other) :
    (inCategory settings depth document key category value).Carries
      (inCategory settings depth image name category other) :=
  carries_narrowed _ converts

theorem carries_entry (converts : value.ConvertsAs settings depth other) :
    (entry settings depth document key category value).Carries
      (entry settings depth image name category other) := by
  unfold entry
  rw [converts.isNull_eq]
  split
  · exact .ofChecked fun _ impossible => nomatch impossible
  · exact carries_inCategory converts

theorem carries_gappedEntry (converts : value.ConvertsAs settings depth other) :
    (gappedEntry settings depth document key category value).Carries
      (gappedEntry settings depth image name category other) := by
  unfold gappedEntry
  rw [converts.isNull_eq]
  split
  · exact .refl _
  · exact (carries_inCategory converts).bind fun _ => .refl _

theorem carries_foreign {members others : Members}
    (related : Option.Rel (Json.ConvertsAs settings depth) (members.find? "foreign")
      (others.find? "foreign")) :
    (foreign settings depth document members).Carries (foreign settings depth image others) := by
  unfold foreign
  generalize members.find? "foreign" = before, others.find? "foreign" = after at related
  cases related with
  | none => exact .ofChecked fun _ impossible => nomatch impossible
  | @some value other converts =>
    cases value with
    | str text =>
      cases other <;> cases converts.asString?_eq
      exact .refl _
    | obj inner =>
      cases other <;> cases converts.isObject_eq
      exact (carries_inCategory converts).bind fun _ => .refl _
    | _ => exact fun _ finished => nomatch finished

theorem carries_symbolAlias {item image' : Json}
    (aliases : item.AliasesAs (Json.ConvertsAs settings depth) image') :
    (symbolAlias settings depth document item).Carries
      (symbolAlias settings depth image image') := by
  cases item with
  | obj members =>
    rcases aliases members rfl with ⟨others, rfl, localName, related⟩
    refine (carries_foreign related).bind fun name => ?_
    exact Carries.bind (.ofChecked localName) fun _ => .refl _
  | _ => exact fun _ finished => nomatch finished

end Journal

/-- What is checked about one node is what is checked about the other. -/
theorem Field.carries_of_checked (field : Field) {checked imaged : Checked field.Answer}
    (same : ∀ answer, checked = .ok answer → imaged = .ok answer)
    (planned : field.plan settings document = .ofChecked document checked)
    (following : field.plan settings image = .ofChecked image imaged) :
    (field.answer settings depth document).Carries (field.answer settings depth image) := by
  rw [answer, answer, planned, following, Plan.run_ofChecked, Plan.run_ofChecked]
  exact .ofChecked same

/-! ## Questions about children -/

/-- The items under a key of a node, and the related ones under a key of another node. -/
theorem Journal.carries_items {α : Type} {step following : Json → Journal α}
    {related : Json → Json → Prop}
    (each : ∀ item image, related item image → (step item).Carries (following image))
    (lists : Option.Rel (Json.ListsAs related) (document.structural? key)
      (image.structural? name)) :
    (ofChecked document (document.readItems key) >>= List.mapM step).Carries
      (ofChecked image (image.readItems name) >>= List.mapM following) := by
  unfold DocumentNode.readItems
  generalize document.structural? key = before, image.structural? name = after at lists
  cases lists with
  | none => exact .refl _
  | @some value other lists =>
    cases value with
    | arr items =>
      rcases lists items rfl with ⟨others, rfl, related⟩
      exact Carries.mapM (related.imp each)
    | _ => exact fun _ finished => nomatch finished

namespace Field

section One

variable (related : Option.Rel (Json.ConvertsAs settings depth) (document.structural? key)
  (image.structural? name))

include related

theorem carries_child :
    ((child key category).answer settings depth document).Carries
      ((child name category).answer settings depth image) := by
  rw [answer_child, answer_child]
  generalize document.structural? key = before, image.structural? name = after at related
  cases related with
  | none => exact .ofChecked fun _ impossible => nomatch impossible
  | some converts => exact Journal.carries_inCategory converts

theorem carries_child? :
    ((child? key category).answer settings depth document).Carries
      ((child? name category).answer settings depth image) := by
  rw [answer_child?, answer_child?]
  generalize document.structural? key = before, image.structural? name = after at related
  cases related with
  | none => exact .refl _
  | some converts => exact (Journal.carries_inCategory converts).bind fun _ => .refl _

theorem carries_elementaryChild :
    ((elementaryChild key).answer settings depth document).Carries
      ((elementaryChild name).answer settings depth image) := by
  rw [answer_elementaryChild, answer_elementaryChild]
  generalize document.structural? key = before, image.structural? name = after at related
  cases related with
  | none => exact .ofChecked fun _ impossible => nomatch impossible
  | some converts => exact Journal.carries_narrowed _ converts

end One

theorem carries_children
    (lists : Option.Rel (Json.ListsAs (Json.ConvertsAs settings depth))
      (document.structural? key) (image.structural? name)) :
    ((children key category).answer settings depth document).Carries
      ((children name category).answer settings depth image) := by
  rw [answer_children, answer_children]
  exact Journal.carries_items (fun _ _ => Journal.carries_entry) lists

theorem carries_gappedChildren
    (lists : Option.Rel (Json.ListsAs (Json.ConvertsAs settings depth))
      (document.structural? key) (image.structural? name)) :
    ((gappedChildren key category).answer settings depth document).Carries
      ((gappedChildren name category).answer settings depth image) := by
  rw [answer_gappedChildren, answer_gappedChildren]
  exact Journal.carries_items (fun _ _ => Journal.carries_gappedEntry) lists

theorem carries_aliases
    (lists : Option.Rel (Json.ListsAs (Json.AliasesAs (Json.ConvertsAs settings depth)))
      (document.structural? "symbolAliases") (image.structural? "symbolAliases")) :
    (aliases.answer settings depth document).Carries (aliases.answer settings depth image) := by
  rw [answer_aliases, answer_aliases]
  exact Journal.carries_items (fun _ _ => Journal.carries_symbolAlias) lists

end Field

end ConvertsAs

/-! ## Forms and their nodes -/

/-- A question is given an answer. -/
abbrev Field.Given (settings : Settings) (depth : Nat) (document : DocumentNode) (field : Field)
    (answer : field.Answer) : Prop :=
  (field.answer settings depth document).result = .ok answer

/-- A value converts to all that another value converts to if the forms of their nodes
are carried over. -/
theorem journal_carries {settings : Settings} (unbounded : settings.maxDepth = none) {depth : Nat}
    {value other : Json} {document image : DocumentNode}
    (read : DocumentNode.ofJson? value = .ok document)
    (reread : DocumentNode.ofJson? other = .ok image)
    (carries : Form.Carries (Field.Given settings (depth + 1) document)
      (Field.Given settings (depth + 1) image) document.kind.form image.kind.form) :
    (journal settings depth value).Carries (journal settings depth other) := by
  have shallow : settings.maxDepth.filter (· ≤ depth) = none := by
    rw [unbounded]
    rfl
  intro node converted
  rw [journal_result_eq_fill read shallow] at converted
  rw [journal_result_eq_fill reread shallow]
  exact (carries node (Form.yields_of_fill converted)).fill fun _ _ given => given

end ContractTree
