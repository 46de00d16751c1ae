import ContractTree.Proofs.Conversion.Answers

namespace ContractTree

/-!
# What an answer depends on

A question reads a node under a few keys, and its answer depends on nothing else but
what errors say about the node.  So two nodes that agree about these keys answer the
question in the same way.
-/

/-- The keys that a question looks up as scalars. -/
def Field.scalarKeys : Field → List String
  | text key | text? key | flag key | flag? key => [key]
  | documentation => ["documentation"]
  | typeString => ["typeDescriptions"]
  | typeText => ["typeName"]
  | _ => []

/-- The keys that a question looks up as structure. -/
def Field.structuralKeys : Field → List String
  | id | idOrZero => ["id"]
  | location | locationOrWhole => ["src"]
  | references => ["externalReferences"]
  | aliases => ["symbolAliases"]
  | texts key | holds key | holdsObject key | child key _ | child? key _ | children key _
  | gappedChildren key _ | elementaryChild key => [key]
  | _ => []

/-- A question about none of some keys. -/
def Field.Avoids (keys : List String) (field : Field) : Prop :=
  ∀ key ∈ field.structuralKeys ++ field.scalarKeys, key ∉ "nodeType" :: "attributes" :: keys

instance (keys : List String) (field : Field) : Decidable (field.Avoids keys) :=
  inferInstanceAs (Decidable (∀ key ∈ field.structuralKeys ++ field.scalarKeys, _))

namespace Journal

variable {settings : Settings} {depth : Nat} {document image : DocumentNode}
  (context : image.context = document.context) {α : Type}

include context

theorem ofChecked_congr (checked : Checked α) :
    ofChecked image checked = ofChecked document checked := by
  cases checked with
  | ok answer => rfl
  | error defect => rw [ofChecked, context, ofChecked]

theorem narrowed_congr (key : String) (category : Category) (narrow : Node → Option α) :
    narrowed settings depth image key category narrow =
      narrowed settings depth document key category narrow := by
  funext value
  simp only [narrowed, ofChecked_congr context]

theorem inCategory_congr (key : String) (category : Category) :
    inCategory settings depth image key category =
      inCategory settings depth document key category :=
  narrowed_congr context key category _

theorem entry_congr (key : String) (category : Category) :
    entry settings depth image key category = entry settings depth document key category := by
  funext item
  simp only [entry, inCategory_congr context, ofChecked_congr context]

theorem gappedEntry_congr (key : String) (category : Category) :
    gappedEntry settings depth image key category =
      gappedEntry settings depth document key category := by
  funext item
  simp only [gappedEntry, inCategory_congr context]

theorem foreign_congr : foreign settings depth image = foreign settings depth document := by
  funext members
  simp only [foreign, inCategory_congr context, ofChecked_congr context]

theorem symbolAlias_congr :
    symbolAlias settings depth image = symbolAlias settings depth document := by
  funext item
  cases item <;> simp only [symbolAlias, foreign_congr context, ofChecked_congr context]

end Journal

namespace Field

variable {settings : Settings} {depth : Nat} {document image : DocumentNode}
  (context : image.context = document.context)

include context

theorem answer_congr_of_checked (field : Field) {checked imaged : Checked field.Answer}
    (same : imaged = checked) (planned : field.plan settings document = .ofChecked document checked)
    (following : field.plan settings image = .ofChecked image imaged) :
    field.answer settings depth image = field.answer settings depth document := by
  rw [answer, answer, planned, following, same, Plan.run_ofChecked, Plan.run_ofChecked,
    Journal.ofChecked_congr context]

/-- Nodes that agree about the keys that a question looks up give the same answer. -/
theorem answer_congr (field : Field)
    (structural : ∀ key ∈ field.structuralKeys, image.structural? key = document.structural? key)
    (scalar : ∀ key ∈ field.scalarKeys,
      image.scalar? settings.layout key = document.scalar? settings.layout key) :
    field.answer settings depth image = field.answer settings depth document := by
  cases field with
  | id =>
    have same := structural "id" (List.mem_singleton_self _)
    refine answer_congr_of_checked context .id ?_ rfl rfl
    rw [DocumentNode.readId, same, DocumentNode.readId]
  | idOrZero =>
    have same := structural "id" (List.mem_singleton_self _)
    have ids : image.id? = document.id? := by
      rw [DocumentNode.id?, same, DocumentNode.id?]
    have read : (.ok (image.id?.getD 0) : Checked NodeId) = .ok (document.id?.getD 0) := by
      rw [ids]
    exact answer_congr_of_checked context .idOrZero read rfl rfl
  | location =>
    have same := structural "src" (List.mem_singleton_self _)
    refine answer_congr_of_checked context .location ?_ rfl rfl
    simp only [DocumentNode.readLocation, DocumentNode.readLocation?, DocumentNode.readMarker?,
      same]
  | locationOrWhole =>
    have same := structural "src" (List.mem_singleton_self _)
    refine answer_congr_of_checked context .locationOrWhole ?_ rfl rfl
    simp only [DocumentNode.readLocation?, DocumentNode.readMarker?, same]
  | text key =>
    have same := scalar key (List.mem_singleton_self _)
    refine answer_congr_of_checked context (.text key) ?_ rfl rfl
    simp only [DocumentNode.readText, DocumentNode.readText?, same]
  | text? key =>
    have same := scalar key (List.mem_singleton_self _)
    refine answer_congr_of_checked context (.text? key) ?_ rfl rfl
    simp only [DocumentNode.readText?, same]
  | flag key =>
    have same := scalar key (List.mem_singleton_self _)
    refine answer_congr_of_checked context (.flag key) ?_ rfl rfl
    simp only [DocumentNode.readFlag, DocumentNode.readFlag?, same]
  | flag? key =>
    have same := scalar key (List.mem_singleton_self _)
    refine answer_congr_of_checked context (.flag? key) ?_ rfl rfl
    simp only [DocumentNode.readFlag?, same]
  | documentation =>
    have same := scalar "documentation" (List.mem_singleton_self _)
    refine answer_congr_of_checked context .documentation ?_ rfl rfl
    simp only [DocumentNode.readDocumentation?, same]
  | typeString =>
    have same := scalar "typeDescriptions" (List.mem_singleton_self _)
    have read : (.ok (image.readTypeString? settings.layout) : Checked (Option String)) =
        .ok (document.readTypeString? settings.layout) := by
      simp only [DocumentNode.readTypeString?, same]
    exact answer_congr_of_checked context .typeString read rfl rfl
  | typeText =>
    have same := scalar "typeName" (List.mem_singleton_self _)
    refine answer_congr_of_checked context .typeText ?_ rfl rfl
    simp only [DocumentNode.readTypeText, same]
  | texts key =>
    have same := structural key (List.mem_singleton_self _)
    refine answer_congr_of_checked context (.texts key) ?_ rfl rfl
    simp only [DocumentNode.readTexts, DocumentNode.readItems, same]
  | holds key =>
    have same := structural key (List.mem_singleton_self _)
    have read : (.ok (image.structural? key).isSome : Checked Bool) =
        .ok (document.structural? key).isSome := by
      rw [same]
    exact answer_congr_of_checked context (.holds key) read rfl rfl
  | holdsObject key =>
    have same := structural key (List.mem_singleton_self _)
    have read : (.ok ((image.structural? key).any Json.isObject) : Checked Bool) =
        .ok ((document.structural? key).any Json.isObject) := by
      rw [same]
    exact answer_congr_of_checked context (.holdsObject key) read rfl rfl
  | references =>
    have same := structural "externalReferences" (List.mem_singleton_self _)
    refine answer_congr_of_checked context .references ?_ rfl rfl
    simp only [DocumentNode.readReferences, DocumentNode.readItems, same]
  | child key category =>
    have same := structural key (List.mem_singleton_self _)
    rw [answer_child, answer_child, same, Journal.inCategory_congr context,
      Journal.ofChecked_congr context]
  | child? key category =>
    have same := structural key (List.mem_singleton_self _)
    rw [answer_child?, answer_child?, same, Journal.inCategory_congr context]
  | children key category =>
    have same := structural key (List.mem_singleton_self _)
    rw [answer_children, answer_children, DocumentNode.readItems, same, DocumentNode.readItems,
      Journal.entry_congr context, Journal.ofChecked_congr context]
  | gappedChildren key category =>
    have same := structural key (List.mem_singleton_self _)
    rw [answer_gappedChildren, answer_gappedChildren, DocumentNode.readItems, same,
      DocumentNode.readItems, Journal.gappedEntry_congr context, Journal.ofChecked_congr context]
  | elementaryChild key =>
    have same := structural key (List.mem_singleton_self _)
    rw [answer_elementaryChild, answer_elementaryChild, same, Journal.narrowed_congr context,
      Journal.ofChecked_congr context]
  | aliases =>
    have same := structural "symbolAliases" (List.mem_singleton_self _)
    rw [answer_aliases, answer_aliases, DocumentNode.readItems, same, DocumentNode.readItems,
      Journal.symbolAlias_congr context, Journal.ofChecked_congr context]

end Field
end ContractTree
