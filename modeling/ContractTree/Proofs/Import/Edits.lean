import ContractTree.Proofs.Document.Unnoticed
import ContractTree.Proofs.Form.Expected
import ContractTree.Proofs.Import.Corresponding

namespace ContractTree

/-!
# Imports of edited documents

A form asks about the keys of its kind only, and where nodes are expected it looks into
them by converting them.  So an edit that is not noticed in the object that is edited is
not noticed in the objects around it either: the questions about these have the same
answers.  Whatever the settings are, the documents before and after the edit have the
same tree, or are refused with the same error.
-/

/-! ## Nodes that are read alike -/

namespace DocumentNode

/-- Two nodes with the same tag in which, under the keys of their kind, values are found
that are read alike. -/
structure ReadsLike (document image : DocumentNode) : Prop where
  kind_eq : image.kind = document.kind
  tagKey_eq : image.tagKey = document.tagKey
  own : ∀ key ∈ document.kind.keys,
    Option.Rel (Json.ReadsLike (.ofKey document.kind key)) (document.own? key) (image.own? key)
  nested : ∀ key ∈ document.kind.keys,
    Option.Rel (Json.ReadsLike (.ofKey document.kind key)) (document.nested? key)
      (image.nested? key)

/-- If a value is a node then so is the edited value, and the nodes are read alike. -/
theorem ofJson?_readsLike {value other : Json}
    (edited : Json.Edited Role.Unnoticed .node value other) :
    Corresponding ReadsLike (ofJson? value) (ofJson? other) := by
  cases value with
  | obj before =>
    rcases Members.readsLike_of_edited edited with ⟨after, rfl, like⟩
    rw [ofJson?, ofJson?, like.resolve_eq]
    cases resolved : TagKey.resolve before with
    | error cause => exact .error cause
    | ok tag =>
      have kind := Members.resolvedKind?_of_resolve resolved
      exact .ok ⟨rfl, rfl, like.own tag.1 kind, like.nested tag.1 kind⟩
  | arr items =>
    cases edited
    exact .error _
  | _ => cases edited

namespace ReadsLike

variable {document image : DocumentNode} (like : document.ReadsLike image) {key : String}
  (listed : key ∈ document.kind.keys)

include like listed

theorem structural : Option.Rel (Json.ReadsLike (.ofKey document.kind key))
    (document.structural? key) (image.structural? key) :=
  Option.rel_or (like.own key listed) (like.nested key listed)

theorem scalar (layout : FieldLayout) : Option.Rel (Json.ReadsLike (.ofKey document.kind key))
    (document.scalar? layout key) (image.scalar? layout key) := by
  have inline : Option.Rel (Json.ReadsLike (.ofKey document.kind key)) (document.inline? key)
      (image.inline? key) := by
    unfold inline?
    rw [like.tagKey_eq]
    split
    · exact .none
    · exact like.own key listed
  have nested := like.nested key listed
  unfold scalar?
  cases layout with
  | inline => exact inline
  | nested => exact nested
  | auto =>
    dsimp only
    rw [like.tagKey_eq]
    split
    · exact Option.rel_or nested inline
    · exact Option.rel_or inline nested

/-! ### Fields without nodes -/

section Common

variable (common : key ∈ reservedKeys ++ ["id", "src", "documentation", "typeDescriptions"])

include common

theorem structural?_eq : image.structural? key = document.structural? key :=
  Json.ReadsLike.eq_of_common common (like.structural listed)

theorem scalar?_eq (layout : FieldLayout) :
    image.scalar? layout key = document.scalar? layout key :=
  Json.ReadsLike.eq_of_common common (like.scalar listed layout)

end Common

section Scalars

variable (layout : FieldLayout)

theorem readText?_eq : image.readText? layout key = document.readText? layout key := by
  have found := like.scalar listed layout
  unfold readText?
  generalize document.scalar? layout key = before, image.scalar? layout key = after at found
  cases found with
  | none => rfl
  | some same => cases same.akin <;> rfl

theorem readFlag?_eq : image.readFlag? layout key = document.readFlag? layout key := by
  have found := like.scalar listed layout
  unfold readFlag?
  generalize document.scalar? layout key = before, image.scalar? layout key = after at found
  cases found with
  | none => rfl
  | some same => cases same.akin <;> rfl

end Scalars

omit listed in
theorem readTypeText_eq (listed : "typeName" ∈ document.kind.keys) (layout : FieldLayout) :
    image.readTypeText layout = document.readTypeText layout := by
  have found := like.scalar listed layout
  unfold readTypeText
  generalize document.scalar? layout "typeName" = before,
    image.scalar? layout "typeName" = after at found
  cases found with
  | none => rfl
  | some same => cases same.akin <;> rfl

/-! ### Lists -/

theorem readItems : Corresponding
    (List.Forall₂ (Json.ReadsLike (Role.ofKey document.kind key).item))
    (document.readItems key) (image.readItems key) := by
  have found := like.structural listed
  unfold DocumentNode.readItems
  generalize document.structural? key = before, image.structural? key = after at found
  cases found with
  | none => exact .ok .nil
  | @some value other same =>
    cases value with
    | arr items =>
      rcases same.items with ⟨others, rfl, each⟩
      exact .ok each
    | _ => cases same.akin <;> exact .error _

theorem readTexts_eq : image.readTexts key = document.readTexts key := by
  refine Corresponding.eq ((like.readItems listed).bind fun items others each => .of_eq ?_)
  have texts : others.mapM Json.asString? = items.mapM Json.asString? :=
    List.mapM_eq_of_forall₂ (each.imp fun _ _ same => same.akin.asString?_eq)
  rw [texts]

omit listed in
theorem readReferences_eq (listed : "externalReferences" ∈ document.kind.keys)
    (source : SourceName) : image.readReferences source = document.readReferences source := by
  refine Corresponding.eq ((like.readItems listed).bind fun items others each => .of_eq ?_)
  exact List.mapM_eq_of_forall₂ (each.imp fun _ _ => ExternalReference.read_readsLike)

omit listed in
theorem context_eq : image.context = document.context := by
  have same := like.structural?_eq document.kind.id_mem_keys (by decide)
  rw [context, context, id?, same, like.kind_eq, id?]

end ReadsLike
end DocumentNode

/-! ## Answers -/

/-- Aliases whose parts are the same are the same. -/
theorem SymbolAlias.eq_of_like {first second : SymbolAlias (String ⊕ Node)}
    (like : SymbolAlias.Like Eq first second) : first = second := by
  rcases first with ⟨foreign, localName⟩
  rcases second with ⟨other, otherName⟩
  rcases like with ⟨related, same⟩
  cases same
  cases related with
  | inl same => rw [same]
  | inr same => rw [same]

section Answers

variable {settings : Settings} {depth : Nat} {document image : DocumentNode}
  (like : document.ReadsLike image)
  (converts : ∀ value other : Json, value.height < document.height →
    value.ReadsLike .node other →
      (journal settings depth value).Corresponds Eq (journal settings depth other))

include converts

theorem Json.ReadsLike.convertsLike {value other : Json} (same : value.ReadsLike .node other)
    (smaller : value.height < document.height) :
    value.ConvertsLike Eq settings settings depth other :=
  ⟨same.akin.isNull_eq, same.akin.isObject_eq, same.akin.asString?_eq,
    converts value other smaller same⟩

theorem Json.ReadsLike.aliasLike {item imaged : Json}
    (same : item.ReadsLike (.of .symbolAlias) imaged) (smaller : item.height < document.height) :
    Option.Rel (Members.AliasLike (Json.ConvertsLike Eq settings settings depth)) item.asObject?
      imaged.asObject? := by
  have parts := same.alias
  cases item with
  | obj members =>
    cases imaged with
    | obj others =>
      cases parts with | some both =>
      refine .some ⟨by rw [SymbolAlias.readLocalName, both.2, SymbolAlias.readLocalName], ?_⟩
      have foreign := both.1
      generalize found : Members.find? members "foreign" = before,
        Members.find? others "foreign" = after at foreign
      cases foreign with
      | none => exact .none
      | some same =>
        have inside := Nat.lt_trans (Members.height_lt_of_find? found) smaller
        exact .some (same.convertsLike converts inside)
    | _ => cases parts
  | _ => cases imaged <;> first | exact .none | cases parts

include like

namespace DocumentNode.ReadsLike

variable {key : String} (listed : key ∈ document.kind.keys)

include listed

/-- A child is converted alike. -/
theorem child (expected : document.kind.position key = .node) :
    Option.Rel (Json.ConvertsLike Eq settings settings depth) (document.structural? key)
      (image.structural? key) := by
  have found := like.structural listed
  rw [Role.ofKey_of_position expected (by decide)] at found
  generalize stands : document.structural? key = before, image.structural? key = after at found
  cases found with
  | none => exact .none
  | some same => exact .some (same.convertsLike converts (height_structural_lt stands))

omit converts in
/-- The items of a list are related if those are that are read alike. -/
theorem items {position : Position} (expected : document.kind.position key = position)
    (holds : position ≠ .plain) {related : Json → Json → Prop}
    (each : ∀ item imaged : Json, item.height < document.height →
      item.ReadsLike (.of position.item) imaged → related item imaged) :
    Corresponding (List.Forall₂ related) (document.readItems key) (image.readItems key) := by
  have found := like.readItems listed
  rw [Role.ofKey_of_position expected holds] at found
  generalize read : document.readItems key = before, image.readItems key = after at found
  cases found with
  | error defect => exact .error defect
  | @ok items others same =>
    have low : ∀ item ∈ items, item.height < document.height :=
      fun item member => height_item_lt read member
    exact .ok (((List.forall₂_and_left _ _).2 ⟨low, same⟩).imp fun item imaged both =>
      each item imaged both.1 both.2)

end DocumentNode.ReadsLike

/-- The questions about a node have the same answers after an edit in it that is not
noticed, if the values in the node convert to the same. -/
theorem Field.corresponds_readsLike (field : Field) (looks : field.LooksUp document.kind.keys)
    (fits : field.Fits document.kind) :
    Journal.Corresponds Eq (field.answer settings depth document)
      (field.answer settings depth image) := by
  have context := like.context_eq
  have keeping := Node.keeping_eq
  have kept : ∀ {key : String}, key ∈ field.structuralKeys ++ field.scalarKeys →
      key ∈ document.kind.keys := fun mentioned => looks _ mentioned
  -- The identifier and the like have nothing in them that is edited.
  have common (standing : ∀ key ∈ field.structuralKeys ++ field.scalarKeys,
      key ∈ reservedKeys ++ ["id", "src", "documentation", "typeDescriptions"]) :
      Journal.Corresponds Eq (field.answer settings depth document)
        (field.answer settings depth image) := by
    refine .of_eq (answer_congr context field (fun key member => ?_) fun key member => ?_)
    · have mentioned := List.mem_append_left field.scalarKeys member
      exact like.structural?_eq (kept mentioned) (standing key mentioned)
    · have mentioned := List.mem_append_right field.structuralKeys member
      exact like.scalar?_eq (kept mentioned) (standing key mentioned) settings.layout
  cases field with
  | id | idOrZero | location | locationOrWhole | documentation | typeString =>
    exact common (by decide)
  | text key =>
    refine corresponds_of_checked context (.text key) (.of_eq ?_) rfl rfl
    rw [DocumentNode.readText, like.readText?_eq (kept (.head _)), DocumentNode.readText]
  | text? key =>
    exact corresponds_of_checked context (.text? key)
      (.of_eq (like.readText?_eq (kept (.head _)) _)) rfl rfl
  | flag key =>
    refine corresponds_of_checked context (.flag key) (.of_eq ?_) rfl rfl
    rw [DocumentNode.readFlag, like.readFlag?_eq (kept (.head _)), DocumentNode.readFlag]
  | flag? key =>
    exact corresponds_of_checked context (.flag? key)
      (.of_eq (like.readFlag?_eq (kept (.head _)) _)) rfl rfl
  | typeText =>
    exact corresponds_of_checked context .typeText
      (.of_eq (like.readTypeText_eq (kept (.head _)) _)) rfl rfl
  | texts key =>
    exact corresponds_of_checked context (.texts key)
      (.of_eq (like.readTexts_eq (kept (.head _)))) rfl rfl
  | references =>
    exact corresponds_of_checked context .references
      (.of_eq (like.readReferences_eq (kept (.head _)) _)) rfl rfl
  | holds key =>
    have same : (image.structural? key).isSome = (document.structural? key).isSome :=
      Option.isSome_eq_of_rel (like.structural (kept (.head _)))
    exact corresponds_of_checked context (.holds key) (.ok same.symm) rfl rfl
  | holdsObject key =>
    have same : (image.structural? key).any Json.isObject =
        (document.structural? key).any Json.isObject :=
      Option.any_eq_of_rel (fun _ _ same => same.akin.isObject_eq)
        (like.structural (kept (.head _)))
    exact corresponds_of_checked context (.holdsObject key) (.ok same.symm) rfl rfl
  | child key category =>
    exact corresponds_child keeping context (like.child converts (kept (.head _)) fits)
  | child? key category =>
    exact (corresponds_child? keeping context (like.child converts (kept (.head _)) fits)).imp
      fun _ _ same => (Option.eq_of_rel (fun _ _ => Eq.symm) same).symm
  | elementaryChild key =>
    exact corresponds_elementaryChild keeping context (like.child converts (kept (.head _)) fits)
  | children key category =>
    refine (corresponds_children keeping context (like.items (kept (.head _)) fits (by decide)
      fun _ _ smaller same => same.convertsLike converts smaller)).imp fun _ _ same => ?_
    rwa [List.forall₂_eq_eq_eq] at same
  | gappedChildren key category =>
    refine (corresponds_gappedChildren keeping context (like.items (kept (.head _)) fits (by decide)
      fun _ _ smaller same => same.convertsLike converts smaller)).imp fun _ _ same => ?_
    rw [← List.forall₂_eq_eq_eq]
    exact same.imp fun _ _ gaps => (Option.eq_of_rel (fun _ _ => Eq.symm) gaps).symm
  | aliases =>
    refine (corresponds_aliases keeping context (like.items (kept (.head _)) fits (by decide)
      fun _ _ smaller same => same.aliasLike converts smaller)).imp fun _ _ same => ?_
    rw [← List.forall₂_eq_eq_eq]
    exact same.imp fun _ _ => SymbolAlias.eq_of_like

end Answers

/-! ## Documents -/

/-- A value converts as before if an edit in it is not noticed. -/
theorem journal_readsLike (settings : Settings) (depth : Nat) {value other : Json}
    (like : value.ReadsLike .node other) :
    (journal settings depth value).Corresponds Eq (journal settings depth other) := by
  cases like with
  | refl => exact .of_eq rfl
  | single edited =>
    refine journal_corresponds rfl ?_
    have nodes := DocumentNode.ofJson?_readsLike edited
    generalize read : DocumentNode.ofJson? value = before,
      DocumentNode.ofJson? other = after at nodes
    cases nodes with
    | error cause => exact .error cause
    | @ok document image same =>
      refine .ok ⟨same.context_eq, fun _ => ?_⟩
      rw [same.kind_eq]
      have parallel : document.kind.form.Parallel (fun _ => Eq) document.kind.form Eq :=
        Form.parallel_refl (fun _ _ _ equal => equal) document.kind.form
      refine parallel.corresponds same.context_eq (fun field asked => ?_)
        ((Form.asks_keys document.kind).and (Form.asks_form document.kind))
      exact Field.corresponds_readsLike same
        (fun child imaged smaller below => journal_readsLike settings (depth + 1) below) field
        asked.1 asked.2
termination_by value.height
decreasing_by
  rw [DocumentNode.ofJson?_eq_ok read]
  exact smaller

/-- A document is imported with the same result after an edit that is not noticed. -/
theorem importUnit_edited (settings : Settings) {document other : Json}
    (edited : Json.Edited Role.Unnoticed .node document other) :
    importUnit settings other = importUnit settings document := by
  have contexts : rootContext other = rootContext document := by
    unfold rootContext
    have nodes := DocumentNode.ofJson?_readsLike edited
    generalize DocumentNode.ofJson? document = before, DocumentNode.ofJson? other = after at nodes
    cases nodes with
    | error cause => rfl
    | ok same => exact same.context_eq
  exact (importUnit_corresponds rfl Node.keeping_eq contexts
    (journal_readsLike settings 0 (.single edited))).eq

/-- A document is imported with the same result after any number of edits, none of which
is noticed. -/
theorem importUnit_edits (settings : Settings) {edit : Role → Members → Members → Prop}
    (unnoticed : ∀ role before after, edit role before after → role.Unnoticed before after)
    {document other : Json}
    (edited : Relation.ReflTransGen (Json.Edited edit .node) document other) :
    importUnit settings other = importUnit settings document := by
  induction edited with
  | refl => rfl
  | tail _ step ih => exact (importUnit_edited settings (step.imp unnoticed)).trans ih

end ContractTree
