import ContractTree.Proofs.Document.Rearranged
import ContractTree.Proofs.Form.Questions
import ContractTree.Proofs.Import.Identifiers

namespace ContractTree

/-!
# Journals that agree

Two journals agree if they have the same result and claim the same identifiers in the
same order.  The values that they attempt may be different: this is what conversions of
a document and of the same document with its nodes regrouped have in common.

Journals agree if they are made of parts that agree.  So the answers of a document node
and of its image agree if the conversions of the nodes below do, and from the answers to
the journal of a form it is an induction on the form.
-/

namespace Journal

variable {α β : Type}

/-- Two journals have the same result and the same claims. -/
structure Agrees (first second : Journal α) : Prop where
  result_eq : second.result = first.result
  claims_eq : second.claims = first.claims

namespace Agrees

theorem refl (journal : Journal α) : journal.Agrees journal := ⟨rfl, rfl⟩

theorem bind {first second : Journal α} {next following : α → Journal β}
    (agrees : first.Agrees second) (rest : ∀ answer, (next answer).Agrees (following answer)) :
    (first >>= next).Agrees (second >>= following) := by
  rcases first with ⟨events, result⟩
  rcases second with ⟨others, other⟩
  have same : other = result := agrees.result_eq
  have claims : List.filterMap Event.claim? others = List.filterMap Event.claim? events :=
    agrees.claims_eq
  subst same
  cases other with
  | error cause => exact ⟨rfl, claims⟩
  | ok answer =>
    refine ⟨(rest answer).result_eq, ?_⟩
    have later : (following answer).claims = (next answer).claims := (rest answer).claims_eq
    change List.filterMap Event.claim? (others ++ (following answer).events) =
      List.filterMap Event.claim? (events ++ (next answer).events)
    rw [List.filterMap_append, List.filterMap_append, claims]
    exact congrArg _ later

theorem note {first second : Event} (same : second.claim? = first.claim?) :
    (Journal.note first).Agrees (Journal.note second) := by
  refine ⟨rfl, ?_⟩
  change List.filterMap Event.claim? [second] = List.filterMap Event.claim? [first]
  rw [List.filterMap_cons, List.filterMap_cons, same]

theorem mapM {step other : Json → Journal α} {change : Json → Json} {items : List Json}
    (each : ∀ item ∈ items, (step item).Agrees (other (change item))) :
    (items.mapM step).Agrees ((items.map change).mapM other) := by
  induction items with
  | nil => exact refl _
  | cons item rest ih =>
    have here := each item (List.mem_cons_self ..)
    have there := ih fun later member => each later (List.mem_cons_of_mem _ member)
    rw [List.map_cons, List.mapM_cons, List.mapM_cons]
    exact here.bind fun answer => there.bind fun answers => refl _

theorem ofChecked {document image : DocumentNode} (context : image.context = document.context)
    (checked : Checked α) :
    (Journal.ofChecked document checked).Agrees (Journal.ofChecked image checked) := by
  cases checked with
  | ok answer => exact refl _
  | error defect =>
    unfold Journal.ofChecked
    rw [context]
    exact refl _

end Agrees
end Journal

/-! ## What a document node and its image are read to have -/

namespace DocumentNode.ReadsAs

variable {change : Members → Members} {layout other : FieldLayout} {document image : DocumentNode}
  (reads : document.ReadsAs change layout other image) {key : String}

include reads

theorem structural?_of_plain (fits : key ∉ reservedKeys)
    (plain : document.kind.position key = .plain) :
    image.structural? key = document.structural? key := by
  rw [reads.structural?_eq key fits, plain]
  cases document.structural? key with
  | none => rfl
  | some value => exact congrArg some Json.rearrange_plain

theorem scalar?_of_plain (fits : key ∉ ["nodeType", "attributes"])
    (plain : document.kind.position key = .plain) :
    image.scalar? other key = document.scalar? layout key := by
  rw [reads.scalar?_eq key fits, plain]
  cases document.scalar? layout key with
  | none => rfl
  | some value => exact congrArg some Json.rearrange_plain

theorem structural?_id : image.structural? "id" = document.structural? "id" :=
  reads.structural?_of_plain (by decide) (document.kind.position_common "id" (by decide))

theorem structural?_src : image.structural? "src" = document.structural? "src" :=
  reads.structural?_of_plain (by decide) (document.kind.position_common "src" (by decide))

theorem id?_eq : image.id? = document.id? := by
  rw [id?, reads.structural?_id, id?]

theorem context_eq : image.context = document.context := by
  rw [context, reads.id?_eq, reads.kind_eq, context]

theorem readId_eq : image.readId = document.readId := by
  rw [readId, reads.structural?_id, readId]

theorem readLocation?_eq (source : SourceName) :
    image.readLocation? source = document.readLocation? source := by
  rw [readLocation?, readMarker?, reads.structural?_src, readLocation?, readMarker?]

theorem readLocation_eq (source : SourceName) :
    image.readLocation source = document.readLocation source := by
  rw [readLocation, reads.readLocation?_eq, readLocation]

theorem readText?_eq (fits : key ∉ ["nodeType", "attributes"])
    (plain : document.kind.position key = .plain) :
    image.readText? other key = document.readText? layout key := by
  rw [readText?, reads.scalar?_of_plain fits plain, readText?]

theorem readText_eq (fits : key ∉ ["nodeType", "attributes"])
    (plain : document.kind.position key = .plain) :
    image.readText other key = document.readText layout key := by
  rw [readText, reads.readText?_eq fits plain, readText]

theorem readFlag?_eq (fits : key ∉ ["nodeType", "attributes"])
    (plain : document.kind.position key = .plain) :
    image.readFlag? other key = document.readFlag? layout key := by
  rw [readFlag?, reads.scalar?_of_plain fits plain, readFlag?]

theorem readFlag_eq (fits : key ∉ ["nodeType", "attributes"])
    (plain : document.kind.position key = .plain) :
    image.readFlag other key = document.readFlag layout key := by
  rw [readFlag, reads.readFlag?_eq fits plain, readFlag]

theorem readDocumentation?_eq :
    image.readDocumentation? other = document.readDocumentation? layout := by
  have plain := document.kind.position_common "documentation" (by decide)
  rw [readDocumentation?, reads.scalar?_of_plain (by decide) plain, readDocumentation?]

theorem readTypeString?_eq : image.readTypeString? other = document.readTypeString? layout := by
  have plain := document.kind.position_common "typeDescriptions" (by decide)
  rw [readTypeString?, reads.scalar?_of_plain (by decide) plain, readTypeString?]

theorem readTexts_eq (fits : key ∉ reservedKeys) (plain : document.kind.position key = .plain) :
    image.readTexts key = document.readTexts key := by
  rw [readTexts, readItems, reads.structural?_of_plain fits plain, readTexts, readItems]

theorem readReferences_eq (source : SourceName) :
    image.readReferences source = document.readReferences source := by
  have plain := document.kind.position_common "externalReferences" (by decide)
  rw [readReferences, readItems, reads.structural?_of_plain (by decide) plain, readReferences,
    readItems]

theorem isSome_eq (fits : key ∉ reservedKeys) :
    (image.structural? key).isSome = (document.structural? key).isSome := by
  rw [reads.structural?_eq key fits, Option.isSome_map]

theorem readItems_eq (holds : document.kind.position key ≠ .plain) :
    image.readItems key = (document.readItems key).map
      (List.map (Json.rearrange change (document.kind.position key).item)) := by
  rw [readItems, reads.structural?_eq key (NodeKind.not_mem_reservedKeys holds), readItems]
  cases document.structural? key with
  | none => rfl
  | some value =>
    cases value with
    | arr items =>
      rw [Option.map_some, Json.rearrange_arr holds, Json.rearrangeItems_eq_map]
      rfl
    | _ => cases document.kind.position key <;> rfl

theorem readTypeText_eq : image.readTypeText other = document.readTypeText layout := by
  rw [readTypeText, reads.scalar?_eq "typeName" (by decide), readTypeText]
  cases document.scalar? layout "typeName" with
  | none => rfl
  | some value => cases document.kind.position "typeName" <;> cases value <;> rfl

theorem any_isObject_eq (fits : key ∉ reservedKeys) :
    (image.structural? key).any Json.isObject = (document.structural? key).any Json.isObject := by
  rw [reads.structural?_eq key fits]
  cases document.structural? key with
  | none => rfl
  | some value => exact Json.isObject_rearrange

end DocumentNode.ReadsAs

/-! ## Answers that agree -/

/-- A document node and its image, the nodes below which have images that agree. -/
structure Alike (change : Members → Members) (settings other : Settings) (depth : Nat)
    (document image : DocumentNode) : Prop where
  reads : document.ReadsAs change settings.layout other.layout image
  source_eq : other.source = settings.source
  whole_eq : other.wholeSource = settings.wholeSource
  separated : ∀ key value, key ∉ reservedKeys → document.structural? key = some value →
    ∀ inner ∈ value.nodesAt (document.kind.position key), Members.Separated inner
  converts : ∀ value : Json, value.height < document.height →
    (∀ inner ∈ value.nodes, Members.Separated inner) →
      (journal settings depth value).Agrees (journal other depth (value.rearranged change))

namespace Alike

variable {change : Members → Members} {settings other : Settings} {depth : Nat}
  {document image : DocumentNode} (alike : Alike change settings other depth document image)
  {key : String} {category : Category} {α : Type}

include alike

theorem narrowed {narrow : Node → Option α} {value : Json}
    (smaller : value.height < document.height)
    (separated : ∀ inner ∈ value.nodes, Members.Separated inner) :
    (Journal.narrowed settings depth document key category narrow value).Agrees
      (Journal.narrowed other depth image key category narrow (value.rearranged change)) := by
  have context := alike.reads.context_eq
  have object : (value.rearranged change).isObject = value.isObject := Json.isObject_rearrange
  unfold Journal.narrowed
  rw [object]
  split
  · refine (alike.converts value smaller separated).bind fun node => ?_
    cases narrow node with
    | some answer => exact .refl _
    | none => exact .ofChecked context _
  · exact .ofChecked context _

theorem entry {item : Json} (smaller : item.height < document.height)
    (separated : ∀ inner ∈ item.nodes, Members.Separated inner) :
    (Journal.entry settings depth document key category item).Agrees
      (Journal.entry other depth image key category (item.rearranged change)) := by
  have null : (item.rearranged change).isNull = item.isNull := Json.isNull_rearrange
  unfold Journal.entry
  rw [null]
  split
  · exact .ofChecked alike.reads.context_eq _
  · exact alike.narrowed smaller separated

theorem gappedEntry {item : Json} (smaller : item.height < document.height)
    (separated : ∀ inner ∈ item.nodes, Members.Separated inner) :
    (Journal.gappedEntry settings depth document key category item).Agrees
      (Journal.gappedEntry other depth image key category (item.rearranged change)) := by
  have null : (item.rearranged change).isNull = item.isNull := Json.isNull_rearrange
  unfold Journal.gappedEntry
  rw [null]
  split
  · exact .refl _
  · exact (alike.narrowed smaller separated).bind fun child => .refl _

theorem foreign {members : Members} (smaller : (Json.obj members).height < document.height)
    (separated : ∀ inner ∈ (Json.obj members).nodesAt .symbolAlias, Members.Separated inner) :
    (Journal.foreign settings depth document members).Agrees (Journal.foreign other depth image
      (Json.rearrangeMembers change (Position.symbolAlias.member members) members)) := by
  unfold Journal.foreign
  rw [Members.find?_rearrangeMembers, Position.member_alias_foreign]
  cases found : members.find? "foreign" with
  | none => exact .ofChecked alike.reads.context_eq _
  | some value =>
    cases value with
    | str name => exact .refl _
    | obj inner =>
      have below : ∀ node ∈ (Json.obj inner).nodes, Members.Separated node := by
        intro node inside
        refine separated node (List.mem_append_right _ ?_)
        refine Json.mem_membersNodesAt (Members.mem_of_find? found) ?_
        rw [Position.member_alias_foreign]
        exact inside
      have lower := Nat.lt_trans (Members.height_lt_of_find? found) smaller
      exact (alike.narrowed lower below).bind fun child => .refl _
    | _ =>
      exact .ofChecked alike.reads.context_eq
        (.error (.wrongType "symbolAliases" .aliasForeign))

theorem symbolAlias {item : Json} (smaller : item.height < document.height)
    (separated : ∀ inner ∈ item.nodesAt .symbolAlias, Members.Separated inner) :
    (Journal.symbolAlias settings depth document item).Agrees
      (Journal.symbolAlias other depth image (item.rearrange change .symbolAlias)) := by
  have context := alike.reads.context_eq
  cases item with
  | obj members =>
    have plain : Position.symbolAlias.member members "local" = .plain :=
      Position.member_alias_of_ne (by decide)
    have named : SymbolAlias.readLocalName
        (Json.rearrangeMembers change (Position.symbolAlias.member members) members) =
          SymbolAlias.readLocalName members := by
      rw [SymbolAlias.readLocalName, Members.find?_rearrangeMembers, plain,
        SymbolAlias.readLocalName]
      cases Members.find? members "local" with
      | none => rfl
      | some value => rw [Option.map_some, Json.rearrange_plain]
    rw [Json.rearrange_alias]
    unfold Journal.symbolAlias
    refine (alike.foreign smaller separated).bind fun name => ?_
    rw [named]
    exact (Journal.Agrees.ofChecked context _).bind fun localName => .refl _
  | _ => exact .ofChecked context (.error (.wrongType "symbolAliases" .aliasList))

/-- The items of a list agree if each does. -/
theorem items {step following : Json → Journal α} (holds : document.kind.position key ≠ .plain)
    (each : ∀ item : Json, item.height < document.height →
      (∀ inner ∈ item.nodesAt (document.kind.position key).item, Members.Separated inner) →
        (step item).Agrees
          (following (item.rearrange change (document.kind.position key).item))) :
    (Journal.ofChecked document (document.readItems key) >>= List.mapM step).Agrees
      (Journal.ofChecked image (image.readItems key) >>= List.mapM following) := by
  rw [alike.reads.readItems_eq holds]
  cases read : document.readItems key with
  | error defect =>
    have failed : (Journal.ofChecked document (.error defect) : Journal (List α)).Agrees
        (Journal.ofChecked image (.error defect)) := .ofChecked alike.reads.context_eq _
    exact failed
  | ok items =>
    refine Journal.Agrees.mapM fun item member => each item ?_ fun inner inside => ?_
    · exact DocumentNode.height_item_lt read member
    · rcases DocumentNode.readItems_cases read with ⟨_, rfl⟩ | stands
      · cases member
      · refine alike.separated key (.arr items) (NodeKind.not_mem_reservedKeys holds) stands
          inner ?_
        rw [Json.nodesAt_arr holds]
        exact Json.mem_itemsNodesAt member inside

theorem answer_children (expected : document.kind.position key = .nodes) :
    ((Field.children key category).answer settings depth document).Agrees
      ((Field.children key category).answer other depth image) := by
  have holds : document.kind.position key ≠ .plain := by rw [expected]; exact nofun
  rw [Field.answer_children, Field.answer_children]
  refine alike.items holds fun item smaller below => ?_
  rw [expected] at below ⊢
  exact alike.entry smaller below

theorem answer_gappedChildren (expected : document.kind.position key = .nodes) :
    ((Field.gappedChildren key category).answer settings depth document).Agrees
      ((Field.gappedChildren key category).answer other depth image) := by
  have holds : document.kind.position key ≠ .plain := by rw [expected]; exact nofun
  rw [Field.answer_gappedChildren, Field.answer_gappedChildren]
  refine alike.items holds fun item smaller below => ?_
  rw [expected] at below ⊢
  exact alike.gappedEntry smaller below

theorem answer_aliases (expected : document.kind.position "symbolAliases" = .symbolAliases) :
    (Field.aliases.answer settings depth document).Agrees
      (Field.aliases.answer other depth image) := by
  have holds : document.kind.position "symbolAliases" ≠ .plain := by rw [expected]; exact nofun
  rw [Field.answer_aliases, Field.answer_aliases]
  refine alike.items holds fun item smaller below => ?_
  rw [expected] at below ⊢
  exact alike.symbolAlias smaller below

/-- What is read alike is answered alike. -/
theorem answer_checked (field : Field) {checked imaged : Checked field.Answer}
    (same : imaged = checked) (planned : field.plan settings document = .ofChecked document checked)
    (following : field.plan other image = .ofChecked image imaged) :
    (field.answer settings depth document).Agrees (field.answer other depth image) := by
  rw [Field.answer, Field.answer, planned, following, same, Plan.run_ofChecked,
    Plan.run_ofChecked]
  exact .ofChecked alike.reads.context_eq checked

theorem answer_child (expected : document.kind.position key = .node) :
    ((Field.child key category).answer settings depth document).Agrees
      ((Field.child key category).answer other depth image) := by
  have fits : key ∉ reservedKeys :=
    NodeKind.not_mem_reservedKeys (by rw [expected]; exact nofun)
  rw [Field.answer_child, Field.answer_child, alike.reads.structural?_eq key fits]
  cases stands : document.structural? key with
  | none => exact .ofChecked alike.reads.context_eq _
  | some value =>
    have below := alike.separated key value fits stands
    rw [expected] at below ⊢
    exact alike.narrowed (DocumentNode.height_structural_lt stands) below

theorem answer_child? (expected : document.kind.position key = .node) :
    ((Field.child? key category).answer settings depth document).Agrees
      ((Field.child? key category).answer other depth image) := by
  have fits : key ∉ reservedKeys :=
    NodeKind.not_mem_reservedKeys (by rw [expected]; exact nofun)
  rw [Field.answer_child?, Field.answer_child?, alike.reads.structural?_eq key fits]
  cases stands : document.structural? key with
  | none => exact .refl _
  | some value =>
    have below := alike.separated key value fits stands
    rw [expected] at below ⊢
    exact (alike.narrowed (DocumentNode.height_structural_lt stands) below).bind
      fun child => .refl _

theorem answer_elementaryChild (expected : document.kind.position key = .node) :
    ((Field.elementaryChild key).answer settings depth document).Agrees
      ((Field.elementaryChild key).answer other depth image) := by
  have fits : key ∉ reservedKeys :=
    NodeKind.not_mem_reservedKeys (by rw [expected]; exact nofun)
  rw [Field.answer_elementaryChild, Field.answer_elementaryChild,
    alike.reads.structural?_eq key fits]
  cases stands : document.structural? key with
  | none => exact .ofChecked alike.reads.context_eq _
  | some value =>
    have below := alike.separated key value fits stands
    rw [expected] at below ⊢
    exact alike.narrowed (DocumentNode.height_structural_lt stands) below

/-- A question that fits the kind of a document node is answered alike. -/
theorem answer (field : Field) (fits : field.Fits document.kind) :
    (field.answer settings depth document).Agrees (field.answer other depth image) := by
  have reads := alike.reads
  cases field with
  | id => exact alike.answer_checked .id reads.readId_eq rfl rfl
  | idOrZero =>
    have same : (.ok (image.id?.getD 0) : Checked NodeId) = .ok (document.id?.getD 0) := by
      rw [reads.id?_eq]
    exact alike.answer_checked .idOrZero same rfl rfl
  | location =>
    have same : image.readLocation other.source = document.readLocation settings.source := by
      rw [alike.source_eq, reads.readLocation_eq]
    exact alike.answer_checked .location same rfl rfl
  | locationOrWhole =>
    have same : (image.readLocation? other.source).map (·.getD other.wholeSource) =
        (document.readLocation? settings.source).map (·.getD settings.wholeSource) := by
      rw [alike.source_eq, alike.whole_eq, reads.readLocation?_eq]
    exact alike.answer_checked .locationOrWhole same rfl rfl
  | text key =>
    exact alike.answer_checked (.text key) (reads.readText_eq fits.2 fits.1) rfl rfl
  | text? key =>
    exact alike.answer_checked (.text? key) (reads.readText?_eq fits.2 fits.1) rfl rfl
  | flag key =>
    exact alike.answer_checked (.flag key) (reads.readFlag_eq fits.2 fits.1) rfl rfl
  | flag? key =>
    exact alike.answer_checked (.flag? key) (reads.readFlag?_eq fits.2 fits.1) rfl rfl
  | documentation =>
    exact alike.answer_checked .documentation reads.readDocumentation?_eq rfl rfl
  | typeString =>
    have same : (.ok (image.readTypeString? other.layout) : Checked (Option String)) =
        .ok (document.readTypeString? settings.layout) := by
      rw [reads.readTypeString?_eq]
    exact alike.answer_checked .typeString same rfl rfl
  | typeText => exact alike.answer_checked .typeText reads.readTypeText_eq rfl rfl
  | texts key =>
    exact alike.answer_checked (.texts key) (reads.readTexts_eq fits.2 fits.1) rfl rfl
  | holds key =>
    have same : (.ok (image.structural? key).isSome : Checked Bool) =
        .ok (document.structural? key).isSome := by
      rw [reads.isSome_eq fits]
    exact alike.answer_checked (.holds key) same rfl rfl
  | holdsObject key =>
    have key_eq : key = "typeName" := fits.2
    have same : (.ok ((image.structural? key).any Json.isObject) : Checked Bool) =
        .ok ((document.structural? key).any Json.isObject) := by
      rw [reads.any_isObject_eq (by rw [key_eq]; decide)]
    exact alike.answer_checked (.holdsObject key) same rfl rfl
  | references =>
    have same : image.readReferences other.source = document.readReferences settings.source := by
      rw [alike.source_eq, reads.readReferences_eq]
    exact alike.answer_checked .references same rfl rfl
  | child key category => exact alike.answer_child fits
  | child? key category => exact alike.answer_child? fits
  | elementaryChild key => exact alike.answer_elementaryChild fits
  | children key category => exact alike.answer_children fits
  | gappedChildren key category => exact alike.answer_gappedChildren fits
  | aliases => exact alike.answer_aliases fits

/-- A form whose questions fit the kind of a document node is filled in alike. -/
theorem fill {form : Form α} {good : α → Prop} (asks : form.Asks (Field.Fits document.kind) good) :
    (form.fill document (Field.answer settings depth document)).Agrees
      (form.fill image (Field.answer other depth image)) := by
  induction form with
  | done result => exact .refl _
  | fail defect => exact .ofChecked alike.reads.context_eq (.error defect)
  | read field next ih =>
    exact (alike.answer field asks.1).bind fun answer => ih answer (asks.2 answer)

end Alike
end ContractTree
