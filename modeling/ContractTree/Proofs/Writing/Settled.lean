import ContractTree.Proofs.Writing.Answers

namespace ContractTree

/-!
# Questions are settled

A question is settled by a document node if it is answered without a failure.  The
document of a node whose children convert to themselves settles every question with
what the node says.
-/

theorem Json.mapM_asString? (texts : List String) :
    (texts.map str).mapM asString? = some texts := by
  induction texts with
  | nil => rfl
  | cons text rest ih =>
    rw [List.map_cons, List.mapM_cons, ih]
    rfl

/-- A question is answered, and how. -/
abbrev Field.Settled (settings : Settings) (depth : Nat) (document : DocumentNode)
    (field : Field) (answer : field.Answer) : Prop :=
  (field.answer settings depth document).result = .ok answer

namespace Field

variable {settings : Settings} {depth : Nat} {document : DocumentNode}

theorem settled_of_checked {field : Field} {answer : field.Answer}
    {checked : Checked field.Answer}
    (planned : field.plan settings document = .ofChecked document checked)
    (read : checked = .ok answer) : field.Settled settings depth document answer := by
  rw [Settled, Field.answer, planned, Plan.run_ofChecked, read]
  rfl

variable {style : Style} {node : Node} {key : String}

/-! ## Identifiers and locations -/

theorem settled_id : id.Settled settings depth (style.documentOf node) node.id := by
  apply settled_of_checked rfl
  have integral : (Json.int node.id.toInt).asInt?.bind NodeId.ofInt? = some node.id :=
    NodeId.ofInt?_toInt node.id
  rw [DocumentNode.readId, Style.documentOf, Style.structural?_id]
  simp only [integral]

theorem settled_idOrZero : idOrZero.Settled settings depth (style.documentOf node) node.id := by
  change Except.ok ((style.documentOf node).id?.getD 0) = _
  rw [Style.id?_documentOf]
  rfl

theorem readLocation?_documentOf (within : node.location.Within settings.source) :
    (style.documentOf node).readLocation? settings.source = .ok (some node.location) := by
  have marker : (style.documentOf node).readMarker? = .ok (some node.location.span.text) := by
    rw [DocumentNode.readMarker?, Style.documentOf, Style.structural?_src]
  have place : readPlace settings.source node.location.span.text = .ok node.location := by
    rw [readPlace, SourceLocation.ofMarker?_text within.source_eq within.ordered]
  simp only [DocumentNode.readLocation?, marker, bind, Except.bind, place]
  rfl

theorem settled_location (within : node.location.Within settings.source) :
    location.Settled settings depth (style.documentOf node) node.location := by
  apply settled_of_checked rfl
  simp only [DocumentNode.readLocation, readLocation?_documentOf within, bind, Except.bind]
  rfl

theorem settled_locationOrWhole (within : node.location.Within settings.source) :
    locationOrWhole.Settled settings depth (style.documentOf node) node.location := by
  apply settled_of_checked rfl
  rw [readLocation?_documentOf within]
  rfl

/-! ## Scalars -/

section Scalars

variable (reads : style.ReadBy settings.layout)

include reads

theorem settled_text {text : String} (field : (key, some (.str text)) ∈ node.shape.scalars) :
    (Field.text key).Settled settings depth (style.documentOf node) text := by
  have found := Style.scalar?_of_mem reads field (Fields.present_some rfl)
  apply settled_of_checked rfl
  simp only [DocumentNode.readText, DocumentNode.readText?, found, bind, Except.bind]
  rfl

theorem settled_text? {text : Option String} (field : textField key text ∈ node.shape.scalars) :
    (text? key).Settled settings depth (style.documentOf node) text := by
  have found := Style.scalar?_of_mem reads field (Fields.present_map (fun _ => rfl) text)
  apply settled_of_checked rfl
  rw [DocumentNode.readText?, found]
  cases text <;> rfl

theorem settled_noText (missing : key ∉ reserved ++ node.shape.keys) :
    (text? key).Settled settings depth (style.documentOf node) none := by
  apply settled_of_checked rfl
  rw [DocumentNode.readText?, Style.scalar?_of_not_mem reads missing]

theorem settled_flag? {flag : Option Bool}
    (field : (key, flag.map Json.bool) ∈ node.shape.scalars) :
    (flag? key).Settled settings depth (style.documentOf node) flag := by
  have found := Style.scalar?_of_mem reads field (Fields.present_map (fun _ => rfl) flag)
  apply settled_of_checked rfl
  rw [DocumentNode.readFlag?, found]
  cases flag <;> rfl

theorem settled_flag {flag : Bool} (field : (key, some (.bool flag)) ∈ node.shape.scalars) :
    (Field.flag key).Settled settings depth (style.documentOf node) flag := by
  have found := Style.scalar?_of_mem reads field (Fields.present_some rfl)
  apply settled_of_checked rfl
  simp only [DocumentNode.readFlag, DocumentNode.readFlag?, found, bind, Except.bind]
  rfl

theorem settled_documentation {text : Option String}
    (field : textField "documentation" text ∈ node.shape.scalars) :
    documentation.Settled settings depth (style.documentOf node) text := by
  have found := Style.scalar?_of_mem reads field (Fields.present_map (fun _ => rfl) text)
  apply settled_of_checked rfl
  rw [DocumentNode.readDocumentation?, found]
  cases text <;> rfl

theorem settled_typeText {text : String}
    (field : ("typeName", some (.str text)) ∈ node.shape.scalars) :
    typeText.Settled settings depth (style.documentOf node) text := by
  apply settled_of_checked rfl
  rw [DocumentNode.readTypeText, Style.scalar?_of_mem reads field (Fields.present_some rfl)]

end Scalars

/-! ## Lists and references -/

theorem readItems_documentOf {items : List Json}
    (field : (key, some (.arr items)) ∈ node.shape.scalars) (noTag : key ≠ "name" ∧ key ≠ "kind") :
    (style.documentOf node).readItems key = .ok items := by
  rw [DocumentNode.readItems, Style.structural?_of_mem field (Fields.present_some rfl) noTag]

theorem settled_texts {texts : List String}
    (field : (key, some (.arr (texts.map .str))) ∈ node.shape.scalars)
    (noTag : key ≠ "name" ∧ key ≠ "kind") :
    (Field.texts key).Settled settings depth (style.documentOf node) texts := by
  have strings := Json.mapM_asString? texts
  apply settled_of_checked rfl
  simp only [DocumentNode.readTexts, readItems_documentOf field noTag, bind, Except.bind, strings]
  rfl

theorem settled_noObject {text : String}
    (field : ("typeName", some (.str text)) ∈ node.shape.scalars) :
    (holdsObject "typeName").Settled settings depth (style.documentOf node) false := by
  have found : (style.documentOf node).structural? "typeName" = some (.str text) :=
    Style.structural?_of_mem field (Fields.present_some rfl) (by decide)
  change Except.ok (((style.documentOf node).structural? "typeName").any Json.isObject) = _
  rw [found]
  rfl

theorem settled_references {operations : String} {references : List ExternalReference}
    (grammatical : node.Grammatical settings.source)
    (shape : node.shape = .statement (.inlineAssembly operations references)) :
    Field.references.Settled settings depth (style.documentOf node) references := by
  have within := grammatical.shape
  rw [shape] at within
  have field : ("externalReferences", some (.arr (references.map ExternalReference.write))) ∈
      node.shape.scalars := by
    rw [shape]
    exact .tail _ (.head _)
  have each : (references.map ExternalReference.write).map
      (ExternalReference.read settings.source) = references.map .ok := by
    rw [List.map_map]
    exact List.map_congr_left fun reference member =>
      ExternalReference.read_write (within reference member)
  apply settled_of_checked rfl
  rw [DocumentNode.readReferences, readItems_documentOf field (by decide)]
  exact mapM_eq_ok_iff.2 each

/-! ## Children -/

theorem settled_holds {category : Category} {slot : Slot Node}
    (part : ⟨key, category, slot⟩ ∈ node.shape.plainParts) :
    (holds key).Settled settings depth (style.documentOf node) slot.isPresent := by
  have present : ((slot.map style.write).written).isSome = slot.isPresent := by
    cases slot with
    | maybe child => cases child <;> rfl
    | _ => rfl
  change Except.ok ((style.documentOf node).structural? key).isSome = _
  rw [Style.structural?_part part, present]

theorem settled_noChild {category : Category} (missing : key ∉ reserved ++ node.shape.keys)
    (noTag : key ≠ "name" ∧ key ≠ "kind") :
    (child? key category).Settled settings depth (style.documentOf node) none := by
  rw [Settled, answer_child?, Style.structural?_of_not_mem missing noTag]
  rfl

/-- A node that keeps to the grammar, and whose children convert to themselves. -/
structure Ready (settings : Settings) (depth : Nat) (style : Style) (node : Node) : Prop where
  grammatical : node.Grammatical settings.source
  converts : ∀ child ∈ node.children, style.Converts settings depth child

namespace Ready

variable {category : Category} {slot : Slot Node} {child : Node}

theorem converts_of_part (ready : Ready settings depth style node)
    (part : ⟨key, category, slot⟩ ∈ node.shape.plainParts) (inside : child ∈ slot.children) :
    style.Converts settings depth child :=
  ready.converts child (List.mem_flatMap.2 ⟨_, (List.mem_filter.1 part).1, inside⟩)

theorem accepted_of_part (ready : Ready settings depth style node)
    (part : ⟨key, category, slot⟩ ∈ node.shape.plainParts) (inside : child ∈ slot.children) :
    category.accepts child.kind = true :=
  ready.grammatical.parts _ (List.mem_filter.1 part).1 child inside

variable (ready : Ready settings depth style node)

include ready

/-- A child that stands under a key is the answer. -/
theorem settled_child (inside : child ∈ slot.children)
    (part : ⟨key, category, slot⟩ ∈ node.shape.plainParts)
    (found : (slot.map style.write).written = some (style.write child)) :
    (Field.child key category).Settled settings depth (style.documentOf node) child := by
  rw [Settled, answer_child, Style.structural?_part part, found]
  exact Journal.result_inCategory (ready.converts_of_part part inside)
    (ready.accepted_of_part part inside)

theorem settled_child?_some (inside : child ∈ slot.children)
    (part : ⟨key, category, slot⟩ ∈ node.shape.plainParts)
    (found : (slot.map style.write).written = some (style.write child)) :
    (Field.child? key category).Settled settings depth (style.documentOf node) (some child) := by
  rw [Settled, answer_child?, Style.structural?_part part, found, Journal.result_bind_eq_ok]
  exact ⟨child, Journal.result_inCategory (ready.converts_of_part part inside)
    (ready.accepted_of_part part inside), rfl⟩

theorem settled_child? {child : Option Node}
    (part : ⟨key, category, .maybe child⟩ ∈ node.shape.plainParts) :
    (Field.child? key category).Settled settings depth (style.documentOf node) child := by
  cases child with
  | none =>
    rw [Settled, answer_child?, Style.structural?_part part]
    rfl
  | some child => exact ready.settled_child?_some (List.mem_singleton.2 rfl) part rfl

theorem settled_children {children : List Node}
    (part : ⟨key, category, .many children⟩ ∈ node.shape.plainParts) :
    (Field.children key category).Settled settings depth (style.documentOf node) children := by
  have items : (style.documentOf node).readItems key = .ok (children.map style.write) := by
    rw [DocumentNode.readItems, Style.structural?_part part]
    rfl
  have each : ((children.map style.write).mapM (Journal.entry settings depth
      (style.documentOf node) key category)).result = .ok (children.map fun child => child) :=
    Journal.result_mapM fun child member => Journal.result_entry
      (ready.converts_of_part part member) (ready.accepted_of_part part member)
  rw [List.map_id'] at each
  rw [Settled, answer_children, items]
  exact each

theorem settled_gappedChildren {children : List (Option Node)}
    (part : ⟨key, category, .gapped children⟩ ∈ node.shape.plainParts) :
    (Field.gappedChildren key category).Settled settings depth (style.documentOf node)
      children := by
  have items : (style.documentOf node).readItems key =
      .ok (children.map fun child => (child.map style.write).getD .null) := by
    rw [DocumentNode.readItems, Style.structural?_part part]
    exact congrArg Except.ok List.map_map
  have inside : ∀ child ∈ children, ∀ node, child = some node →
      node ∈ (Slot.gapped children).children := by
    rintro _ member node rfl
    exact List.mem_filterMap.2 ⟨some node, member, rfl⟩
  have each : ((children.map fun child => (child.map style.write).getD .null).mapM
      (Journal.gappedEntry settings depth (style.documentOf node) key category)).result =
        .ok (children.map fun child => child) :=
    Journal.result_mapM fun child member => Journal.result_gappedEntry
      (fun node given => ready.converts_of_part part (inside child member node given))
      (fun node given => ready.accepted_of_part part (inside child member node given))
  rw [List.map_id'] at each
  rw [Settled, answer_gappedChildren, items]
  exact each

theorem settled_aliases {path unitAlias : String} {symbols : List (SymbolAlias Node)}
    (shape : node.shape = .declaration (.importDirective path unitAlias symbols)) :
    aliases.Settled settings depth (style.documentOf node)
      (symbols.map (SymbolAlias.map .inr)) := by
  have items : (style.documentOf node).readItems "symbolAliases" =
      .ok (symbols.map fun symbol => (symbol.map style.write).write) := by
    rw [DocumentNode.readItems, Style.structural?_aliases shape]
  have part : ⟨"symbolAliases", .identifier, .many (symbols.map (·.foreign))⟩ ∈
      node.shape.parts := by
    rw [shape]
    exact .head _
  have inside : ∀ symbol ∈ symbols, symbol.foreign ∈ symbols.map (·.foreign) :=
    fun symbol member => List.mem_map_of_mem member
  rw [Settled, answer_aliases, items]
  exact Journal.result_mapM fun symbol member => Journal.result_symbolAlias
    (ready.converts _ (List.mem_flatMap.2 ⟨_, part, inside symbol member⟩))
    (ready.grammatical.parts _ part _ (inside symbol member))

end Ready
end Field

/-- The document of a node answers what the node says. -/
theorem Node.Says.settled {settings : Settings} {depth : Nat} {style : Style} {node : Node}
    (reads : style.ReadBy settings.layout) (ready : Field.Ready settings depth style node)
    {field : Field} {answer : field.Answer} (said : node.Says field answer) :
    field.Settled settings depth (style.documentOf node) answer := by
  have within := ready.grammatical.location
  cases said with
  | id => exact Field.settled_id
  | idOrZero => exact Field.settled_idOrZero
  | location => exact Field.settled_location within
  | locationOrWhole => exact Field.settled_locationOrWhole within
  | text text field => exact Field.settled_text reads field
  | text? text field => exact Field.settled_text? reads field
  | noText missing => exact Field.settled_noText reads missing
  | flag flag field => exact Field.settled_flag reads field
  | flag? flag field => exact Field.settled_flag? reads field
  | documentation text field => exact Field.settled_documentation reads field
  | typeText text field => exact Field.settled_typeText reads field
  | texts texts field noTag => exact Field.settled_texts field noTag
  | holds category slot part => exact Field.settled_holds part
  | noObject field => exact Field.settled_noObject field
  | references shape => exact Field.settled_references ready.grammatical shape
  | child child part => exact ready.settled_child (List.mem_singleton.2 rfl) part rfl
  | present child part => exact ready.settled_child (List.mem_singleton.2 rfl) part rfl
  | child? child part => exact ready.settled_child? part
  | given child part => exact ready.settled_child?_some (List.mem_singleton.2 rfl) part rfl
  | noChild missing noTag => exact Field.settled_noChild missing noTag
  | children children part => exact ready.settled_children part
  | gappedChildren children part => exact ready.settled_gappedChildren part
  | aliases shape => exact ready.settled_aliases shape

end ContractTree
