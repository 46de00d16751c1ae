import ContractTree.Proofs.Conversion.Journal
import ContractTree.Proofs.Document.Edited
import ContractTree.Proofs.Document.Roles
import ContractTree.Proofs.Form.Questions

namespace ContractTree

/-!
# What is converted has the role of a node

A conversion asks for the nodes of further values, and which these are may depend on
everything that it has found so far.  But they all stand where a document has nodes: in
each of them the roles of the values around it make it a node.  So whatever is attempted
in the course of an import, of well-formed documents and of others, is read as a node.
-/

/-- A value stands somewhere in a document, and is read as its role says. -/
inductive Json.Stands (document : Json) : Role → Json → Prop where
  | root : document.Stands .node document
  | item {role : Role} {items : List Json} {value : Json} (list : document.Stands role (.arr items))
    (listed : value ∈ items) : document.Stands role.item value
  | member {role : Role} {members : Members} {key : String} {value : Json}
    (object : document.Stands role (.obj members)) (listed : (key, value) ∈ members) :
    document.Stands (role.member members key) value

/-- An edit of a value that stands in a document is an edit of the document. -/
theorem Json.Stands.edited {edit : Role → Members → Members → Prop} {document value other : Json}
    {role : Role} (standing : document.Stands role value)
    (inner : Json.Edited edit role value other) :
    ∃ image, Json.Edited edit .node document image := by
  induction standing generalizing other with
  | root => exact ⟨other, inner⟩
  | item list listed ih =>
    rcases List.append_of_mem listed with ⟨front, back, rfl⟩
    exact ih (.item front back inner)
  | member object listed ih =>
    rcases List.append_of_mem listed with ⟨front, back, rfl⟩
    exact ih (.member front back inner)

/-! ## Values in the fields of a node -/

section Fields

variable {root : Json} {document : DocumentNode} (standing : root.Stands .node document.toJson)
  (resolved : document.members.resolvedKind? = some document.kind) {key : String} {value : Json}

include standing resolved

/-- What is found under a key of a node is read as the kind of the node says, also if it
is found among the attributes. -/
theorem Json.Stands.of_structural? (field : key ≠ "attributes")
    (found : document.structural? key = some value) :
    root.Stands (.ofKey document.kind key) value := by
  rcases Option.or_eq_some_iff.1 found with own | ⟨_, nested⟩
  · have stands := standing.member (Members.mem_of_find? own)
    rwa [Role.member_node_of_ne resolved field] at stands
  · rcases Members.find?_attributes_eq_some_iff.1 nested with ⟨inner, grouping, found⟩
    have stands := standing.member (Members.mem_of_find? grouping)
    rw [Role.member, if_pos rfl, resolved] at stands
    exact stands.member (Members.mem_of_find? found)

/-- A value where nodes of the kind have something has a role in the position. -/
theorem Json.Stands.of_position {position : Position}
    (expected : document.kind.position key = position) (holds : position ≠ .plain)
    (found : document.structural? key = some value) : root.Stands (.of position) value := by
  have field : key ≠ "attributes" := by
    rintro rfl
    exact holds (expected.symm.trans (document.kind.position_common _ (by decide)))
  have stands := standing.of_structural? resolved field found
  rwa [Role.ofKey_of_position expected holds] at stands

end Fields

/-! ## Plans -/

namespace Plan

variable {bound : Nat} {α β : Type} {property : Json → Prop}

/-- A plan asks for the nodes of values with a property only. -/
def AsksFor (property : Json → Prop) : Plan bound α → Prop
  | done _ => True
  | fail _ => True
  | convert value _ next => property value ∧ ∀ node, (next node).AsksFor property

theorem asksFor_bind {plan : Plan bound α} {next : α → Plan bound β}
    (first : plan.AsksFor property) (rest : ∀ answer, (next answer).AsksFor property) :
    (plan.bind next).AsksFor property := by
  induction plan with
  | done result => exact rest result
  | fail cause => trivial
  | convert value smaller later ih => exact ⟨first.1, fun node => ih node (first.2 node)⟩

theorem asksFor_ofChecked {document : DocumentNode} (checked : Checked α) :
    (ofChecked document checked : Plan bound α).AsksFor property := by
  cases checked <;> trivial

theorem asksFor_narrowed {document : DocumentNode} {key : String} {category : Category}
    {value : Json} {smaller : value.height < bound} {narrow : Node → Option α}
    (holds : property value) :
    (narrowed document key category value smaller narrow).AsksFor property := by
  unfold narrowed
  split
  · refine ⟨holds, fun node => ?_⟩
    dsimp only
    cases narrow node with
    | some answer => trivial
    | none => exact asksFor_ofChecked _
  · exact asksFor_ofChecked _

theorem asksFor_structural {document : DocumentNode} {key : String}
    {next : Option { value : Json // value.height < document.height } → Plan document.height α}
    (found : ∀ value, document.structural? key = some value.1 →
      (next (some value)).AsksFor property)
    (missing : (next none).AsksFor property) :
    (structural document key next).AsksFor property := by
  unfold structural
  split
  · next value stands => exact found ⟨value, _⟩ stands
  · exact missing

theorem asksFor_each {step : (item : Json) → item.height < bound → Plan bound α}
    {items : List Json} (smaller : ∀ item ∈ items, item.height < bound)
    (steps : ∀ item ∈ items, ∀ low, (step item low).AsksFor property) (before : List α) :
    (each items smaller step before).AsksFor property := by
  induction items generalizing before with
  | nil => trivial
  | cons item rest ih =>
    refine asksFor_bind (steps item (List.mem_cons_self ..) _) fun answer => ?_
    exact ih _ (fun later member => steps later (List.mem_cons_of_mem _ member)) _

theorem asksFor_items {document : DocumentNode} {key : String}
    {step : (item : Json) → item.height < document.height → Plan document.height α}
    (steps : ∀ list item, document.structural? key = some (.arr list) → item ∈ list →
      ∀ low, (step item low).AsksFor property) :
    (items document key step).AsksFor property := by
  unfold items
  split
  · next list read =>
    refine asksFor_each _ (fun item member low => ?_) []
    unfold DocumentNode.readItems at read
    split at read
    · cases read
      cases member
    · next found =>
      cases read
      exact steps list item found member low
    · cases read
  · exact asksFor_ofChecked _

/-- What happens when a plan is carried out happens when one of the values is converted
that it asks for. -/
theorem AsksFor.of_mem_run {convertValue : (value : Json) → value.height < bound → Journal Node}
    {plan : Plan bound α} (asks : plan.AsksFor property) {event : Event}
    (happened : event ∈ (plan.run convertValue).events) :
    ∃ value smaller, property value ∧ event ∈ (convertValue value smaller).events := by
  induction plan with
  | done result => cases happened
  | fail cause => cases happened
  | convert value smaller next ih =>
    rcases Journal.mem_events_bind happened with here | ⟨node, _, later⟩
    · exact ⟨value, smaller, asks.1, here⟩
    · exact ih node (asks.2 node) later

end Plan

/-! ## Documents -/

section Documents

variable {root : Json} {document : DocumentNode} (standing : root.Stands .node document.toJson)
  (resolved : document.members.resolvedKind? = some document.kind)

theorem SymbolAlias.asksFor_plan {item : Json} (stands : root.Stands (.of .symbolAlias) item)
    (smaller : item.height < document.height) :
    (plan document item smaller).AsksFor (root.Stands .node) := by
  cases item with
  | obj members =>
    refine Plan.asksFor_bind ?_ fun foreign => ?_
    · unfold planForeign
      split
      · trivial
      · next inner found =>
        have foreign := stands.member (Members.mem_of_find? found)
        exact Plan.asksFor_bind (Plan.asksFor_narrowed foreign) fun _ => trivial
      · exact Plan.asksFor_ofChecked _
    · exact Plan.asksFor_bind (Plan.asksFor_ofChecked _) fun _ => trivial
  | _ => trivial

include standing resolved

theorem Field.asksFor_plan (settings : Settings) (field : Field) (fits : field.Fits document.kind) :
    (field.plan settings document).AsksFor (root.Stands .node) := by
  have child : ∀ {key : String}, document.kind.position key = .node → ∀ {value : Json},
      document.structural? key = some value → root.Stands .node value :=
    fun expected _ found => standing.of_position resolved expected (by decide) found
  have items : ∀ {key : String}, document.kind.position key = .nodes → ∀ {list : List Json}
      {item : Json}, document.structural? key = some (.arr list) → item ∈ list →
        root.Stands .node item :=
    fun expected _ _ found listed =>
      (standing.of_position resolved expected (by decide) found).item listed
  cases field with
  | child key category =>
    rw [plan]
    exact Plan.asksFor_structural (fun value found => Plan.asksFor_narrowed (child fits found))
      (Plan.asksFor_ofChecked _)
  | child? key category =>
    rw [plan]
    refine Plan.asksFor_structural (fun value found => ?_) trivial
    exact Plan.asksFor_bind (Plan.asksFor_narrowed (child fits found)) fun _ => trivial
  | elementaryChild key =>
    rw [plan]
    exact Plan.asksFor_structural (fun value found => Plan.asksFor_narrowed (child fits found))
      (Plan.asksFor_ofChecked _)
  | children key category =>
    refine Plan.asksFor_items fun list item found listed low => ?_
    unfold Plan.entry
    split
    · exact Plan.asksFor_ofChecked _
    · exact Plan.asksFor_narrowed (items fits found listed)
  | gappedChildren key category =>
    refine Plan.asksFor_items fun list item found listed low => ?_
    unfold Plan.gappedEntry
    split
    · trivial
    · exact Plan.asksFor_bind (Plan.asksFor_narrowed (items fits found listed)) fun _ => trivial
  | aliases =>
    refine Plan.asksFor_items fun list item found listed low => ?_
    exact SymbolAlias.asksFor_plan
      ((standing.of_position resolved fits (by decide) found).item listed) low
  | idOrZero | typeString | holds | holdsObject => trivial
  | _ => exact Plan.asksFor_ofChecked _

theorem Form.asksFor_plan {α : Type} (settings : Settings) {form : Form α} {good : α → Prop}
    (asks : form.Asks (Field.Fits document.kind) good) :
    (form.plan settings document).AsksFor (root.Stands .node) := by
  induction form with
  | done result => trivial
  | fail defect => trivial
  | read field next ih =>
    exact Plan.asksFor_bind (Field.asksFor_plan standing resolved settings field asks.1)
      fun answer => ih answer (asks.2 answer)

end Documents

/-- Whatever is attempted while a value is converted that is read as a node is itself
read as a node. -/
theorem Json.Stands.of_attempt {root : Json} {settings : Settings} {depth level : Nat}
    {value inner : Json} (standing : root.Stands .node value)
    (happened : .attempt level inner ∈ (journal settings depth value).events) :
    root.Stands .node inner := by
  cases read : DocumentNode.ofJson? value with
  | error cause =>
    rw [journal_of_error read] at happened
    cases List.mem_singleton.1 happened
    exact standing
  | ok document =>
    cases deep : settings.maxDepth.filter (· ≤ depth) with
    | some limit =>
      rw [journal_of_limit read deep] at happened
      cases List.mem_singleton.1 happened
      exact standing
    | none =>
      have resolved := Members.resolvedKind?_of_resolve (DocumentNode.resolve_of_ofJson? read)
      have node : root.Stands .node document.toJson := by
        rw [DocumentNode.ofJson?_eq_ok read] at standing
        exact standing
      have asks := Form.asksFor_plan node resolved settings (Form.asks_form document.kind)
      have below : ∀ child : Json, child.height < document.height → root.Stands .node child →
          .attempt level inner ∈ (journal settings (depth + 1) child).events →
            root.Stands .node inner :=
        fun child smaller stands later => Json.Stands.of_attempt stands later
      rw [journal_of_ok read deep] at happened
      rcases Journal.mem_events_bind happened with here | ⟨_, _, rest⟩
      · cases List.mem_singleton.1 here
        exact standing
      · rcases Journal.mem_events_bind rest with during | ⟨_, _, last⟩
        · rcases asks.of_mem_run during with ⟨child, smaller, stands, later⟩
          exact below child smaller stands later
        · cases List.mem_singleton.1 last
termination_by value.height
decreasing_by
  rw [DocumentNode.ofJson?_eq_ok read]
  exact smaller

end ContractTree
