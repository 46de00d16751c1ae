import ContractTree.Proofs.Conversion.Attempts
import ContractTree.Proofs.Form.Faults
import ContractTree.Proofs.Form.Questions

namespace ContractTree

/-!
# The faults of a conversion

A document node is at fault if one of its own fields is to blame: then the error names
the node, and a text that it quotes stands in a field of the node itself.  Every
reader, every question and so every plan fails in no other way, unless a value that it
asks for fails to be converted.
-/

/-- A text that occurs in a value, however deep. -/
inductive Json.Mentions (text : String) : Json → Prop where
  | here : Mentions text (.str text)
  | item {items : List Json} {item : Json} (member : item ∈ items) (inside : Mentions text item) :
    Mentions text (.arr items)
  | member {members : Members} {key : String} {value : Json} (member : (key, value) ∈ members)
    (inside : Mentions text value) : Mentions text (.obj members)

namespace DocumentNode

/-- A text in the fields of a node itself: it stands under a key, or somewhere in a field
that holds no nodes. -/
def Owns (document : DocumentNode) (text : String) : Prop :=
  ∃ key value, (document.own? key = some value ∨ document.nested? key = some value) ∧
    (value = .str text ∨ (document.kind.position key = .plain ∧ value.Mentions text))

/-- An error that one of the node's own fields is to blame for. -/
def AtFault (document : DocumentNode) (cause : ImportError) : Prop :=
  ∃ defect : Defect, defect.Grounded document.Owns ∧ cause = defect.on document.context

variable {document : DocumentNode} {key text : String} {value : Json} {layout : FieldLayout}

theorem own_or_nested_of_structural? (found : document.structural? key = some value) :
    document.own? key = some value ∨ document.nested? key = some value := by
  rcases Option.or_eq_some_iff.1 found with own | ⟨_, nested⟩
  · exact .inl own
  · exact .inr nested

theorem own_of_inline? (found : document.inline? key = some value) :
    document.own? key = some value := by
  unfold inline? at found
  split at found
  · cases found
  · exact found

theorem own_or_nested_of_scalar? (found : document.scalar? layout key = some value) :
    document.own? key = some value ∨ document.nested? key = some value := by
  unfold scalar? at found
  split at found
  · exact .inl (own_of_inline? found)
  · exact .inr found
  · split at found
    · rcases Option.or_eq_some_iff.1 found with nested | ⟨_, inline⟩
      · exact .inr nested
      · exact .inl (own_of_inline? inline)
    · rcases Option.or_eq_some_iff.1 found with inline | ⟨_, nested⟩
      · exact .inl (own_of_inline? inline)
      · exact .inr nested

theorem owns_of_scalar? (found : document.scalar? layout key = some (.str text)) :
    document.Owns text :=
  ⟨key, .str text, own_or_nested_of_scalar? found, .inl rfl⟩

end DocumentNode

/-! ## Readers -/

namespace Checked

variable {α β : Type} {owns : String → Prop}

/-- A reader succeeds with a good answer, or its defect is grounded in texts. -/
def Grounded (owns : String → Prop) (good : α → Prop) : Checked α → Prop
  | .ok answer => good answer
  | .error defect => defect.Grounded owns

theorem grounded_bind {checked : Checked α} {next : α → Checked β} {good : β → Prop}
    (first : Grounded owns (fun answer => Grounded owns good (next answer)) checked) :
    Grounded owns good (checked >>= next) := by
  cases checked with
  | ok answer => exact first
  | error defect => exact first

theorem Grounded.imp {checked : Checked α} {good better : α → Prop}
    (grounded : Grounded owns good checked) (implies : ∀ answer, good answer → better answer) :
    Grounded owns better checked := by
  cases checked with
  | ok answer => exact implies answer grounded
  | error defect => exact grounded

theorem grounded_mapM {γ : Type} {check : γ → Checked α} {items : List γ}
    (each : ∀ item ∈ items, Grounded owns (fun _ => True) (check item)) :
    Grounded owns (fun _ => True) (items.mapM check) := by
  induction items with
  | nil => trivial
  | cons item rest ih =>
    rw [List.mapM_cons]
    refine grounded_bind ((each item (List.mem_cons_self ..)).imp fun answer _ => ?_)
    exact grounded_bind ((ih fun other member => each other (List.mem_cons_of_mem _ member)).imp
      fun _ _ => trivial)

/-- A reader whose answers all are good enough. -/
theorem grounded_of_defects {checked : Checked α}
    (faults : ∀ defect, checked = .error defect → defect.Grounded owns) :
    Grounded owns (fun _ => True) checked := by
  cases checked with
  | ok answer => trivial
  | error defect => exact faults defect rfl

end Checked

/-- A marker that names no place is blamed for it. -/
theorem grounded_readPlace {owns : String → Prop} {source : SourceName} {marker : String}
    (owned : owns marker) : Checked.Grounded owns (fun _ => True) (readPlace source marker) := by
  refine Checked.grounded_of_defects fun defect refused => ?_
  unfold readPlace at refused
  split at refused
  · cases refused
  · next invalid =>
    cases refused
    exact ⟨owned, Option.map_eq_none_iff.1 invalid⟩

namespace ExternalReference

theorem grounded_readLocation? {owns : String → Prop} {source : SourceName} {info : Members}
    (owned : ∀ marker, info.find? "src" = some (.str marker) → owns marker) :
    Checked.Grounded owns (fun _ => True) (readLocation? source info) := by
  unfold readLocation?
  split
  · trivial
  · next marker found =>
    have place : Checked.Grounded owns (fun _ => True) (readPlace source marker) :=
      grounded_readPlace (owned marker found)
    cases checked : readPlace source marker with
    | ok location => trivial
    | error defect =>
      rw [checked] at place
      exact place
  · trivial

theorem grounded_read {owns : String → Prop} {source : SourceName} {item : Json}
    (owned : ∀ text, item.Mentions text → owns text) :
    Checked.Grounded owns (fun _ => True) (read source item) := by
  unfold read
  split
  · next name info =>
    have declaration : Checked.Grounded owns (fun _ => True) (readDeclaration? info) := by
      unfold readDeclaration?
      repeat' split
      all_goals trivial
    have valueSize : Checked.Grounded owns (fun _ => True) (readValueSize info) := by
      unfold readValueSize
      repeat' split
      all_goals trivial
    have location : Checked.Grounded owns (fun _ => True) (readLocation? source info) :=
      grounded_readLocation? fun marker found => owned marker
        (.member (List.mem_singleton_self _) (.member (Members.mem_of_find? found) .here))
    have flags : ∀ key, Checked.Grounded owns (fun _ => True) (readFlag info key) := by
      intro key
      unfold readFlag
      split <;> trivial
    refine Checked.grounded_bind (declaration.imp fun _ _ => ?_)
    refine Checked.grounded_bind (valueSize.imp fun _ _ => ?_)
    refine Checked.grounded_bind (location.imp fun _ _ => ?_)
    refine Checked.grounded_bind ((flags "isOffset").imp fun _ _ => ?_)
    exact Checked.grounded_bind ((flags "isSlot").imp fun _ _ => trivial)
  · trivial

end ExternalReference

namespace DocumentNode

variable (document : DocumentNode) (layout : FieldLayout)

theorem grounded_readId : Checked.Grounded document.Owns (fun _ => True) document.readId := by
  unfold readId
  repeat' split
  all_goals trivial

theorem grounded_readLocation? (source : SourceName) :
    Checked.Grounded document.Owns (fun _ => True) (document.readLocation? source) := by
  refine Checked.grounded_bind ?_
  unfold readMarker?
  split
  · trivial
  · next marker found =>
    have owned : document.Owns marker :=
      ⟨"src", .str marker, own_or_nested_of_structural? found, .inl rfl⟩
    exact Checked.grounded_bind ((grounded_readPlace owned).imp fun _ _ => trivial)
  · trivial

theorem grounded_readLocation (source : SourceName) :
    Checked.Grounded document.Owns (fun _ => True) (document.readLocation source) := by
  refine Checked.grounded_bind ((document.grounded_readLocation? source).imp fun answer _ => ?_)
  cases answer <;> trivial

theorem grounded_readText? (key : String) :
    Checked.Grounded document.Owns (fun answer => ∀ text, answer = some text → document.Owns text)
      (document.readText? layout key) := by
  unfold readText?
  split
  · exact fun text impossible => nomatch impossible
  · next text found =>
    intro other same
    cases same
    exact owns_of_scalar? found
  · trivial

theorem grounded_readText (key : String) :
    Checked.Grounded document.Owns document.Owns (document.readText layout key) := by
  refine Checked.grounded_bind ((document.grounded_readText? layout key).imp fun answer owned => ?_)
  cases answer with
  | some text => exact owned text rfl
  | none => trivial

theorem grounded_readFlag? (key : String) :
    Checked.Grounded document.Owns (fun _ => True) (document.readFlag? layout key) := by
  unfold readFlag?
  split <;> trivial

theorem grounded_readFlag (key : String) :
    Checked.Grounded document.Owns (fun _ => True) (document.readFlag layout key) := by
  refine Checked.grounded_bind ((document.grounded_readFlag? layout key).imp fun answer _ => ?_)
  cases answer <;> trivial

theorem grounded_readDocumentation? :
    Checked.Grounded document.Owns (fun _ => True) (document.readDocumentation? layout) := by
  unfold readDocumentation?
  repeat' split
  all_goals trivial

theorem owns_of_readTypeString? {text : String}
    (read : document.readTypeString? layout = some text) : document.Owns text := by
  unfold readTypeString? at read
  split at read
  · next members found =>
    rcases Option.bind_eq_some_iff.1 read with ⟨value, inside, isText⟩
    cases value with
    | str word =>
      cases isText
      refine ⟨"typeDescriptions", .obj members, own_or_nested_of_scalar? found, .inr ⟨?_, ?_⟩⟩
      · exact document.kind.position_common _ (by simp)
      · exact .member (Members.mem_of_find? inside) .here
    | _ => cases isText
  · cases read

theorem grounded_readTypeText :
    Checked.Grounded document.Owns document.Owns (document.readTypeText layout) := by
  unfold readTypeText
  split
  · next text found => exact owns_of_scalar? found
  · trivial
  · trivial

theorem grounded_readItems (key : String) :
    Checked.Grounded document.Owns
      (fun items => ∀ item ∈ items, ∃ list, item ∈ list ∧
        (document.own? key = some (.arr list) ∨ document.nested? key = some (.arr list)))
      (document.readItems key) := by
  unfold readItems
  split
  · exact fun item impossible => (List.not_mem_nil impossible).elim
  · next items found => exact fun item member => ⟨items, member, own_or_nested_of_structural? found⟩
  · trivial

theorem owns_of_item {key text : String} {list : List Json} {item : Json}
    (plain : document.kind.position key = .plain) (member : item ∈ list)
    (stands : document.own? key = some (.arr list) ∨ document.nested? key = some (.arr list))
    (mentions : item.Mentions text) : document.Owns text :=
  ⟨key, .arr list, stands, .inr ⟨plain, .item member mentions⟩⟩

/-- The strings of a list are its items. -/
theorem str_mem_of_mapM {items : List Json} {texts : List String}
    (strings : items.mapM Json.asString? = some texts) : ∀ text ∈ texts, .str text ∈ items := by
  induction items generalizing texts with
  | nil =>
    cases strings
    exact fun text impossible => (List.not_mem_nil impossible).elim
  | cons item rest ih =>
    rw [List.mapM_cons] at strings
    rcases Option.bind_eq_some_iff.1 strings with ⟨first, isText, more⟩
    rcases Option.bind_eq_some_iff.1 more with ⟨others, later, whole⟩
    cases whole
    intro text member
    rcases List.mem_cons.1 member with rfl | behind
    · cases item with
      | str word =>
        cases isText
        exact List.mem_cons_self ..
      | _ => cases isText
    · exact List.mem_cons_of_mem _ (ih later text behind)

theorem grounded_readTexts {key : String} (plain : document.kind.position key = .plain) :
    Checked.Grounded document.Owns (fun texts => ∀ text ∈ texts, document.Owns text)
      (document.readTexts key) := by
  refine Checked.grounded_bind ((document.grounded_readItems key).imp fun items listed => ?_)
  cases strings : items.mapM Json.asString? with
  | none => trivial
  | some texts =>
    intro text member
    rcases listed _ (str_mem_of_mapM strings text member) with ⟨list, inside, stands⟩
    exact document.owns_of_item plain inside stands .here

theorem grounded_readReferences (source : SourceName) :
    Checked.Grounded document.Owns (fun _ => True) (document.readReferences source) := by
  refine Checked.grounded_bind
    ((document.grounded_readItems "externalReferences").imp fun items listed => ?_)
  refine Checked.grounded_mapM fun item member => ?_
  rcases listed item member with ⟨list, inside, stands⟩
  exact ExternalReference.grounded_read fun text mentions =>
    document.owns_of_item (document.kind.position_common _ (by simp)) inside stands mentions

end DocumentNode

/-! ## Plans -/

namespace Plan

variable {bound : Nat} {α β : Type} {fault : ImportError → Prop}

/-- A plan asks for objects only, fails with faults only, and has good results. -/
def Grounded (fault : ImportError → Prop) : Plan bound α → (α → Prop) → Prop
  | done result, good => good result
  | fail cause, _ => fault cause
  | convert value _ next, good =>
    value.isObject = true ∧ ∀ node, (next node).Grounded fault good

theorem grounded_bind {plan : Plan bound α} {next : α → Plan bound β} {good : β → Prop}
    (first : plan.Grounded fault fun answer => (next answer).Grounded fault good) :
    (plan.bind next).Grounded fault good := by
  induction plan with
  | done result => exact first
  | fail cause => exact first
  | convert value smaller rest ih => exact ⟨first.1, fun node => ih node (first.2 node)⟩

theorem Grounded.imp {plan : Plan bound α} {good better : α → Prop}
    (grounded : plan.Grounded fault good) (implies : ∀ answer, good answer → better answer) :
    plan.Grounded fault better := by
  induction plan with
  | done result => exact implies result grounded
  | fail cause => exact grounded
  | convert value smaller rest ih => exact ⟨grounded.1, fun node => ih node (grounded.2 node)⟩

theorem grounded_each {step : (item : Json) → item.height < bound → Plan bound α}
    (steps : ∀ item smaller, (step item smaller).Grounded fault fun _ => True)
    (items : List Json) (smaller : ∀ item ∈ items, item.height < bound) (before : List α) :
    (each items smaller step before).Grounded fault fun _ => True := by
  induction items generalizing before with
  | nil => trivial
  | cons item rest ih =>
    exact grounded_bind ((steps item _).imp fun answer _ => ih _ (answer :: before))

variable {document : DocumentNode}

theorem grounded_ofChecked {checked : Checked α} {good : α → Prop}
    (grounded : Checked.Grounded document.Owns good checked) :
    (ofChecked document checked : Plan bound α).Grounded document.AtFault good := by
  cases checked with
  | ok answer => exact grounded
  | error defect => exact ⟨defect, grounded, rfl⟩

/-- A defect of a node that is known to be there. -/
theorem grounded_defect {defect : Defect} {good : α → Prop}
    (grounded : defect.Grounded document.Owns) :
    (ofChecked document (.error defect) : Plan bound α).Grounded document.AtFault good :=
  ⟨defect, grounded, rfl⟩

theorem grounded_narrowed {key : String} {category : Category} {value : Json}
    {smaller : value.height < bound} {narrow : Node → Option α} :
    (narrowed document key category value smaller narrow).Grounded document.AtFault
      fun _ => True := by
  unfold narrowed
  split
  · next object =>
    refine ⟨object, fun node => ?_⟩
    dsimp only
    cases narrow node with
    | some result => trivial
    | none => exact grounded_defect trivial
  · exact grounded_defect trivial

theorem grounded_structural {key : String}
    {next : Option { value : Json // value.height < document.height } → Plan document.height α}
    {good : α → Prop} (rest : ∀ found, (next found).Grounded fault good) :
    (structural document key next).Grounded fault good := by
  unfold structural
  split
  · exact rest _
  · exact rest _

theorem grounded_items {key : String}
    {step : (item : Json) → item.height < document.height → Plan document.height α}
    (steps : ∀ item smaller, (step item smaller).Grounded document.AtFault fun _ => True) :
    (items document key step).Grounded document.AtFault fun _ => True := by
  have reader := document.grounded_readItems key
  unfold items
  split
  · exact grounded_each steps _ _ []
  · next defect failed =>
    rw [failed] at reader
    exact ⟨defect, reader, rfl⟩

end Plan

namespace SymbolAlias

variable {document : DocumentNode}

theorem grounded_readLocalName {owns : String → Prop} (members : Members) :
    Checked.Grounded owns (fun _ => True) (readLocalName members) := by
  unfold readLocalName
  split <;> trivial

theorem grounded_planForeign (members : Members)
    (smaller : (Json.obj members).height < document.height) :
    (planForeign document members smaller).Grounded document.AtFault fun _ => True := by
  unfold planForeign
  split
  · trivial
  · exact Plan.grounded_bind (Plan.grounded_narrowed.imp fun _ _ => trivial)
  · exact Plan.grounded_defect trivial

theorem grounded_plan (item : Json) (smaller : item.height < document.height) :
    (SymbolAlias.plan document item smaller).Grounded document.AtFault fun _ => True := by
  unfold SymbolAlias.plan
  split
  · next members _ =>
    refine Plan.grounded_bind ((grounded_planForeign members _).imp fun foreign _ => ?_)
    exact Plan.grounded_bind ((Plan.grounded_ofChecked (grounded_readLocalName members)).imp
      fun _ _ => trivial)
  · exact Plan.grounded_defect trivial

end SymbolAlias

/-- A question that fits the kind of a node is answered with texts of the node, or the
node is at fault. -/
theorem Field.grounded_plan (settings : Settings) (document : DocumentNode) (field : Field)
    (fits : field.Fits document.kind) :
    (field.plan settings document).Grounded document.AtFault (field.Quotes document.Owns) := by
  cases field with
  | id => exact Plan.grounded_ofChecked document.grounded_readId
  | idOrZero => trivial
  | location => exact Plan.grounded_ofChecked (document.grounded_readLocation settings.source)
  | locationOrWhole =>
    have reader := document.grounded_readLocation? settings.source
    refine Plan.grounded_ofChecked ?_
    cases checked : document.readLocation? settings.source with
    | ok location => trivial
    | error defect =>
      rw [checked] at reader
      exact reader
  | text key => exact Plan.grounded_ofChecked (document.grounded_readText settings.layout key)
  | text? key => exact Plan.grounded_ofChecked (document.grounded_readText? settings.layout key)
  | flag key => exact Plan.grounded_ofChecked (document.grounded_readFlag settings.layout key)
  | flag? key => exact Plan.grounded_ofChecked (document.grounded_readFlag? settings.layout key)
  | documentation =>
    exact Plan.grounded_ofChecked (document.grounded_readDocumentation? settings.layout)
  | typeString => exact fun text read => document.owns_of_readTypeString? settings.layout read
  | typeText => exact Plan.grounded_ofChecked (document.grounded_readTypeText settings.layout)
  | texts key => exact Plan.grounded_ofChecked (document.grounded_readTexts fits.1)
  | holds key => trivial
  | holdsObject key => trivial
  | references =>
    exact Plan.grounded_ofChecked (document.grounded_readReferences settings.source)
  | child key category =>
    rw [plan]
    refine Plan.grounded_structural fun found => ?_
    cases found with
    | some value => exact Plan.grounded_narrowed
    | none => exact Plan.grounded_defect trivial
  | child? key category =>
    rw [plan]
    refine Plan.grounded_structural fun found => ?_
    cases found with
    | some value => exact Plan.grounded_bind (Plan.grounded_narrowed.imp fun _ _ => trivial)
    | none => trivial
  | children key category =>
    refine Plan.grounded_items fun item smaller => ?_
    unfold Plan.entry
    split
    · exact Plan.grounded_defect trivial
    · exact Plan.grounded_narrowed
  | gappedChildren key category =>
    refine Plan.grounded_items fun item smaller => ?_
    unfold Plan.gappedEntry
    split
    · trivial
    · exact Plan.grounded_bind (Plan.grounded_narrowed.imp fun _ _ => trivial)
  | elementaryChild key =>
    rw [plan]
    refine Plan.grounded_structural fun found => ?_
    cases found with
    | some value => exact Plan.grounded_narrowed
    | none => exact Plan.grounded_defect trivial
  | aliases => exact Plan.grounded_items SymbolAlias.grounded_plan

/-- A form that asks fitting questions and quotes its answers has a plan that fails only if
the node is at fault. -/
theorem Form.Grounded.plan {α : Type} (settings : Settings) {document : DocumentNode}
    {form : Form α} {asked good : α → Prop} (asks : form.Asks (Field.Fits document.kind) asked)
    (grounded : form.Grounded document.Owns good) :
    (form.plan settings document).Grounded document.AtFault good := by
  induction form with
  | done result => exact grounded
  | fail defect => exact ⟨defect, grounded, rfl⟩
  | read field next ih =>
    exact Plan.grounded_bind ((field.grounded_plan settings document asks.1).imp
      fun answer quotes => ih answer (asks.2 answer) (grounded answer quotes))

theorem DocumentNode.grounded_plan (settings : Settings) (document : DocumentNode) :
    (document.kind.form.plan settings document).Grounded document.AtFault fun _ => True :=
  Form.Grounded.plan settings (Form.asks_form document.kind) (Form.grounded_form document.kind)

end ContractTree
