import ContractTree.Proofs.Conversion.Answers
import ContractTree.Proofs.Document.Readers

namespace ContractTree

/-!
# The types of fields

Every question is about a value of a certain type.  What a question looks up may be
missing, and what follows from that is up to the question.  But a value of another type
is a defect: a question that is answered has found nothing, or a value of its type.

Three questions do not check what they find, and answer as if nothing had been found:
the identifier of a source unit, the type in a type description, and whether a type is
given by an object.
-/

namespace Json

/-- An identifier is an integer of 64 bits. -/
def isIdentifier (value : Json) : Bool := (value.asInt?.bind NodeId.ofInt?).isSome

def isString (value : Json) : Bool := value.asString?.isSome

def isBoolean (value : Json) : Bool := value.asBool?.isSome

/-- A number of slots. -/
def isSize : Json → Bool
  | int size => 0 ≤ size && size < UInt32.size
  | _ => false

def isListOf (isItem : Json → Bool) : Json → Bool
  | arr items => items.all isItem
  | _ => false

/-- A documentation is a text, or an object that holds one. -/
def isDocumentation : Json → Bool
  | obj members => (Members.find? members "text").any isString
  | value => value.isString

def isTypeDescription : Json → Bool
  | obj members => (Members.find? members "typeString").any isString
  | _ => false

def isAlias : Json → Bool
  | obj members =>
    (Members.find? members "foreign").any (fun value => value.isString || value.isObject) &&
      (Members.find? members "local").all isString
  | _ => false

/-- A reference of inline assembly has one name, and any of five fields. -/
def isReference : Json → Bool
  | obj [(_, obj info)] =>
    (Members.find? info "declaration").all isIdentifier &&
      (Members.find? info "valueSize").all isSize && (Members.find? info "src").all isString &&
        (Members.find? info "isOffset").all isBoolean && (Members.find? info "isSlot").all isBoolean
  | _ => false

end Json

namespace Field

/-- The value that a question is about. -/
def lookup? (document : DocumentNode) (layout : FieldLayout) : Field → Option Json
  | id | idOrZero => document.structural? "id"
  | location | locationOrWhole => document.structural? "src"
  | text key | text? key | flag key | flag? key => document.scalar? layout key
  | documentation => document.scalar? layout "documentation"
  | typeString => document.scalar? layout "typeDescriptions"
  | typeText => document.scalar? layout "typeName"
  | texts key | holds key | holdsObject key | child key _ | child? key _ | children key _
  | gappedChildren key _ | elementaryChild key => document.structural? key
  | references => document.structural? "externalReferences"
  | aliases => document.structural? "symbolAliases"

/-- Whether a value is of the type that a question is about.  The question whether
anything stands under a key is about values of all types. -/
def admits : Field → Json → Bool
  | id, value | idOrZero, value => value.isIdentifier
  | location, value | locationOrWhole, value => value.isString
  | text _, value | text? _, value | typeText, value => value.isString
  | flag _, value | flag? _, value => value.isBoolean
  | documentation, value => value.isDocumentation
  | typeString, value => value.isTypeDescription
  | texts _, value => value.isListOf Json.isString
  | holds _, _ => true
  | holdsObject _, value => value.isString || value.isObject
  | references, value => value.isListOf Json.isReference
  | child _ _, value | child? _ _, value | elementaryChild _, value => value.isObject
  | children _ _, value => value.isListOf Json.isObject
  | gappedChildren _ _, value => value.isListOf fun item => item.isNull || item.isObject
  | aliases, value => value.isListOf Json.isAlias

/-- A question finds nothing, or a value of its type. -/
def Typed (document : DocumentNode) (layout : FieldLayout) (field : Field) : Prop :=
  ∀ value, field.lookup? document layout = some value → field.admits value = true

/-- A question that has no answer if it finds a value of another type. -/
def isStrict : Field → Bool
  | idOrZero | typeString | holdsObject _ => false
  | _ => true

end Field

/-! ## What readers have found -/

namespace DocumentNode

variable {document : DocumentNode} {layout : FieldLayout} {source : SourceName} {key : String}
  {value : Json}

theorem isIdentifier_of_readId {id : NodeId} (read : document.readId = .ok id)
    (found : document.structural? "id" = some value) : value.isIdentifier = true := by
  unfold readId at read
  rw [found] at read
  unfold Json.isIdentifier
  cases integral : value.asInt?.bind NodeId.ofInt? with
  | some other => rfl
  | none =>
    simp only [integral] at read
    cases read

theorem isString_of_readLocation? {location : Option SourceLocation}
    (read : document.readLocation? source = .ok location)
    (found : document.structural? "src" = some value) : value.isString = true := by
  rcases readLocation?_cases read with ⟨missing, _⟩ | ⟨marker, _, stands, _⟩
  · cases missing.symm.trans found
  · cases stands.symm.trans found
    rfl

theorem isString_of_readLocation {location : SourceLocation}
    (read : document.readLocation source = .ok location)
    (found : document.structural? "src" = some value) : value.isString = true := by
  rcases bind_eq_ok_iff.1 read with ⟨located, marked, _⟩
  exact isString_of_readLocation? marked found

theorem isString_of_readText? {text : Option String}
    (read : document.readText? layout key = .ok text)
    (found : document.scalar? layout key = some value) : value.isString = true := by
  unfold readText? at read
  rw [found] at read
  cases value with
  | str text => rfl
  | _ => cases read

theorem isString_of_readText {text : String} (read : document.readText layout key = .ok text)
    (found : document.scalar? layout key = some value) : value.isString = true := by
  rcases bind_eq_ok_iff.1 read with ⟨answer, looked, _⟩
  exact isString_of_readText? looked found

theorem isBoolean_of_readFlag? {flag : Option Bool}
    (read : document.readFlag? layout key = .ok flag)
    (found : document.scalar? layout key = some value) : value.isBoolean = true := by
  unfold readFlag? at read
  rw [found] at read
  cases value with
  | bool flag => rfl
  | _ => cases read

theorem isBoolean_of_readFlag {flag : Bool} (read : document.readFlag layout key = .ok flag)
    (found : document.scalar? layout key = some value) : value.isBoolean = true := by
  rcases bind_eq_ok_iff.1 read with ⟨answer, looked, _⟩
  exact isBoolean_of_readFlag? looked found

theorem isDocumentation_of_readDocumentation? {text : Option String}
    (read : document.readDocumentation? layout = .ok text)
    (found : document.scalar? layout "documentation" = some value) :
    value.isDocumentation = true := by
  unfold readDocumentation? at read
  rw [found] at read
  cases value with
  | str text => rfl
  | obj members =>
    change (Members.find? members "text").any Json.isString = true
    cases held : Members.find? members "text" with
    | none =>
      simp only [held] at read
      cases read
    | some inner =>
      cases inner with
      | str text => rfl
      | _ =>
        simp only [held] at read
        cases read
  | _ => cases read

theorem isTypeDescription_of_readTypeString? (read : (document.readTypeString? layout).isSome)
    (found : document.scalar? layout "typeDescriptions" = some value) :
    value.isTypeDescription = true := by
  unfold readTypeString? at read
  rw [found] at read
  cases value with
  | obj members =>
    rcases Option.isSome_iff_exists.1 read with ⟨text, given⟩
    rcases Option.bind_eq_some_iff.1 given with ⟨inner, held, isText⟩
    change (Members.find? members "typeString").any Json.isString = true
    rw [held, Option.any_some, Json.isString, isText]
    rfl
  | _ => cases read

theorem scalar?_of_readTypeText {text : String} (read : document.readTypeText layout = .ok text) :
    document.scalar? layout "typeName" = some (.str text) := by
  unfold readTypeText at read
  split at read
  · next other found =>
    cases read
    exact found
  · cases read
  · cases read

theorem isString_of_readTypeText {text : String} (read : document.readTypeText layout = .ok text)
    (found : document.scalar? layout "typeName" = some value) : value.isString = true := by
  cases (scalar?_of_readTypeText read).symm.trans found
  rfl

/-- A list that is read has items of a type if each item that is read has. -/
theorem isListOf_of_readItems {isItem : Json → Bool} {items : List Json}
    (read : document.readItems key = .ok items) (each : ∀ item ∈ items, isItem item = true)
    (found : document.structural? key = some value) : value.isListOf isItem = true := by
  rcases readItems_cases read with ⟨missing, _⟩ | stands
  · cases missing.symm.trans found
  · cases stands.symm.trans found
    exact List.all_eq_true.2 each

/-- Items that are all read as strings are strings. -/
theorem isString_of_mapM {items : List Json} {texts : List String}
    (read : items.mapM Json.asString? = some texts) : ∀ item ∈ items, item.isString = true := by
  induction items generalizing texts with
  | nil => exact fun _ member => (List.not_mem_nil member).elim
  | cons first rest ih =>
    rw [List.mapM_cons] at read
    rcases Option.bind_eq_some_iff.1 read with ⟨text, here, behind⟩
    rcases Option.bind_eq_some_iff.1 behind with ⟨later, there, _⟩
    intro item member
    rcases List.mem_cons.1 member with rfl | after
    · rw [Json.isString, here]
      rfl
    · exact ih there item after

theorem isListOf_of_readTexts {texts : List String} (read : document.readTexts key = .ok texts)
    (found : document.structural? key = some value) : value.isListOf Json.isString = true := by
  rcases bind_eq_ok_iff.1 read with ⟨items, listed, checked⟩
  refine isListOf_of_readItems listed (fun item member => ?_) found
  cases all : items.mapM Json.asString? with
  | none =>
    rw [all] at checked
    cases checked
  | some given => exact isString_of_mapM all item member

end DocumentNode

/-! ## References of inline assembly -/

namespace ExternalReference

variable {source : SourceName} {info : Members}

theorem all_of_readDeclaration? {declaration : Option NodeId}
    (read : readDeclaration? info = .ok declaration) :
    (Members.find? info "declaration").all Json.isIdentifier = true := by
  unfold readDeclaration? at read
  cases found : Members.find? info "declaration" with
  | none => rfl
  | some value =>
    rw [found] at read
    rw [Option.all_some, Json.isIdentifier]
    cases integral : value.asInt?.bind NodeId.ofInt? with
    | some id => rfl
    | none =>
      simp only [integral] at read
      cases read

theorem all_of_readValueSize {size : UInt32} (read : readValueSize info = .ok size) :
    (Members.find? info "valueSize").all Json.isSize = true := by
  unfold readValueSize at read
  split at read
  · next missing =>
    rw [missing]
    rfl
  · next number found =>
    split at read
    · next within =>
      rw [found]
      exact Bool.and_eq_true_iff.2 ⟨decide_eq_true within.1, decide_eq_true within.2⟩
    · cases read
  · cases read

theorem all_of_readLocation? {location : Option SourceLocation}
    (read : readLocation? source info = .ok location) :
    (Members.find? info "src").all Json.isString = true := by
  unfold readLocation? at read
  split at read
  · next missing =>
    rw [missing]
    rfl
  · next marker found =>
    rw [found]
    rfl
  · cases read

theorem all_of_readFlag {key : String} {flag : Bool} (read : readFlag info key = .ok flag) :
    (Members.find? info key).all Json.isBoolean = true := by
  unfold readFlag at read
  split at read
  · next missing =>
    rw [missing]
    rfl
  · next flag found =>
    rw [found]
    rfl
  · cases read

theorem isReference_of_read {item : Json} {reference : ExternalReference}
    (read : ExternalReference.read source item = .ok reference) : item.isReference = true := by
  unfold ExternalReference.read at read
  split at read
  · next name info =>
    rcases bind_eq_ok_iff.1 read with ⟨declaration, declared, read⟩
    rcases bind_eq_ok_iff.1 read with ⟨valueSize, sized, read⟩
    rcases bind_eq_ok_iff.1 read with ⟨location, located, read⟩
    rcases bind_eq_ok_iff.1 read with ⟨isOffset, offset, read⟩
    rcases bind_eq_ok_iff.1 read with ⟨isSlot, slot, _⟩
    simp only [Json.isReference, Bool.and_eq_true]
    exact ⟨⟨⟨⟨all_of_readDeclaration? declared, all_of_readValueSize sized⟩,
      all_of_readLocation? located⟩, all_of_readFlag offset⟩, all_of_readFlag slot⟩
  · cases read

end ExternalReference

theorem DocumentNode.isListOf_of_readReferences {document : DocumentNode} {source : SourceName}
    {references : List ExternalReference} {value : Json}
    (read : document.readReferences source = .ok references)
    (found : document.structural? "externalReferences" = some value) :
    value.isListOf Json.isReference = true := by
  rcases bind_eq_ok_iff.1 read with ⟨items, listed, checked⟩
  have results := mapM_eq_ok_iff.1 checked
  refine isListOf_of_readItems listed (fun item member => ?_) found
  have answered : ExternalReference.read source item ∈ references.map Except.ok := by
    rw [← results]
    exact List.mem_map.2 ⟨item, member, rfl⟩
  rcases List.mem_map.1 answered with ⟨reference, _, same⟩
  exact ExternalReference.isReference_of_read same.symm

/-! ## What answers have found -/

namespace Journal

variable {α : Type} {settings : Settings} {depth : Nat} {document : DocumentNode} {key : String}
  {category : Category}

theorem ofChecked_eq_ok {checked : Checked α} {answer : α}
    (answered : (ofChecked document checked).result = .ok answer) : checked = .ok answer := by
  cases checked with
  | ok given =>
    cases answered
    rfl
  | error defect => cases answered

/-- Steps that all succeed succeed at each item. -/
theorem answered_of_mapM {step : Json → Journal α} {items : List Json} {answers : List α}
    (answered : (items.mapM step).result = .ok answers) :
    ∀ item ∈ items, ∃ answer, (step item).result = .ok answer := by
  induction items generalizing answers with
  | nil => exact fun _ member => (List.not_mem_nil member).elim
  | cons first rest ih =>
    rw [List.mapM_cons] at answered
    rcases result_bind_eq_ok.1 answered with ⟨here, given, behind⟩
    rcases result_bind_eq_ok.1 behind with ⟨later, there, _⟩
    intro item member
    rcases List.mem_cons.1 member with rfl | after
    · exact ⟨here, given⟩
    · exact ih there item after

theorem isObject_of_narrowed {narrow : Node → Option α} {value : Json} {answer : α}
    (answered : (narrowed settings depth document key category narrow value).result = .ok answer) :
    value.isObject = true := by
  unfold narrowed at answered
  split at answered
  · next object => exact object
  · cases answered

theorem isObject_of_entry {item : Json} {child : Node}
    (answered : (entry settings depth document key category item).result = .ok child) :
    item.isObject = true := by
  unfold entry at answered
  split at answered
  · cases answered
  · exact isObject_of_narrowed answered

theorem isObject_of_gappedEntry {item : Json} {child : Option Node}
    (answered : (gappedEntry settings depth document key category item).result = .ok child) :
    (item.isNull || item.isObject) = true := by
  unfold gappedEntry at answered
  split at answered
  · next gap => exact Bool.or_eq_true_iff.2 (.inl gap)
  · rcases result_bind_eq_ok.1 answered with ⟨node, converted, _⟩
    exact Bool.or_eq_true_iff.2 (.inr (isObject_of_narrowed converted))

theorem isAlias_of_symbolAlias {item : Json} {symbol : SymbolAlias (String ⊕ Node)}
    (answered : (symbolAlias settings depth document item).result = .ok symbol) :
    item.isAlias = true := by
  cases item with
  | obj members =>
    rcases result_bind_eq_ok.1 answered with ⟨name, forName, rest⟩
    rcases result_bind_eq_ok.1 rest with ⟨localName, named, _⟩
    have read := ofChecked_eq_ok named
    refine Bool.and_eq_true_iff.2 ⟨?_, ?_⟩
    · unfold foreign at forName
      cases found : Members.find? members "foreign" with
      | none =>
        rw [found] at forName
        cases forName
      | some value =>
        cases value with
        | str text => rfl
        | obj inner => rfl
        | _ =>
          rw [found] at forName
          cases forName
    · unfold SymbolAlias.readLocalName at read
      split at read
      · next missing =>
        rw [missing]
        rfl
      · next text found =>
        rw [found]
        rfl
      · cases read
  | _ => cases answered

/-- A list of which each item has an answer has items of a type. -/
theorem isListOf_of_items {isItem : Json → Bool} {step : Json → Journal α} {answers : List α}
    {value : Json} (answered : (ofChecked document (document.readItems key) >>=
      List.mapM step).result = .ok answers)
    (each : ∀ item answer, (step item).result = .ok answer → isItem item = true)
    (found : document.structural? key = some value) : value.isListOf isItem = true := by
  rcases result_bind_eq_ok.1 answered with ⟨items, listed, rest⟩
  refine DocumentNode.isListOf_of_readItems (ofChecked_eq_ok listed) (fun item member => ?_) found
  rcases answered_of_mapM rest item member with ⟨answer, given⟩
  exact each item answer given

end Journal

section Answers

variable {settings : Settings} {depth : Nat} {document : DocumentNode}

/-- The answer to a question about a scalar has been checked. -/
theorem Field.checked_of_answer {field : Field} {checked : Checked field.Answer}
    {answer : field.Answer} (planned : field.plan settings document = .ofChecked document checked)
    (answered : (field.answer settings depth document).result = .ok answer) :
    checked = .ok answer := by
  rw [Field.answer, planned, Plan.run_ofChecked] at answered
  exact Journal.ofChecked_eq_ok answered

/-- A question that checks what it finds has an answer only if that is of its type. -/
theorem Field.typed_of_answer {field : Field} (strict : field.isStrict = true)
    {answer : field.Answer}
    (answered : (field.answer settings depth document).result = .ok answer) :
    field.Typed document settings.layout := by
  intro value found
  cases field with
  | id => exact DocumentNode.isIdentifier_of_readId (checked_of_answer rfl answered) found
  | location => exact DocumentNode.isString_of_readLocation (checked_of_answer rfl answered) found
  | locationOrWhole =>
    have read : (document.readLocation? settings.source).map (·.getD settings.wholeSource) =
        .ok answer := checked_of_answer rfl answered
    cases located : document.readLocation? settings.source with
    | ok location => exact DocumentNode.isString_of_readLocation? located found
    | error defect =>
      rw [located] at read
      cases read
  | text key => exact DocumentNode.isString_of_readText (checked_of_answer rfl answered) found
  | text? key => exact DocumentNode.isString_of_readText? (checked_of_answer rfl answered) found
  | flag key => exact DocumentNode.isBoolean_of_readFlag (checked_of_answer rfl answered) found
  | flag? key => exact DocumentNode.isBoolean_of_readFlag? (checked_of_answer rfl answered) found
  | documentation =>
    exact DocumentNode.isDocumentation_of_readDocumentation? (checked_of_answer rfl answered) found
  | typeText => exact DocumentNode.isString_of_readTypeText (checked_of_answer rfl answered) found
  | texts key => exact DocumentNode.isListOf_of_readTexts (checked_of_answer rfl answered) found
  | holds key => rfl
  | references =>
    exact DocumentNode.isListOf_of_readReferences (checked_of_answer rfl answered) found
  | child key category =>
    have stands : document.structural? key = some value := found
    rw [answer_child, stands] at answered
    exact Journal.isObject_of_narrowed answered
  | child? key category =>
    have stands : document.structural? key = some value := found
    rw [answer_child?, stands] at answered
    rcases Journal.result_bind_eq_ok.1 answered with ⟨node, converted, _⟩
    exact Journal.isObject_of_narrowed converted
  | elementaryChild key =>
    have stands : document.structural? key = some value := found
    rw [answer_elementaryChild, stands] at answered
    exact Journal.isObject_of_narrowed answered
  | children key category =>
    rw [answer_children] at answered
    exact Journal.isListOf_of_items answered (fun _ _ => Journal.isObject_of_entry) found
  | gappedChildren key category =>
    rw [answer_gappedChildren] at answered
    exact Journal.isListOf_of_items answered (fun _ _ => Journal.isObject_of_gappedEntry) found
  | aliases =>
    rw [answer_aliases] at answered
    exact Journal.isListOf_of_items answered (fun _ _ => Journal.isAlias_of_symbolAlias) found
  | idOrZero => cases strict
  | typeString => cases strict
  | holdsObject key => cases strict

end Answers
end ContractTree
