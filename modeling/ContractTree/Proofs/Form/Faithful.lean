import ContractTree.Proofs.Conversion.Converted
import ContractTree.Proofs.Document.Readers
import ContractTree.Proofs.Form.Reads
import Mathlib.Data.List.Basic

namespace ContractTree

/-!
# Faithful answers

An answer is faithful if it says what stands in the document.  A scalar is the one
that was written, an identifier and a location are those that a listing has, and
children are the nodes of the places they were read from, in a category that the
place admits.  Every answer that a document node gives is faithful.
-/

/-- The children of a node in one of its parts are those under its key. -/
structure Part.Stands (settings : Settings) (depth : Nat) (document : DocumentNode)
    (part : Part Node) : Prop where
  nodes_eq : ∀ id location,
    (document.under part.key).flatMap (Place.nodes settings depth id location) = part.children
  accepted : ∀ child ∈ part.children, part.category.accepts child.kind = true

namespace Field

/-- The places that a question asks about. -/
def places (document : DocumentNode) : Field → List Place
  | child key _ | child? key _ | children key _ | gappedChildren key _ => document.under key
  | elementaryChild key => document.typeOnlyPlaces key
  | aliases => document.aliasPlaces
  | _ => []

/-- The nodes in an answer, given the identifier and the location of the node that
they are for. -/
def nodes (id : NodeId) (location : SourceLocation) : (field : Field) → field.Answer → List Node
  | child _ _, node => [node]
  | child? _ _, node => node.toList
  | children _ _, nodes => nodes
  | gappedChildren _ _, nodes => nodes.flatMap Option.toList
  | aliases, symbols => symbols.map fun symbol => Journal.aliasNode id location symbol.foreign
  | _, _ => []

/-- An answer says what stands in the document. -/
def Faithful (settings : Settings) (depth : Nat) (document : DocumentNode) :
    (field : Field) → field.Answer → Prop
  | id, answer => document.nodeId? = some answer
  | idOrZero, answer => document.kind = .sourceUnit → document.nodeId? = some answer
  | location, answer => document.location? settings = some answer
  | locationOrWhole, answer =>
    document.kind = .sourceUnit → document.location? settings = some answer
  | text key, answer => document.scalar? settings.layout key = some (.str answer)
  | flag? key, answer => document.scalar? settings.layout key = answer.map .bool
  | holds key, answer => (document.structural? key).isSome = answer
  | holdsObject key, answer => (document.structural? key).any Json.isObject = answer
  | references, answers => ∀ reference ∈ answers, ∀ location,
    reference.location = some location → location.Within settings.source
  | child key category, node => (Part.mk key category (.one node)).Stands settings depth document
  | child? key category, node =>
    (Part.mk key category (.maybe node)).Stands settings depth document ∧
      (node = none → document.structural? key = none) ∧
      ∀ value, document.structural? key = some value → value.isObject = true
  | children key category, nodes =>
    (Part.mk key category (.many nodes)).Stands settings depth document
  | gappedChildren key category, nodes =>
    (Part.mk key category (.gapped nodes)).Stands settings depth document
  | elementaryChild _, type => type.Legal
  | aliases, symbols =>
    (∀ id location, document.aliasPlaces.flatMap (Place.nodes settings depth id location) =
      symbols.map fun symbol => Journal.aliasNode id location symbol.foreign) ∧
    ∀ symbol ∈ symbols, ∀ node, symbol.foreign = .inr node →
      Category.identifier.accepts node.kind = true
  | _, _ => True

end Field

/-- The places that a form has asked about. -/
def DocumentNode.placesRead (document : DocumentNode) (reads : List Answered) : List Place :=
  reads.flatMap fun read => read.field.places document

namespace DocumentNode

variable {document : DocumentNode}

@[simp] theorem placesRead_nil : document.placesRead [] = [] := rfl

@[simp] theorem placesRead_cons {field : Field} {answer : field.Answer} {later : List Answered} :
    document.placesRead (⟨field, answer⟩ :: later) =
      field.places document ++ document.placesRead later := rfl

@[simp] theorem placesRead_append {here later : List Answered} :
    document.placesRead (here ++ later) =
      document.placesRead here ++ document.placesRead later :=
  List.flatMap_append ..

end DocumentNode

/-! ## Every answer is faithful -/

section Answers

variable {settings : Settings} {depth : Nat} {document : DocumentNode}

/-- What is converted for a question, and what the answer says. -/
abbrev Field.Accounted (settings : Settings) (depth : Nat) (document : DocumentNode)
    (field : Field) (answer : field.Answer) (events : List Event) : Prop :=
  field.Faithful settings depth document answer ∧
    Converted settings depth (field.places document) events
      fun id location => field.nodes id location answer

/-- An answer that is read without any conversion. -/
theorem Field.accounted_of_checked (field : Field) {checked : Checked field.Answer}
    (planned : field.plan settings document = .ofChecked document checked)
    (places : field.places document = [])
    (nodes : ∀ id location answer, field.nodes id location answer = [])
    (faithful : ∀ answer, checked = .ok answer → field.Faithful settings depth document answer) :
    (field.answer settings depth document).Ensures
      (field.Accounted settings depth document) := by
  rw [answer, planned, Plan.run_ofChecked]
  refine Journal.ensures_ofChecked fun answer read => ⟨faithful answer read, ?_⟩
  rw [places]
  simp only [nodes]
  exact .nil

/-- An answer that is always there. -/
theorem Field.accounted_of_done (field : Field) {given : field.Answer}
    (planned : field.plan settings document = .done given)
    (places : field.places document = [])
    (nodes : ∀ id location answer, field.nodes id location answer = [])
    (faithful : field.Faithful settings depth document given) :
    (field.answer settings depth document).Ensures
      (field.Accounted settings depth document) := by
  refine accounted_of_checked field (planned.trans rfl : _ = .ofChecked document (.ok given))
    places nodes ?_
  rintro _ ⟨⟩
  exact faithful

theorem Field.accounted_child (key : String) (category : Category) :
    ((child key category).answer settings depth document).Ensures
      ((child key category).Accounted settings depth document) := by
  rw [answer_child]
  cases found : document.structural? key with
  | none => exact Journal.ensures_error
  | some value =>
    intro node finished
    rcases Journal.ensures_inCategory node finished with ⟨⟨object, accepted⟩, converted⟩
    rw [← DocumentNode.under_of_object found object] at converted
    refine ⟨⟨converted.nodes_eq, ?_⟩, converted⟩
    intro other member
    cases List.mem_singleton.1 member
    exact accepted

theorem Field.accounted_child? (key : String) (category : Category) :
    ((child? key category).answer settings depth document).Ensures
      ((child? key category).Accounted settings depth document) := by
  rw [answer_child?]
  cases found : document.structural? key with
  | none =>
    have under : document.under key = [] := DocumentNode.under_of_none found
    refine Journal.ensures_pure ⟨⟨⟨?_, ?_⟩, fun _ => found, ?_⟩, ?_⟩
    · intro id location
      rw [under]
      rfl
    · intro node member
      exact (List.not_mem_nil member).elim
    · intro value present
      cases found.symm.trans present
    · rw [places, under]
      exact .nil
  | some value =>
    refine Journal.ensures_bind Journal.ensures_inCategory ?_
    rintro node events ⟨⟨object, accepted⟩, converted⟩
    rw [← DocumentNode.under_of_object found object] at converted
    refine Journal.ensures_pure ⟨⟨⟨converted.nodes_eq, ?_⟩,
      (fun missing => nomatch missing), ?_⟩, ?_⟩
    · intro other member
      cases List.mem_singleton.1 member
      exact accepted
    · intro other present
      cases found.symm.trans present
      exact object
    · rw [List.append_nil]
      exact converted

theorem Field.accounted_children (key : String) (category : Category) :
    ((children key category).answer settings depth document).Ensures
      ((children key category).Accounted settings depth document) := by
  rw [answer_children]
  refine Journal.ensures_ofChecked_bind fun items read nodes finished => ?_
  rcases Journal.ensures_mapM (fun item => Journal.ensures_entry) items nodes finished with
    ⟨accepted, converted⟩
  rw [← DocumentNode.under_of_readItems read] at converted
  simp only [List.flatMap_singleton'] at converted
  exact ⟨⟨converted.nodes_eq, accepted⟩, converted⟩

theorem Field.accounted_gappedChildren (key : String) (category : Category) :
    ((gappedChildren key category).answer settings depth document).Ensures
      ((gappedChildren key category).Accounted settings depth document) := by
  rw [answer_gappedChildren]
  refine Journal.ensures_ofChecked_bind fun items read nodes finished => ?_
  rcases Journal.ensures_mapM (fun item => Journal.ensures_gappedEntry) items nodes finished with
    ⟨accepted, converted⟩
  rw [← DocumentNode.under_of_readItems read] at converted
  refine ⟨⟨fun id location => ?_, ?_⟩, converted⟩
  · rw [converted.nodes_eq id location]
    exact (List.filterMap_eq_flatMap_toList ..).symm
  · intro node member
    rcases List.mem_filterMap.1 member with ⟨entry, listed, present⟩
    exact accepted entry listed node present

/-- Elementary types that nodes of less height have are legal. -/
def LegalBelow (settings : Settings) (depth bound : Nat) : Prop :=
  ∀ value : Json, value.height < bound → ∀ node type,
    (journal settings depth value).result = .ok node → node.elementaryType? = some type →
      type.Legal

theorem Field.accounted_elementaryChild (key : String)
    (legal : LegalBelow settings depth document.height) :
    ((elementaryChild key).answer settings depth document).Ensures
      ((elementaryChild key).Accounted settings depth document) := by
  rw [answer_elementaryChild]
  cases found : document.structural? key with
  | none => exact Journal.ensures_error
  | some value =>
    intro type finished
    rcases Journal.ensures_narrowed type finished with ⟨object, events, node, converted, narrowed⟩
    have smaller := DocumentNode.height_structural_lt found
    refine ⟨legal value smaller node type converted narrowed, ?_⟩
    rw [places, DocumentNode.typeOnlyPlaces_of_object found object]
    simp only [events]
    exact .single rfl converted fun _ _ => rfl

theorem Field.accounted_aliases :
    (aliases.answer settings depth document).Ensures
      (aliases.Accounted settings depth document) := by
  rw [answer_aliases]
  refine Journal.ensures_ofChecked_bind fun items read symbols finished => ?_
  rcases Journal.ensures_mapM (fun item => Journal.ensures_symbolAlias) items symbols finished with
    ⟨accepted, converted⟩
  rw [← DocumentNode.aliasPlaces_of_readItems read] at converted
  have given : ∀ id location,
      (symbols.flatMap fun symbol => [Journal.aliasNode id location symbol.foreign]) =
        symbols.map fun symbol => Journal.aliasNode id location symbol.foreign :=
    fun id location => List.flatMap_pure_eq_map ..
  simp only [given] at converted
  exact ⟨⟨converted.nodes_eq, accepted⟩, converted⟩

/-- Each answer of a document node is faithful, and its question has converted what
it asks about. -/
theorem Field.accounted (legal : LegalBelow settings depth document.height) (field : Field) :
    (field.answer settings depth document).Ensures
      (field.Accounted settings depth document) := by
  cases field with
  | child key category => exact accounted_child key category
  | child? key category => exact accounted_child? key category
  | children key category => exact accounted_children key category
  | gappedChildren key category => exact accounted_gappedChildren key category
  | elementaryChild key => exact accounted_elementaryChild key legal
  | aliases => exact accounted_aliases
  | id =>
    exact accounted_of_checked id rfl rfl (fun _ _ _ => rfl) fun _ read =>
      DocumentNode.nodeId?_of_readId read
  | idOrZero =>
    exact accounted_of_done idOrZero rfl rfl (fun _ _ _ => rfl) fun root => if_pos root
  | location =>
    exact accounted_of_checked location rfl rfl (fun _ _ _ => rfl) fun _ read =>
      DocumentNode.location?_of_readLocation read
  | locationOrWhole =>
    exact accounted_of_checked locationOrWhole rfl rfl (fun _ _ _ => rfl) fun _ read root =>
      DocumentNode.location?_of_whole root read
  | text key =>
    exact accounted_of_checked (text key) rfl rfl (fun _ _ _ => rfl) fun _ read =>
      DocumentNode.scalar?_of_readText read
  | flag? key =>
    exact accounted_of_checked (flag? key) rfl rfl (fun _ _ _ => rfl) fun _ read =>
      DocumentNode.scalar?_of_readFlag? read
  | holds key => exact accounted_of_done (holds key) rfl rfl (fun _ _ _ => rfl) rfl
  | holdsObject key =>
    exact accounted_of_done (holdsObject key) rfl rfl (fun _ _ _ => rfl) rfl
  | references =>
    exact accounted_of_checked references rfl rfl (fun _ _ _ => rfl) fun _ read =>
      DocumentNode.within_of_readReferences read
  | text? key =>
    exact accounted_of_checked (text? key) rfl rfl (fun _ _ _ => rfl) fun _ _ => trivial
  | flag key => exact accounted_of_checked (flag key) rfl rfl (fun _ _ _ => rfl) fun _ _ => trivial
  | documentation =>
    exact accounted_of_checked documentation rfl rfl (fun _ _ _ => rfl) fun _ _ => trivial
  | typeString => exact accounted_of_done typeString rfl rfl (fun _ _ _ => rfl) trivial
  | typeText => exact accounted_of_checked typeText rfl rfl (fun _ _ _ => rfl) fun _ _ => trivial
  | texts key =>
    exact accounted_of_checked (texts key) rfl rfl (fun _ _ _ => rfl) fun _ _ => trivial

end Answers
end ContractTree
