import ContractTree.Proofs.Conversion.Answers
import ContractTree.Proofs.Document.Places

namespace ContractTree

/-!
# What is converted for places

A journal that has an answer has converted what stands in certain places, one
place after the other, and nothing else.  Its events are then those of the places,
and its answer has the nodes of the places.  This is shown for each step that a
question about children takes, and for lists of such steps.
-/

namespace Place

variable (settings : Settings) (depth : Nat)

/-- The nodes that a place gives to the children of its owner.  An identifier made
from a bare name has the identifier and the location of the owner. -/
def nodes (id : NodeId) (location : SourceLocation) : Place → List Node
  | node value => (journal settings depth value).result.toOption.toList
  | typeOnly _ => []
  | bareName name => [Node.bareIdentifier id location name]

/-- What happens when the value in a place is converted. -/
def events (place : Place) : List Event :=
  (place.value?.map fun value => (journal settings depth value).events).getD []

/-- What stands in a place can be converted. -/
def Converts (place : Place) : Prop :=
  ∀ value, place.value? = some value → ∃ node, (journal settings depth value).result = .ok node

end Place

/-- All places have been converted in order, with these events and nodes. -/
structure Converted (settings : Settings) (depth : Nat) (places : List Place)
    (events : List Event) (nodes : NodeId → SourceLocation → List Node) : Prop where
  nodes_eq : ∀ id location, places.flatMap (Place.nodes settings depth id location) =
    nodes id location
  events_eq : events = places.flatMap (Place.events settings depth)
  converts : ∀ place ∈ places, place.Converts settings depth

namespace Converted

variable {settings : Settings} {depth : Nat}

theorem nil : Converted settings depth [] [] fun _ _ => [] where
  nodes_eq _ _ := rfl
  events_eq := rfl
  converts _ member := (List.not_mem_nil member).elim

theorem append {places later : List Place} {events after : List Event}
    {nodes following : NodeId → SourceLocation → List Node}
    (first : Converted settings depth places events nodes)
    (second : Converted settings depth later after following) :
    Converted settings depth (places ++ later) (events ++ after)
      fun id location => nodes id location ++ following id location where
  nodes_eq id location := by
    rw [List.flatMap_append, first.nodes_eq, second.nodes_eq]
  events_eq := by
    rw [List.flatMap_append, first.events_eq, second.events_eq]
  converts place member := by
    rcases List.mem_append.1 member with before | behind
    · exact first.converts place before
    · exact second.converts place behind

/-- One place with a value that has been converted. -/
theorem single {place : Place} {value : Json} {node : Node}
    {nodes : NodeId → SourceLocation → List Node} (stands : place.value? = some value)
    (finished : (journal settings depth value).result = .ok node)
    (given : ∀ id location, place.nodes settings depth id location = nodes id location) :
    Converted settings depth [place] (journal settings depth value).events nodes where
  nodes_eq id location := (List.flatMap_singleton ..).trans (given id location)
  events_eq := by
    rw [List.flatMap_singleton, Place.events, stands]
    rfl
  converts other member := by
    cases List.mem_singleton.1 member
    intro found same
    cases stands.symm.trans same
    exact ⟨node, finished⟩

theorem bareName (name : String) :
    Converted settings depth [.bareName name] []
      fun id location => [Node.bareIdentifier id location name] where
  nodes_eq _ _ := rfl
  events_eq := rfl
  converts place member := by
    cases List.mem_singleton.1 member
    intro value impossible
    cases impossible

end Converted

/-! ## Journals with an answer -/

namespace Journal

variable {α β : Type}

/-- If a journal has an answer, the answer and the events have a property. -/
def Ensures (journal : Journal α) (property : α → List Event → Prop) : Prop :=
  ∀ answer, journal.result = .ok answer → property answer journal.events

theorem ensures_pure {answer : α} {property : α → List Event → Prop} (holds : property answer []) :
    (pure answer : Journal α).Ensures property := by
  rintro _ ⟨⟩
  exact holds

theorem ensures_ofChecked {document : DocumentNode} {checked : Checked α}
    {property : α → List Event → Prop}
    (holds : ∀ answer, checked = .ok answer → property answer []) :
    (ofChecked document checked).Ensures property := by
  cases checked with
  | ok answer => exact ensures_pure (holds answer rfl)
  | error defect =>
    intro answer impossible
    cases impossible

theorem ensures_error {document : DocumentNode} {defect : Defect}
    {property : α → List Event → Prop} :
    (ofChecked document (.error defect) : Journal α).Ensures property :=
  ensures_ofChecked fun _ impossible => nomatch impossible

theorem ensures_bind {journal : Journal α} {next : α → Journal β}
    {middle : α → List Event → Prop} {property : β → List Event → Prop}
    (first : journal.Ensures middle)
    (second : ∀ answer events, middle answer events →
      (next answer).Ensures fun last later => property last (events ++ later)) :
    (journal >>= next).Ensures property := by
  intro last finished
  rcases result_bind_eq_ok.1 finished with ⟨answer, answered, rest⟩
  rw [events_bind_of_ok answered]
  exact second answer journal.events (first answer answered) last rest

/-- What is checked before a journal goes on leaves no event. -/
theorem ensures_ofChecked_bind {document : DocumentNode} {checked : Checked α}
    {next : α → Journal β} {property : β → List Event → Prop}
    (rest : ∀ answer, checked = .ok answer → (next answer).Ensures property) :
    (ofChecked document checked >>= next).Ensures property := by
  cases checked with
  | ok answer => exact rest answer rfl
  | error defect =>
    intro answer impossible
    cases impossible

section Places

variable {settings : Settings} {depth : Nat} {parent : DocumentNode} {key : String}
  {category : Category}

/-- The value in a place has been converted to the node that was narrowed. -/
theorem ensures_narrowed {narrow : Node → Option α} {value : Json} :
    (narrowed settings depth parent key category narrow value).Ensures fun answer events =>
      value.isObject = true ∧ events = (journal settings depth value).events ∧
        ∃ node, (journal settings depth value).result = .ok node ∧ narrow node = some answer := by
  unfold narrowed
  split
  · next object =>
    intro answer finished
    rcases result_bind_eq_ok.1 finished with ⟨node, converted, narrowed⟩
    rw [events_bind_of_ok converted]
    cases accepted : narrow node with
    | none =>
      rw [accepted] at narrowed
      cases narrowed
    | some found =>
      rw [accepted] at narrowed
      cases narrowed
      exact ⟨object, List.append_nil _, node, converted, accepted⟩
  · exact ensures_error

theorem ensures_inCategory {value : Json} :
    (inCategory settings depth parent key category value).Ensures fun child events =>
      (value.isObject = true ∧ category.accepts child.kind = true) ∧
        Converted settings depth [.node value] events fun _ _ => [child] := by
  intro child finished
  rcases ensures_narrowed child finished with ⟨object, events, node, converted, narrowed⟩
  split at narrowed
  · next accepted =>
    cases narrowed
    refine ⟨⟨object, accepted⟩, ?_⟩
    rw [inCategory, events]
    refine .single rfl converted fun id location => ?_
    simp only [Place.nodes, converted, Except.toOption, Option.toList]
  · cases narrowed

theorem ensures_entry {item : Json} :
    (entry settings depth parent key category item).Ensures fun child events =>
      category.accepts child.kind = true ∧
        Converted settings depth (DocumentNode.itemPlaces item) events fun _ _ => [child] := by
  unfold entry
  split
  · exact ensures_error
  · next present =>
    intro child finished
    rcases ensures_inCategory child finished with ⟨accepted, converted⟩
    rw [DocumentNode.itemPlaces, if_neg present]
    exact ⟨accepted.2, converted⟩

theorem ensures_gappedEntry {item : Json} :
    (gappedEntry settings depth parent key category item).Ensures fun child events =>
      (∀ node, child = some node → category.accepts node.kind = true) ∧
        Converted settings depth (DocumentNode.itemPlaces item) events
          fun _ _ => child.toList := by
  unfold gappedEntry DocumentNode.itemPlaces
  split
  · exact ensures_pure ⟨(fun _ impossible => nomatch impossible), .nil⟩
  · refine ensures_bind ensures_inCategory fun child events converted => ensures_pure ⟨?_, ?_⟩
    · rintro _ ⟨⟩
      exact converted.1.2
    · rw [List.append_nil]
      exact converted.2

/-- The node of an alias, if a name is all that it gives. -/
def aliasNode (id : NodeId) (location : SourceLocation) (foreign : String ⊕ Node) : Node :=
  Sum.elim (Node.bareIdentifier id location) (fun node => node) foreign

theorem ensures_foreign {members : Members} :
    (foreign settings depth parent members).Ensures fun name events =>
      (∀ node, name = .inr node → Category.identifier.accepts node.kind = true) ∧
        Converted settings depth (DocumentNode.foreignPlaces (.obj members)) events
          fun id location => [aliasNode id location name] := by
  simp only [foreign, DocumentNode.foreignPlaces]
  cases members.find? "foreign" with
  | none => exact ensures_error
  | some value =>
    cases value with
    | str name => exact ensures_pure ⟨(fun _ impossible => nomatch impossible), .bareName name⟩
    | obj inner =>
      refine ensures_bind ensures_inCategory fun child events converted => ensures_pure ⟨?_, ?_⟩
      · rintro _ ⟨⟩
        exact converted.1.2
      · rw [List.append_nil]
        exact converted.2
    | _ => exact ensures_error

theorem ensures_symbolAlias {item : Json} :
    (symbolAlias settings depth parent item).Ensures fun symbol events =>
      (∀ node, symbol.foreign = .inr node → Category.identifier.accepts node.kind = true) ∧
        Converted settings depth (DocumentNode.foreignPlaces item) events
          fun id location => [aliasNode id location symbol.foreign] := by
  cases item with
  | obj members =>
    refine ensures_bind ensures_foreign fun name events converted => ?_
    refine ensures_ofChecked_bind fun localName _ => ensures_pure ⟨converted.1, ?_⟩
    rw [List.append_nil]
    exact converted.2
  | _ => exact ensures_error

/-- A list of steps converts the places of all items. -/
theorem ensures_mapM {step : Json → Journal α} {places : Json → List Place} {good : α → Prop}
    {nodes : α → NodeId → SourceLocation → List Node}
    (steps : ∀ item, (step item).Ensures fun answer events =>
      good answer ∧ Converted settings depth (places item) events (nodes answer))
    (items : List Json) :
    (items.mapM step).Ensures fun answers events =>
      (∀ answer ∈ answers, good answer) ∧
        Converted settings depth (items.flatMap places) events
          fun id location => answers.flatMap fun answer => nodes answer id location := by
  induction items with
  | nil => exact ensures_pure ⟨fun _ member => (List.not_mem_nil member).elim, .nil⟩
  | cons item rest ih =>
    rw [List.mapM_cons]
    refine ensures_bind (steps item) fun first events here => ?_
    refine ensures_bind ih fun later after there => ensures_pure ⟨?_, ?_⟩
    · intro answer member
      rcases List.mem_cons.1 member with rfl | behind
      · exact here.1
      · exact there.1 answer behind
    · rw [List.append_nil]
      exact here.2.append there.2

end Places
end Journal
end ContractTree
