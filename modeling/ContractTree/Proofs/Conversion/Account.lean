import ContractTree.Proofs.Represented.Kind

namespace ContractTree

/-!
# Accounts of conversions

A conversion that ends with a node is accounted for by the document alone.  The
places of the document node say which values were converted, in which order, and
what became of them: the children of the node, in their order.  All results about
whole trees are inductions over such accounts.
-/

/-- What a conversion that ends with a node has done, in terms of the document. -/
structure Account (settings : Settings) (depth : Nat) (value : Json) (document : DocumentNode)
    (node : Node) : Prop where
  read : DocumentNode.ofJson? value = .ok document
  kind_eq : node.kind = document.kind
  id_eq : document.nodeId? = some node.id
  location_eq : document.location? settings = some node.location
  grammatical : node.Grammatical settings.source
  children_eq : (document.places settings.layout).flatMap
    (Place.nodes settings (depth + 1) node.id node.location) = node.children
  converts : ∀ place ∈ document.places settings.layout, place.Converts settings (depth + 1)
  events_eq : (journal settings depth value).events =
    .attempt depth value :: ((document.places settings.layout).flatMap
      (Place.events settings (depth + 1)) ++ [.completion document])

section Reads

variable {settings : Settings} {depth : Nat} {document : DocumentNode} {reads : List Answered}

theorem Place.flatMap_events_filter (places : List Place) :
    (places.filter isConverted).flatMap (events settings depth) =
      places.flatMap (events settings depth) := by
  induction places with
  | nil => rfl
  | cons place rest ih =>
    cases place with
    | bareName name => exact ih
    | node value => exact congrArg (_ ++ ·) ih
    | typeOnly value => exact congrArg (_ ++ ·) ih

/-- The events of all answers are those of the places that were asked about. -/
theorem Field.flatMap_events (legal : LegalBelow settings depth document.height)
    (each : ∀ read ∈ reads, (read.field.answer settings depth document).result = .ok read.answer) :
    (reads.flatMap fun read => (read.field.answer settings depth document).events) =
      (document.placesRead reads).flatMap (Place.events settings depth) := by
  rw [DocumentNode.placesRead, List.flatMap_assoc]
  refine List.flatMap_congr fun read member => ?_
  exact (accounted legal read.field read.answer (each read member)).2.events_eq

theorem Field.converts_of_mem (legal : LegalBelow settings depth document.height)
    (each : ∀ read ∈ reads, (read.field.answer settings depth document).result = .ok read.answer)
    {place : Place} (member : place ∈ document.placesRead reads) :
    place.Converts settings depth := by
  rcases List.mem_flatMap.1 member with ⟨read, listed, stands⟩
  exact (accounted legal read.field read.answer (each read listed)).2.converts place stands

end Reads

theorem Node.Grammatical.legal {source : SourceName} {node : Node} {type : ElementaryType}
    (grammatical : node.Grammatical source) (elementary : node.elementaryType? = some type) :
    type.Legal := by
  rcases node with ⟨id, location, shape⟩
  cases shape with
  | typeName shape =>
    cases shape with
    | elementary other =>
      cases elementary
      exact grammatical.shape.2
    | _ => cases elementary
  | _ => cases elementary

/-- Every conversion that ends with a node has an account.  The induction is on the
height of the value: what a form reads is faithful if all types below are legal. -/
theorem journal_account {settings : Settings} {depth : Nat} {value : Json} {node : Node}
    (finished : (journal settings depth value).result = .ok node) :
    ∃ document, Account settings depth value document node := by
  cases read : DocumentNode.ofJson? value with
  | error cause =>
    rw [journal_of_error read] at finished
    cases finished
  | ok document =>
    cases deep : settings.maxDepth.filter (· ≤ depth) with
    | some limit =>
      rw [journal_of_limit read deep] at finished
      cases finished
    | none =>
      have legal : LegalBelow settings (depth + 1) document.height := by
        intro child smaller other type converted elementary
        rcases journal_account converted with ⟨_, account⟩
        exact account.grammatical.legal elementary
      rw [journal_eq_fill read deep] at finished
      rcases Journal.result_bind_eq_ok.1 finished with ⟨_, _, rest⟩
      rcases Journal.result_bind_eq_ok.1 rest with ⟨made, filled, last⟩
      cases last
      have given : ∀ (field : Field) (answer : field.Answer),
          (field.answer settings (depth + 1) document).result = .ok answer →
            field.Faithful settings (depth + 1) document answer :=
        fun field answer answered => (field.accounted legal answer answered).1
      rcases Form.Ensures.of_fill given (document.represent_form settings (depth + 1)) filled with
        ⟨reads, represents, each, events, _⟩
      refine ⟨document, read, represents.kind_eq, represents.id_eq, represents.location_eq,
        represents.grammatical, represents.children_eq, ?_, ?_⟩
      · intro place member child stands
        have converted : place ∈ (document.placesRead reads).filter Place.isConverted := by
          rw [represents.converted_eq]
          refine List.mem_filter.2 ⟨member, ?_⟩
          rw [Place.isConverted, stands]
          rfl
        exact Field.converts_of_mem legal each (List.mem_filter.1 converted).1 child stands
      · rw [journal_eq_fill read deep]
        change _ :: (_ : Journal Node).events = _
        rw [Journal.events_bind_of_ok filled, events, Field.flatMap_events legal each,
          ← Place.flatMap_events_filter, represents.converted_eq, Place.flatMap_events_filter]
        rfl
termination_by value.height
decreasing_by
  rw [DocumentNode.ofJson?_eq_ok read]
  exact smaller

/-! ## What happened in the conversion of a place -/

namespace Account

variable {settings : Settings} {depth : Nat} {value : Json} {document : DocumentNode} {node : Node}

/-- What happened in the conversion of a place happened in that of the whole. -/
theorem event_of_place (account : Account settings depth value document node) {place : Place}
    {inner : Json} (listed : place ∈ document.places settings.layout)
    (stands : place.value? = some inner) {event : Event}
    (happened : event ∈ (journal settings (depth + 1) inner).events) :
    event ∈ (journal settings depth value).events := by
  rw [account.events_eq]
  refine List.mem_cons_of_mem _ (List.mem_append_left _ (List.mem_flatMap.2 ⟨place, listed, ?_⟩))
  rw [Place.events, stands]
  exact happened

theorem attempted (account : Account settings depth value document node) :
    .attempt depth value ∈ (journal settings depth value).events := by
  rw [account.events_eq]
  exact List.mem_cons_self ..

/-- What is attempted in a value is attempted in one of its places. -/
theorem attempt_tail_iff (account : Account settings depth value document node) {level : Nat}
    {other : Json} :
    .attempt level other ∈ (journal settings depth value).events.tail ↔
      ∃ place ∈ document.places settings.layout, ∃ inner, place.value? = some inner ∧
        .attempt level other ∈ (journal settings (depth + 1) inner).events := by
  rw [account.events_eq, List.tail_cons]
  constructor
  · intro happened
    rcases List.mem_append.1 happened with inside | last
    · rcases List.mem_flatMap.1 inside with ⟨place, listed, within⟩
      cases stands : place.value? with
      | none =>
        rw [Place.events, stands] at within
        cases within
      | some inner =>
        rw [Place.events, stands] at within
        exact ⟨place, listed, inner, stands, within⟩
    · cases List.mem_singleton.1 last
  · rintro ⟨place, listed, inner, stands, happened⟩
    refine List.mem_append_left _ (List.mem_flatMap.2 ⟨place, listed, ?_⟩)
    rw [Place.events, stands]
    exact happened

/-- An attempt is the first one or one in the value. -/
theorem attempt_iff (account : Account settings depth value document node) {level : Nat}
    {other : Json} :
    .attempt level other ∈ (journal settings depth value).events ↔
      (level = depth ∧ other = value) ∨
        .attempt level other ∈ (journal settings depth value).events.tail := by
  rw [account.events_eq, List.tail_cons, List.mem_cons, Event.attempt.injEq]

/-- An attempt is the first one or belongs to a place. -/
theorem attempt_cases (account : Account settings depth value document node) {level : Nat}
    {other : Json} (happened : .attempt level other ∈ (journal settings depth value).events) :
    (level = depth ∧ other = value) ∨
      ∃ place ∈ document.places settings.layout, ∃ inner, place.value? = some inner ∧
        .attempt level other ∈ (journal settings (depth + 1) inner).events :=
  (account.attempt_iff.1 happened).imp_right account.attempt_tail_iff.1

/-- A child was converted from the value in a place, or stands for a bare name. -/
theorem child_cases (account : Account settings depth value document node) {child : Node}
    (member : child ∈ node.children) :
    (∃ inner, .node inner ∈ document.places settings.layout ∧
      (journal settings (depth + 1) inner).result = .ok child) ∨
    ∃ name, .bareName name ∈ document.places settings.layout ∧
      child = Node.bareIdentifier node.id node.location name := by
  rw [← account.children_eq] at member
  rcases List.mem_flatMap.1 member with ⟨place, listed, given⟩
  cases place with
  | node inner =>
    rcases account.converts _ listed inner rfl with ⟨made, converted⟩
    rw [Place.nodes, converted] at given
    cases List.mem_singleton.1 given
    exact .inl ⟨inner, listed, converted⟩
  | typeOnly inner => cases given
  | bareName name => exact .inr ⟨name, listed, List.mem_singleton.1 given⟩

/-- The node in a place is a child. -/
theorem child_of_place (account : Account settings depth value document node) {inner : Json}
    {child : Node} (listed : .node inner ∈ document.places settings.layout)
    (converted : (journal settings (depth + 1) inner).result = .ok child) :
    child ∈ node.children := by
  rw [← account.children_eq]
  refine List.mem_flatMap.2 ⟨.node inner, listed, ?_⟩
  rw [Place.nodes, converted]
  exact List.mem_singleton_self child

end Account

end ContractTree
