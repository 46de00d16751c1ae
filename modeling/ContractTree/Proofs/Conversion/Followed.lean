import ContractTree.Proofs.Conversion.Converted
import ContractTree.Proofs.Conversion.Congruent
import ContractTree.Proofs.Document.Swapped
import ContractTree.Proofs.Form.Expected
import ContractTree.Proofs.Form.Parallel

namespace ContractTree

/-!
# Answers with another object in a seat

Of the answers of a node, those change in which the object in the seat is converted.
Such an answer follows the object: with another object it fails just as that object
does, or has the node of that object in the same place.  All other answers stay the
same.
-/

/-- What is made of a value in a seat: its node, unless the seat does not admit it. -/
def Seat.outcome (settings : Settings) (depth : Nat) (parent : DocumentNode) (seat : Seat)
    (value : Json) : Except ImportError Node :=
  (Journal.inCategory settings depth parent seat.key (parent.kind.expected seat.key) value).result

/-- A question about the children under a key. -/
def Field.Touches (key : String) : Field → Prop
  | child name _ | child? name _ | children name _ | gappedChildren name _ | elementaryChild name =>
    name = key
  | aliases => "symbolAliases" = key
  | _ => False

namespace Journal

variable {α : Type}

theorem result_map {β : Type} (journal : Journal α) (f : α → β) :
    (journal >>= fun answer => pure (f answer)).result = journal.result.map f := by
  rw [result_bind]
  cases journal.result <;> rfl

theorem map_map_result {β γ : Type} (result : Except ImportError α) (f : α → β) (g : β → γ) :
    (result.map f).map g = result.map fun answer => g (f answer) := by
  cases result <;> rfl

/-- With one item of a list changed, a list of answers fails as the item does, or has the
answer of the item in its place. -/
theorem mapM_modify {step : Json → Journal α} {items : List Json} {answers : List α}
    (finished : (items.mapM step).result = .ok answers) {index : Nat} {item : Json}
    (found : items[index]? = some item) (change : Json → Json) :
    (∃ answer, (step item).result = .ok answer ∧ answers[index]? = some answer) ∧
      ((items.modify index change).mapM step).result =
        (step (change item)).result.map (answers.set index) := by
  induction items generalizing index answers with
  | nil => cases found
  | cons first rest ih =>
    rw [List.mapM_cons] at finished
    rcases result_bind_eq_ok.1 finished with ⟨head, here, later⟩
    rcases result_bind_eq_ok.1 later with ⟨tail, there, last⟩
    cases last
    cases index with
    | zero =>
      cases found
      refine ⟨⟨head, here, rfl⟩, ?_⟩
      rw [List.modify_zero_cons, List.mapM_cons, result_bind]
      cases (step (change item)).result with
      | error cause => rfl
      | ok answer =>
        change (rest.mapM step >>= fun answers => pure (answer :: answers)).result = _
        rw [result_map, there]
        rfl
    | succ index =>
      rcases ih there found with ⟨answered, changed⟩
      refine ⟨answered, ?_⟩
      rw [List.modify_succ_cons, List.mapM_cons, result_bind, here]
      change ((rest.modify index change).mapM step >>= fun answers => pure (head :: answers)).result
        = _
      rw [result_map, changed]
      cases (step (change item)).result <;> rfl

theorem map_set_of_getElem? {β : Type} {answers : List α} {index : Nat} {before after : α}
    (found : answers[index]? = some before) {f : α → β} (same : f after = f before) :
    (answers.set index after).map f = answers.map f := by
  induction answers generalizing index with
  | nil => cases found
  | cons first rest ih =>
    cases index with
    | zero =>
      cases found
      exact congrArg (· :: rest.map f) same
    | succ index => exact congrArg (f first :: ·) (ih found)

/-- The answers for the items under a key of a node, and of a node with one item changed. -/
theorem items_modify {document image : DocumentNode} {key : String} {items : List Json}
    {step : Json → Journal α} {answers : List α} {index : Nat} {item : Json}
    {change : Json → Json}
    (finished : (ofChecked document (document.readItems key) >>= List.mapM step).result =
      .ok answers)
    (stands : document.structural? key = some (.arr items))
    (changed : image.structural? key = some (.arr (items.modify index change)))
    (found : items[index]? = some item) :
    (∃ answer, (step item).result = .ok answer ∧ answers[index]? = some answer) ∧
      (ofChecked image (image.readItems key) >>= List.mapM step).result =
        (step (change item)).result.map (answers.set index) := by
  rw [DocumentNode.readItems, stands] at finished
  rw [DocumentNode.readItems, changed]
  exact mapM_modify finished found change

end Journal

section Object

variable {settings : Settings} {depth : Nat} {document : DocumentNode} {key : String}
  {category : Category} {value : Json}

theorem Journal.entry_of_object (object : value.isObject = true) :
    entry settings depth document key category value =
      inCategory settings depth document key category value := by
  rw [entry, Json.isNull_of_isObject object]
  rfl

theorem Journal.gappedEntry_of_object (object : value.isObject = true) :
    gappedEntry settings depth document key category value =
      inCategory settings depth document key category value >>= fun child => pure (some child) := by
  rw [gappedEntry, Json.isNull_of_isObject object]
  rfl

theorem Journal.foreign_of_object {members : Members} (object : value.isObject = true)
    (named : members.find? "foreign" = some value) :
    foreign settings depth document members =
      inCategory settings depth document "symbolAliases" .identifier value >>= fun child =>
        pure (.inr child) := by
  cases value with
  | obj inner => simp only [foreign, named]
  | _ => cases object

theorem Journal.narrowed_of_converted {α : Type} {narrow : Node → Option α} {node : Node}
    (object : value.isObject = true)
    (converted : (journal settings depth value).result = .ok node) :
    (narrowed settings depth document key category narrow value).result =
      (narrow node).elim
        (.error (.invariantViolation document.context (.unexpectedChild key category node.kind)))
        .ok := by
  have step : ∀ {β : Type} (next : Node → Except ImportError β),
      (Except.ok node >>= next) = next node := fun _ => rfl
  unfold narrowed
  rw [if_pos object, result_bind, converted, step]
  cases narrow node <;> rfl

theorem Journal.inCategory_of_accepted {node : Node} (object : value.isObject = true)
    (converted : (journal settings depth value).result = .ok node)
    (accepted : category.accepts node.kind = true) :
    (inCategory settings depth document key category value).result = .ok node := by
  rw [inCategory, narrowed_of_converted object converted, if_pos accepted]
  rfl

theorem Journal.inCategory_of_refused {node : Node} (object : value.isObject = true)
    (converted : (journal settings depth value).result = .ok node)
    (refused : category.accepts node.kind = false) :
    (inCategory settings depth document key category value).result =
      .error (.invariantViolation document.context (.unexpectedChild key category node.kind)) := by
  rw [inCategory, narrowed_of_converted object converted, refused]
  rfl

theorem Journal.narrowed_of_error {α : Type} {narrow : Node → Option α} {cause : ImportError}
    (object : value.isObject = true)
    (failed : (journal settings depth value).result = .error cause) :
    (narrowed settings depth document key category narrow value).result = .error cause := by
  unfold narrowed
  rw [if_pos object, result_bind, failed]
  rfl

theorem Journal.narrowed_elementary (type : ElementaryType) :
    (narrowed settings depth document key .elementaryTypeName Node.elementaryType? value).result =
      (inCategory settings depth document key .elementaryTypeName value).result.map fun node =>
        node.elementaryType?.getD type := by
  cases object : value.isObject with
  | false =>
    unfold inCategory narrowed
    rw [object]
    rfl
  | true =>
    cases converted : (journal settings depth value).result with
    | error cause =>
      rw [inCategory, narrowed_of_error object converted, narrowed_of_error object converted]
      rfl
    | ok node =>
      rw [inCategory, narrowed_of_converted object converted,
        narrowed_of_converted object converted, ← Node.elementaryType?_isSome]
      cases found : node.elementaryType? with
      | none => rfl
      | some other =>
        change Except.ok other = .ok (node.elementaryType?.getD type)
        rw [found]
        rfl

/-! ### What a seat admits -/

section Seat

variable {seat : Seat} {node : Node}

theorem Seat.outcome_of_error {cause : ImportError} (object : value.isObject = true)
    (failed : (journal settings depth value).result = .error cause) :
    seat.outcome settings depth document value = .error cause :=
  Journal.narrowed_of_error object failed

theorem Seat.outcome_of_refused (object : value.isObject = true)
    (converted : (journal settings depth value).result = .ok node)
    (refused : (document.kind.expected seat.key).accepts node.kind = false) :
    seat.outcome settings depth document value = .error (.invariantViolation document.context
      (.unexpectedChild seat.key (document.kind.expected seat.key) node.kind)) :=
  Journal.inCategory_of_refused object converted refused

theorem Seat.outcome_of_accepted (object : value.isObject = true)
    (converted : (journal settings depth value).result = .ok node)
    (accepted : (document.kind.expected seat.key).accepts node.kind = true) :
    seat.outcome settings depth document value = .ok node :=
  Journal.inCategory_of_accepted object converted accepted

theorem Seat.converted_of_outcome
    (admitted : seat.outcome settings depth document value = .ok node) :
    (journal settings depth value).result = .ok node ∧
      (document.kind.expected seat.key).accepts node.kind = true := by
  rcases Journal.ensures_narrowed node admitted with ⟨_, _, made, converted, narrowed⟩
  split at narrowed
  · next accepted =>
    cases narrowed
    exact ⟨converted, accepted⟩
  · cases narrowed

end Seat

end Object

namespace Swap

variable {settings : Settings} {depth : Nat} {document : DocumentNode} {seat : Seat}
  {place : Place} {old new : Json}
  (swap : Swap settings.layout document seat place old new)

include swap

/-! ## Answers that stay the same -/

/-- What is not about the children in the seat is answered as before. -/
theorem answer_of_untouched {field : Field} (fits : field.Fits document.kind)
    (expects : field.Expects document.kind) (untouched : ¬ field.Touches seat.key) :
    field.answer settings depth (document.put seat new) = field.answer settings depth document := by
  have context := swap.context_put
  have elsewhere : ∀ field : Field,
      (∀ key ∈ field.structuralKeys ++ field.scalarKeys, key ≠ seat.key ∧ key ≠ "attributes") →
        field.answer settings depth (document.put seat new) =
          field.answer settings depth document := by
    intro field clear
    refine Field.answer_congr context field (fun key member => ?_) fun key member => ?_
    · rcases clear key (List.mem_append_left _ member) with ⟨different, free⟩
      exact swap.structural?_of_ne different free
    · rcases clear key (List.mem_append_right _ member) with ⟨different, free⟩
      exact swap.scalar?_of_ne different free
  have single : ∀ key, key ≠ seat.key → key ≠ "attributes" →
      ∀ name ∈ [key], name ≠ seat.key ∧ name ≠ "attributes" := by
    intro key different free name member
    cases List.mem_singleton.1 member
    exact ⟨different, free⟩
  have common : ∀ key ∈ reservedKeys ++ ["id", "src", "documentation", "typeDescriptions",
      "externalReferences"], key ≠ seat.key :=
    fun key member => swap.ne_of_plain (document.kind.position_common key member)
  have scalar : ∀ key, document.kind.position key = .plain ∧ key ∉ ["nodeType", "attributes"] →
      ∀ name ∈ [key], name ≠ seat.key ∧ name ≠ "attributes" := by
    rintro key ⟨plain, free⟩
    refine single key (swap.ne_of_plain plain) ?_
    rintro rfl
    exact free (by decide)
  have unreserved : ∀ key, key ∉ reservedKeys → key ≠ "attributes" := by
    rintro _ free rfl
    exact free (by decide)
  have child : ∀ key, document.kind.position key ≠ .plain → key ≠ seat.key →
      ∀ name ∈ [key], name ≠ seat.key ∧ name ≠ "attributes" := fun key holds different =>
    single key different (unreserved key (NodeKind.not_mem_reservedKeys holds))
  cases field with
  | id => exact elsewhere .id (single _ (common _ (by decide)) (by decide))
  | idOrZero => exact elsewhere .idOrZero (single _ (common _ (by decide)) (by decide))
  | location => exact elsewhere .location (single _ (common _ (by decide)) (by decide))
  | locationOrWhole =>
    exact elsewhere .locationOrWhole (single _ (common _ (by decide)) (by decide))
  | documentation => exact elsewhere .documentation (single _ (common _ (by decide)) (by decide))
  | typeString => exact elsewhere .typeString (single _ (common _ (by decide)) (by decide))
  | references => exact elsewhere .references (single _ (common _ (by decide)) (by decide))
  | text key => exact elsewhere (.text key) (scalar key fits)
  | text? key => exact elsewhere (.text? key) (scalar key fits)
  | flag key => exact elsewhere (.flag key) (scalar key fits)
  | flag? key => exact elsewhere (.flag? key) (scalar key fits)
  | texts key =>
    exact elsewhere (.texts key) (single _ (swap.ne_of_plain fits.1) (unreserved key fits.2))
  | child key category =>
    exact elsewhere (.child key category) (child key (by rw [fits]; nofun) untouched)
  | child? key category =>
    exact elsewhere (.child? key category) (child key (by rw [fits]; nofun) untouched)
  | children key category =>
    exact elsewhere (.children key category) (child key (by rw [fits]; nofun) untouched)
  | gappedChildren key category =>
    exact elsewhere (.gappedChildren key category) (child key (by rw [fits]; nofun) untouched)
  | elementaryChild key =>
    exact elsewhere (.elementaryChild key) (child key (by rw [fits]; nofun) untouched)
  | aliases => exact elsewhere .aliases (child _ (by rw [fits]; nofun) untouched)
  | holds key =>
    have same : (.ok ((document.put seat new).structural? key).isSome : Checked Bool) =
        .ok (document.structural? key).isSome := by
      rw [swap.isSome_structural? (unreserved key fits)]
    exact Field.answer_congr_of_checked context (.holds key) same rfl rfl
  | holdsObject key =>
    have key_eq : key = "typeName" := fits.2
    have same : (.ok (((document.put seat new).structural? key).any Json.isObject) : Checked Bool) =
        .ok ((document.structural? key).any Json.isObject) := by
      rw [swap.any_isObject_structural? (by rw [key_eq]; decide)]
    exact Field.answer_congr_of_checked context (.holdsObject key) same rfl rfl
  | typeText =>
    exact Field.answer_congr_of_checked context .typeText (swap.readTypeText_put expects) rfl rfl

/-! ## Answers that have another node -/

/-- The answer to a question has the node of what stands in the seat: the old value is
admitted there, and with the new value the answer has the node of that one instead. -/
def Follows (settings : Settings) (depth : Nat) (document : DocumentNode) (seat : Seat)
    (old new : Json) (field : Field) (answer : field.Answer) : Prop :=
  (∃ node, seat.outcome settings depth document old = .ok node) ∧
    ∃ put : Node → field.Answer, (∀ node, field.Parallel answer (put node)) ∧
      (field.answer settings depth (document.put seat new)).result =
        (seat.outcome settings depth document new).map put

/-- What is admitted to the seat of the new node is admitted to that of the old one. -/
theorem inCategory_put {key : String} {category : Category}
    (expects : document.kind.expected key = category) (value : Json) :
    (Journal.inCategory settings depth (document.put seat new) key category value).result =
      (Journal.inCategory settings depth document key
        (document.kind.expected key) value).result := by
  rw [Journal.inCategory_congr swap.context_put, expects]

end Swap

namespace Swap

variable {settings : Settings} {depth : Nat} {document : DocumentNode} {place : Place}
  {old new : Json} {key : String} {category : Category}

section Field

variable (swap : Swap settings.layout document (.field key) place old new)

include swap

theorem structural?_field : document.structural? key = some old := by
  rcases swap.holds with ⟨stands⟩
  exact stands

theorem structural?_put_field :
    (document.put (.field key) new).structural? key = some new :=
  swap.structural?.trans (congrArg (Option.map fun _ => new) swap.structural?_field)

/-- A list of children does not stand where there is an object. -/
theorem readItems_field :
    document.readItems key = .error (.wrongType key .array) := by
  have wasObject := swap.wasObject
  rw [DocumentNode.readItems, swap.structural?_field]
  cases old <;> first | rfl | cases wasObject

theorem follows_child (expects : document.kind.expected key = category) {node : Node}
    (answered : ((Field.child key category).answer settings depth document).result = .ok node) :
    Follows settings depth document (.field key) old new (.child key category) node := by
  rw [Field.answer_child, swap.structural?_field, ← expects] at answered
  refine ⟨⟨node, answered⟩, id, fun _ => trivial, ?_⟩
  rw [Field.answer_child, swap.structural?_put_field]
  refine (swap.inCategory_put expects new).trans ?_
  exact (congrFun Except.map_id _).symm

theorem follows_child? (expects : document.kind.expected key = category) {child : Option Node}
    (answered : ((Field.child? key category).answer settings depth document).result = .ok child) :
    Follows settings depth document (.field key) old new (.child? key category) child := by
  rw [Field.answer_child?, swap.structural?_field, ← expects] at answered
  rcases Journal.result_bind_eq_ok.1 answered with ⟨node, admitted, rest⟩
  cases rest
  refine ⟨⟨node, admitted⟩, some, fun _ => rfl, ?_⟩
  rw [Field.answer_child?, swap.structural?_put_field]
  refine (Journal.result_map _ some).trans ?_
  exact congrArg (Except.map some) (swap.inCategory_put expects new)

/-- The type that is kept of a child is that of the child that stands there. -/
theorem answer_elementaryChild_put (expects : document.kind.expected key = .elementaryTypeName)
    {type : ElementaryType}
    (answered : ((Field.elementaryChild key).answer settings depth document).result = .ok type) :
    (∃ node, (Seat.field key).outcome settings depth document old = .ok node ∧
      node.elementaryType? = some type) ∧
    ((Field.elementaryChild key).answer settings depth (document.put (.field key) new)).result =
      ((Seat.field key).outcome settings depth document new).map fun node =>
        node.elementaryType?.getD type := by
  have outcome : ∀ value, (Seat.field key).outcome settings depth document value =
      (Journal.inCategory settings depth document key .elementaryTypeName value).result := by
    intro value
    rw [Seat.outcome, Seat.key, expects]
  rw [outcome, outcome, Field.answer_elementaryChild, swap.structural?_put_field]
  rw [Field.answer_elementaryChild, swap.structural?_field] at answered
  refine ⟨?_, ?_⟩
  · rcases Journal.ensures_narrowed type answered with ⟨object, _, node, converted, narrowed⟩
    have accepted : Category.elementaryTypeName.accepts node.kind = true := by
      rw [← Node.elementaryType?_isSome, narrowed]
      rfl
    exact ⟨node, Journal.inCategory_of_accepted object converted accepted, narrowed⟩
  · change (Journal.narrowed settings depth (document.put (.field key) new) key
      .elementaryTypeName Node.elementaryType? new).result = _
    rw [Journal.narrowed_elementary type, Journal.inCategory_congr swap.context_put]

end Field

section Item

variable {index : Nat} (swap : Swap settings.layout document (.item key index) place old new)

include swap

theorem stands_item : ∃ items, document.structural? key = some (.arr items) ∧
    items[index]? = some old ∧ (document.put (.item key index) new).structural? key =
      some (.arr (items.modify index fun _ => new)) := by
  rcases swap.holds with _ | ⟨stands, found⟩
  refine ⟨_, stands, found, ?_⟩
  rw [List.modify_eq_set]
  exact swap.structural?.trans (congrArg (Option.map ((Seat.item key index).put new)) stands)

theorem follows_children (expects : document.kind.expected key = category) {nodes : List Node}
    (answered : ((Field.children key category).answer settings depth document).result =
      .ok nodes) :
    Follows settings depth document (.item key index) old new (.children key category) nodes := by
  rcases swap.stands_item with ⟨items, stands, found, changed⟩
  rw [Field.answer_children] at answered
  rcases Journal.items_modify answered stands changed found with ⟨⟨node, here, listed⟩, rest⟩
  rw [Journal.entry_of_object swap.wasObject, ← expects] at here
  rw [Journal.entry_of_object swap.isObject, ← expects] at rest
  refine ⟨⟨node, here⟩, nodes.set index, fun other => ?_, ?_⟩
  · exact Journal.map_set_of_getElem? listed rfl
  · rw [Field.answer_children, Journal.entry_congr swap.context_put, ← expects]
    exact rest

theorem follows_gappedChildren (expects : document.kind.expected key = category)
    {nodes : List (Option Node)}
    (answered : ((Field.gappedChildren key category).answer settings depth document).result =
      .ok nodes) :
    Follows settings depth document (.item key index) old new (.gappedChildren key category)
      nodes := by
  rcases swap.stands_item with ⟨items, stands, found, changed⟩
  rw [Field.answer_gappedChildren] at answered
  rcases Journal.items_modify answered stands changed found with ⟨⟨child, here, listed⟩, rest⟩
  rw [Journal.gappedEntry_of_object swap.wasObject, ← expects] at here
  rcases Journal.result_bind_eq_ok.1 here with ⟨node, admitted, last⟩
  cases last
  rw [Journal.gappedEntry_of_object swap.isObject, ← expects, Journal.result_map] at rest
  refine ⟨⟨node, admitted⟩, fun other => nodes.set index (some other), fun other => ?_, ?_⟩
  · exact Journal.map_set_of_getElem? listed rfl
  · rw [Field.answer_gappedChildren, Journal.gappedEntry_congr swap.context_put, ← expects]
    exact rest.trans (Journal.map_map_result ..)

end Item

section Foreign

variable {index : Nat} (swap : Swap settings.layout document (.foreign index) place old new)

include swap

theorem follows_aliases (expects : document.kind.expected "symbolAliases" = .identifier)
    {symbols : List (SymbolAlias (String ⊕ Node))}
    (answered : (Field.aliases.answer settings depth document).result = .ok symbols) :
    Follows settings depth document (.foreign index) old new .aliases symbols := by
  rcases swap.holds with _ | _ | ⟨stands, found, named⟩
  rename_i items members
  have changed : (document.put (.foreign index) new).structural? "symbolAliases" =
      some (.arr (items.modify index
        (Json.mapObject (Members.change (fun _ => new) "foreign")))) :=
    swap.structural?.trans (congrArg (Option.map ((Seat.foreign index).put new)) stands)
  have renamed : Members.find? (members.change (fun _ => new) "foreign") "foreign" = some new := by
    rw [Members.find?_change fun _ _ => Json.isNull_of_isObject swap.isObject, named]
    rfl
  have local_eq : SymbolAlias.readLocalName (members.change (fun _ => new) "foreign") =
      SymbolAlias.readLocalName members := by
    rw [SymbolAlias.readLocalName, Members.find?_change_of_ne (by decide),
      SymbolAlias.readLocalName]
  rw [Field.answer_aliases] at answered
  rcases Journal.items_modify answered stands changed found with ⟨⟨symbol, here, listed⟩, rest⟩
  change (Journal.foreign settings depth document members >>= fun name => _).result = _ at here
  rw [Journal.foreign_of_object swap.wasObject named, ← expects] at here
  rcases Journal.result_bind_eq_ok.1 here with ⟨name, nameGiven, hereLater⟩
  rcases Journal.result_bind_eq_ok.1 nameGiven with ⟨node, admitted, nameLast⟩
  cases nameLast
  rcases Journal.result_bind_eq_ok.1 hereLater with ⟨localName, localGiven, last⟩
  cases last
  have localRead : SymbolAlias.readLocalName members = .ok localName := by
    cases read : SymbolAlias.readLocalName members with
    | ok other =>
      rw [read] at localGiven
      cases localGiven
      rfl
    | error defect =>
      rw [read] at localGiven
      cases localGiven
  have after : (Journal.symbolAlias settings depth document
      ((Json.obj members).mapObject (Members.change (fun _ => new) "foreign"))).result =
        ((Seat.foreign index).outcome settings depth document new).map fun other =>
          ⟨.inr other, localName⟩ := by
    change (Journal.foreign settings depth document (members.change (fun _ => new) "foreign") >>=
      fun name => Journal.ofChecked document
        (SymbolAlias.readLocalName (members.change (fun _ => new) "foreign")) >>= fun localName =>
          pure (SymbolAlias.mk name localName)).result = _
    have outcome : (Seat.foreign index).outcome settings depth document new =
        (Journal.inCategory settings depth document "symbolAliases" .identifier new).result := by
      rw [← expects]
      rfl
    rw [Journal.foreign_of_object swap.isObject renamed, local_eq, localRead,
      Journal.result_bind, Journal.result_map, outcome]
    cases (Journal.inCategory settings depth document "symbolAliases" .identifier new).result <;>
      rfl
  refine ⟨⟨node, admitted⟩, fun other => symbols.set index ⟨.inr other, localName⟩,
    fun other => ?_, ?_⟩
  · exact Journal.map_set_of_getElem? listed rfl
  · rw [Field.answer_aliases, Journal.symbolAlias_congr swap.context_put, rest, after]
    exact Journal.map_map_result ..

end Foreign

section Any

variable {seat : Seat} (swap : Swap settings.layout document seat place old new)

include swap

/-- Where a child is read there is an object, and so it is the one in the seat. -/
theorem seat_eq_field (object : ∀ value, document.structural? seat.key = some value →
    value.isObject = true) : ∃ key, seat = .field key := by
  cases swap.holds with
  | field stands => exact ⟨_, rfl⟩
  | item stands => cases object _ stands
  | foreign stands => cases object _ stands

theorem seat_eq_item (expected : document.kind.position seat.key = .nodes) {items : List Json}
    (read : document.readItems seat.key = .ok items) : ∃ key index, seat = .item key index := by
  cases seat with
  | item key index => exact ⟨key, index, rfl⟩
  | field key => cases swap.readItems_field.symm.trans read
  | foreign index => cases expected.symm.trans swap.fits

theorem seat_eq_foreign (expected : document.kind.position seat.key = .symbolAliases) :
    ∃ index, seat = .foreign index := by
  cases seat with
  | foreign index => exact ⟨index, rfl⟩
  | field key =>
    rcases swap.fits with other | other
    · cases expected.symm.trans other
    · cases expected.symm.trans other
  | item key index =>
    rcases swap.fits with other | other
    · cases expected.symm.trans other
    · cases expected.symm.trans other

omit swap in
theorem object_of_narrowed {α : Type} {narrow : Node → Option α} {answer : α} {value other : Json}
    (finished : (Journal.narrowed settings depth document key category narrow value).result =
      .ok answer) (present : document.structural? key = some value)
    (found : document.structural? key = some other) : other.isObject = true := by
  cases present.symm.trans found
  exact (Journal.ensures_narrowed answer finished).1

omit swap in
theorem readItems_of_ok {α : Type} {next : List Json → Journal α} {answer : α}
    (finished : (Journal.ofChecked document (document.readItems key) >>= next).result =
      .ok answer) : ∃ items, document.readItems key = .ok items := by
  cases read : document.readItems key with
  | ok items => exact ⟨items, rfl⟩
  | error defect =>
    rw [read] at finished
    cases finished

/-- A question about the children in the seat has the node there in its answer. -/
theorem follows_of_touched {field : Field} (fits : field.Fits document.kind)
    (expects : field.Expects document.kind) (touches : field.Touches seat.key)
    {answer : field.Answer}
    (answered : (field.answer settings depth document).result = .ok answer) :
    Follows settings depth document seat old new field answer := by
  cases field with
  | child key category =>
    subst touches
    have object : ∀ value, document.structural? seat.key = some value → value.isObject = true := by
      intro value found
      rw [Field.answer_child, found] at answered
      exact object_of_narrowed answered found found
    rcases swap.seat_eq_field object with ⟨key, rfl⟩
    exact swap.follows_child expects answered
  | child? key category =>
    subst touches
    have object : ∀ value, document.structural? seat.key = some value → value.isObject = true := by
      intro value found
      rw [Field.answer_child?, found] at answered
      rcases Journal.result_bind_eq_ok.1 answered with ⟨node, admitted, _⟩
      exact object_of_narrowed admitted found found
    rcases swap.seat_eq_field object with ⟨key, rfl⟩
    exact swap.follows_child? expects answered
  | elementaryChild key =>
    subst touches
    have object : ∀ value, document.structural? seat.key = some value → value.isObject = true := by
      intro value found
      rw [Field.answer_elementaryChild, found] at answered
      exact object_of_narrowed answered found found
    rcases swap.seat_eq_field object with ⟨key, rfl⟩
    rcases swap.answer_elementaryChild_put expects answered with ⟨⟨node, admitted, _⟩, after⟩
    exact ⟨⟨node, admitted⟩, _, fun _ => trivial, after⟩
  | children key category =>
    subst touches
    have read := answered
    rw [Field.answer_children] at read
    rcases readItems_of_ok read with ⟨items, listed⟩
    rcases swap.seat_eq_item fits listed with ⟨key, index, rfl⟩
    exact swap.follows_children expects answered
  | gappedChildren key category =>
    subst touches
    have read := answered
    rw [Field.answer_gappedChildren] at read
    rcases readItems_of_ok read with ⟨items, listed⟩
    rcases swap.seat_eq_item fits listed with ⟨key, index, rfl⟩
    exact swap.follows_gappedChildren expects answered
  | aliases =>
    have expected : document.kind.position seat.key = .symbolAliases := by
      rw [← show "symbolAliases" = seat.key from touches]
      exact fits
    rcases swap.seat_eq_foreign expected with ⟨index, rfl⟩
    exact swap.follows_aliases expects answered
  | _ => exact touches.elim

/-! ## Conversions of the node -/

/-- The questions of the form of a kind, with what is known of them. -/
abbrev Asked (document : DocumentNode) (field : Field) : Prop :=
  field.Fits document.kind ∧ field.Expects document.kind

omit swap in
theorem asks_asked (document : DocumentNode) :
    document.kind.form.Asks (Asked document) fun _ => True ∧ True :=
  (Form.asks_form document.kind).and (Form.asks_expected document.kind)

theorem answer_of_asked {field : Field} (asked : Asked document field) {answer : field.Answer}
    (answered : (field.answer settings depth document).result = .ok answer) :
    Follows settings depth document seat old new field answer ∨
      (field.answer settings depth (document.put seat new)).result = .ok answer := by
  by_cases touches : field.Touches seat.key
  · exact .inl (swap.follows_of_touched asked.1 asked.2 touches answered)
  · rw [swap.answer_of_untouched asked.1 asked.2 touches]
    exact .inr answered

end Any

end Swap
end ContractTree
