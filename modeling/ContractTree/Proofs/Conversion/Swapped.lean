import ContractTree.Proofs.Conversion.Account
import ContractTree.Proofs.Conversion.Followed

namespace ContractTree

/-!
# Conversions with another object in a seat

If a node can be converted, the object in a seat of it has been asked for and was
admitted.  With another object in the seat the conversion fails if that object is not
admitted, for the same reason, and otherwise the node has the node of that object in
place of the old one: from the answers on the form cannot tell the difference.
-/

/-- Where each item of a list gives one result, a result changes with its item. -/
theorem flatMap_of_singletons {α β : Type} {give : α → List β} {items : List α}
    (single : ∀ item ∈ items, ∃ result, give item = [result]) {index : Nat} {item : α} {result : β}
    (found : items[index]? = some item) (here : give item = [result]) :
    (items.flatMap give)[index]? = some result ∧ ∀ other changed, give other = [changed] →
      (items.set index other).flatMap give = (items.flatMap give).set index changed := by
  induction items generalizing index with
  | nil => cases found
  | cons first rest ih =>
    rcases single first (List.mem_cons_self ..) with ⟨given, one⟩
    cases index with
    | zero =>
      cases found
      rw [List.flatMap_cons, here]
      refine ⟨rfl, fun other changed gives => ?_⟩
      rw [List.set_cons_zero, List.flatMap_cons, gives]
      rfl
    | succ index =>
      rcases ih (fun later member => single later (List.mem_cons_of_mem _ member)) found with
        ⟨stands, changes⟩
      rw [List.flatMap_cons, one]
      refine ⟨stands, fun other changed gives => ?_⟩
      rw [List.set_cons_succ, List.flatMap_cons, one, changes other changed gives]
      rfl

/-- Each place of a node that has been converted gives it one child, unless only a type is
kept. -/
theorem Account.single {settings : Settings} {depth : Nat} {value : Json}
    {document : DocumentNode} {node : Node} (account : Account settings depth value document node)
    (other : document.kind ≠ .elementaryTypeNameExpression) (id : NodeId)
    (location : SourceLocation) {place : Place} (listed : place ∈ document.places settings.layout) :
    ∃ child, place.nodes settings (depth + 1) id location = [child] := by
  cases place with
  | node inner =>
    rcases account.converts _ listed inner rfl with ⟨child, converted⟩
    refine ⟨child, ?_⟩
    rw [Place.nodes, converted]
    rfl
  | typeOnly inner => exact absurd (DocumentNode.stands_of_typeOnly listed).1 other
  | bareName name => exact ⟨_, rfl⟩

namespace Swap

variable {settings : Settings} {document : DocumentNode} {place : Place} {old new : Json}

section Any

variable {seat : Seat} (swap : Swap settings.layout document seat place old new)

include swap

/-- The node with the new value in the seat, as a swap of its own. -/
theorem swapped (other : Json) (object : other.isObject = true) :
    Swap settings.layout (document.put seat new) seat (place.put new) new other where
  listed := by
    rw [swap.sites_put]
    exact List.mem_map.2 ⟨_, swap.listed, if_pos rfl⟩
  stands := by
    have stands := swap.stands
    cases place with
    | node value => rfl
    | typeOnly value => rfl
    | bareName name => cases stands
  wasObject := swap.isObject
  isObject := object

theorem outcome_put (level : Nat) (value : Json) :
    seat.outcome settings level (document.put seat new) value =
      seat.outcome settings level document value := by
  rw [Seat.outcome, Journal.inCategory_congr swap.context_put]
  rfl

variable {level : Nat} {value : Json} {node : Node}
  (read : DocumentNode.ofJson? value = .ok document)

include read

theorem journal_put (shallow : settings.maxDepth.filter (· ≤ level) = none) :
    (journal settings level (document.put seat new).toJson).result =
      (document.kind.form.fill (document.put seat new)
        (Field.answer settings (level + 1) (document.put seat new))).result :=
  journal_result_eq_fill (swap.editable.ofJson?_edited read) shallow

/-- What stands in the seat of a node that can be converted has been converted. -/
theorem converted_of_journal_put
    (finished : (journal settings level (document.put seat new).toJson).result = .ok node) :
    ∃ child, (journal settings (level + 1) new).result = .ok child := by
  rcases journal_account finished with ⟨image, account⟩
  have readPut : DocumentNode.ofJson? (document.put seat new).toJson =
      .ok (document.put seat new) := swap.editable.ofJson?_edited read
  cases readPut.symm.trans account.read
  have swapped := swap.swapped new swap.isObject
  exact account.converts (place.put new) swapped.mem_places new swapped.stands

variable (finished : (journal settings level value).result = .ok node)

include finished

/-- What stands in the seat of a node that can be converted is admitted there: if nothing
asked for it, the node could be converted with anything in the seat, but then what is
there would have been converted as well. -/
theorem admitted : ∃ child, seat.outcome settings (level + 1) document old = .ok child := by
  rcases fill_of_journal finished with ⟨other, readAgain, shallow, filled⟩
  cases read.symm.trans readAgain
  by_contra refused
  have emptied : Swap settings.layout document seat place old (.obj []) :=
    ⟨swap.listed, swap.stands, swap.wasObject, rfl⟩
  have answered : ∀ field : Field, Asked document field → ∀ answer,
      (field.answer settings (level + 1) document).result = .ok answer →
        (∃ other, (field.answer settings (level + 1) (document.put seat (.obj []))).result =
          .ok other ∧ answer = other) ∨ ∃ cause, False ∧
          (field.answer settings (level + 1) (document.put seat (.obj []))).result =
            .error cause := by
    intro field asked answer given
    rcases emptied.answer_of_asked asked given with ⟨admitted, _⟩ | same
    · exact absurd admitted refused
    · exact .inl ⟨answer, same, rfl⟩
  have parallel := Form.parallel_refl (fun _ _ _ same => same) document.kind.form
  rcases Form.Parallel.of_fill (document.put seat (.obj [])) answered parallel
    (asks_asked document) filled with ⟨made, filledToo, _⟩ | ⟨_, impossible, _⟩
  · have finishedToo := (emptied.journal_put read shallow).trans filledToo
    rcases emptied.converted_of_journal_put read finishedToo with ⟨child, converted⟩
    rw [journal_of_error rfl] at converted
    cases converted
  · exact impossible

/-- If the new value is not admitted, the conversion fails for this reason. -/
theorem journal_put_of_error {cause : ImportError}
    (refused : seat.outcome settings (level + 1) document new = .error cause) :
    (journal settings level (document.put seat new).toJson).result = .error cause := by
  rcases fill_of_journal finished with ⟨other, readAgain, shallow, filled⟩
  cases read.symm.trans readAgain
  have answered : ∀ field : Field, Asked document field → ∀ answer,
      (field.answer settings (level + 1) document).result = .ok answer →
        (∃ other, (field.answer settings (level + 1) (document.put seat new)).result =
          .ok other ∧ answer = other) ∨ ∃ other, other = cause ∧
          (field.answer settings (level + 1) (document.put seat new)).result = .error other := by
    intro field asked answer given
    rcases swap.answer_of_asked asked given with ⟨_, put, _, after⟩ | same
    · refine .inr ⟨cause, rfl, ?_⟩
      rw [after, refused]
      rfl
    · exact .inl ⟨answer, same, rfl⟩
  have parallel := Form.parallel_refl (fun _ _ _ same => same) document.kind.form
  have put := swap.journal_put read shallow
  rcases Form.Parallel.of_fill (document.put seat new) answered parallel
    (asks_asked document) filled with ⟨made, filledToo, _⟩ | ⟨other, rfl, failed⟩
  · have readPut := swap.editable.ofJson?_edited read
    rcases (swap.swapped new swap.isObject).admitted readPut (put.trans filledToo) with
      ⟨child, admitted⟩
    rw [swap.outcome_put, refused] at admitted
    cases admitted
  · exact put.trans failed

/-- If the new value is admitted, the conversion ends with a node that differs in its
children only. -/
theorem journal_put_of_ok (other : document.kind ≠ .elementaryTypeNameExpression) {child : Node}
    (admitted : seat.outcome settings (level + 1) document new = .ok child) :
    ∃ after, (journal settings level (document.put seat new).toJson).result = .ok after ∧
      node.Parallel after := by
  rcases fill_of_journal finished with ⟨again, readAgain, shallow, filled⟩
  cases read.symm.trans readAgain
  have answered : ∀ field : Field, Asked document field → ∀ answer,
      (field.answer settings (level + 1) document).result = .ok answer →
        (∃ other, (field.answer settings (level + 1) (document.put seat new)).result =
          .ok other ∧ field.Parallel answer other) ∨ ∃ cause, False ∧
          (field.answer settings (level + 1) (document.put seat new)).result = .error cause := by
    intro field asked answer given
    rcases swap.answer_of_asked asked given with ⟨_, put, parallel, after⟩ | same
    · refine .inl ⟨put child, ?_, parallel child⟩
      rw [after, admitted]
      rfl
    · exact .inl ⟨answer, same, field.parallel_self answer⟩
  rcases Form.Parallel.of_fill (document.put seat new) answered
    (Form.parallel_form other) (asks_asked document) filled with
      ⟨made, filledToo, parallel⟩ | ⟨_, impossible, _⟩
  · exact ⟨made, (swap.journal_put read shallow).trans filledToo, parallel⟩
  · exact impossible.elim

/-- The child of the new value stands where that of the old one stood. -/
theorem children_put (other : document.kind ≠ .elementaryTypeNameExpression) {index : Nat}
    (found : (document.sites settings.layout)[index]? = some ⟨seat, place⟩) {after was made : Node}
    (finishedPut : (journal settings level (document.put seat new).toJson).result = .ok after)
    (parallel : node.Parallel after)
    (convertedOld : (journal settings (level + 1) old).result = .ok was)
    (converted : (journal settings (level + 1) new).result = .ok made) :
    node.children[index]? = some was ∧ after.children = node.children.set index made := by
  rcases journal_account finished with ⟨found', account⟩
  cases read.symm.trans account.read
  rcases journal_account finishedPut with ⟨image, accountPut⟩
  cases (swap.editable.ofJson?_edited read :
    DocumentNode.ofJson? (document.put seat new).toJson = .ok (document.put seat new)).symm.trans
      accountPut.read
  have stands := swap.stands
  have node_eq : place = .node old := by
    cases place with
    | node value =>
      cases stands
      rfl
    | typeOnly value => exact absurd (DocumentNode.stands_of_typeOnly swap.mem_places).1 other
    | bareName name => cases stands
  subst node_eq
  have place : (document.places settings.layout)[index]? = some (.node old) := by
    rw [← DocumentNode.place_sites, List.getElem?_map, found]
    rfl
  have gave : (Place.node old).nodes settings (level + 1) node.id node.location = [was] := by
    rw [Place.nodes, convertedOld]
    rfl
  have gives : (Place.node new).nodes settings (level + 1) node.id node.location = [made] := by
    rw [Place.nodes, converted]
    rfl
  rcases flatMap_of_singletons (fun _ listed => account.single other _ _ listed) place gave with
    ⟨child, changes⟩
  rw [account.children_eq] at child changes
  refine ⟨child, ?_⟩
  rw [← changes _ _ gives, ← accountPut.children_eq, parallel.id_eq, parallel.location_eq]
  exact congrArg (List.flatMap _) (swap.places_put found)

end Any

/-- Only elementary type names are admitted to a seat for these. -/
theorem elementaryType_of_outcome {seat : Seat} {level : Nat} {value : Json} {node : Node}
    (expects : document.kind.expected seat.key = .elementaryTypeName)
    (admitted : seat.outcome settings level document value = .ok node) :
    ∃ type, node.elementaryType? = some type := by
  rcases Journal.ensures_inCategory node admitted with ⟨⟨_, accepted⟩, _⟩
  rw [expects, ← Node.elementaryType?_isSome] at accepted
  exact Option.isSome_iff_exists.1 accepted

section Kept

variable {level : Nat} {value : Json} {node child : Node}
  (swap : Swap settings.layout document (.field "typeName") place old new)
  (kind : document.kind = .elementaryTypeNameExpression)
  (read : DocumentNode.ofJson? value = .ok document)
  (finished : (journal settings level value).result = .ok node)

include swap kind read finished

/-- If the new type name is admitted to an expression, its type is kept instead. -/
theorem journal_put_of_type {was child : Node}
    (admittedOld : (Seat.field "typeName").outcome settings (level + 1) document old = .ok was)
    (admitted : (Seat.field "typeName").outcome settings (level + 1) document new = .ok child) :
    ∃ id location before after, was.elementaryType? = some before ∧
      child.elementaryType? = some after ∧
      node = Form.express id location (.elementaryTypeName before) ∧
      (journal settings level (document.put (.field "typeName") new).toJson).result =
        .ok (Form.express id location (.elementaryTypeName after)) := by
  have expects : document.kind.expected "typeName" = .elementaryTypeName := by
    rw [kind]
    decide
  rcases fill_of_journal finished with ⟨other, readAgain, shallow, filled⟩
  cases read.symm.trans readAgain
  rcases elementaryType_of_outcome expects admittedOld with ⟨before, typeOld⟩
  rcases elementaryType_of_outcome expects admitted with ⟨after, typeNew⟩
  have answered : ∀ field : Field, field ∈ [.location, .holdsObject "typeName",
      .elementaryChild "typeName", .typeText, .id] → ∀ answer,
        (field.answer settings (level + 1) document).result = .ok answer →
          (∃ other, (field.answer settings (level + 1)
            (document.put (.field "typeName") new)).result = .ok other ∧
              field.Retyped before after answer other) ∨ ∃ cause, False ∧
          (field.answer settings (level + 1) (document.put (.field "typeName") new)).result =
            .error cause := by
    intro field member answer given
    have same : ∀ field : Field, field.Fits document.kind → field.Expects document.kind →
        ¬ field.Touches "typeName" → ∀ answer,
          (field.answer settings (level + 1) document).result = .ok answer →
            (field.answer settings (level + 1) (document.put (.field "typeName") new)).result =
              .ok answer := by
      intro field fits expects untouched answer given
      rw [swap.answer_of_untouched fits expects untouched]
      exact given
    simp only [List.mem_cons, List.not_mem_nil, or_false] at member
    rcases member with rfl | rfl | rfl | rfl | rfl
    · exact .inl ⟨answer, same .location trivial trivial not_false answer given, rfl⟩
    · have before : (document.structural? "typeName").any Json.isObject = true := by
        rw [swap.structural?_field]
        exact swap.wasObject
      have after : ((document.put (.field "typeName") new).structural? "typeName").any
          Json.isObject = true := by
        rw [swap.structural?_put_field]
        exact swap.isObject
      refine .inl ⟨true, congrArg Except.ok after, ?_, rfl⟩
      exact (Except.ok.inj given).symm.trans before
    · rcases swap.answer_elementaryChild_put expects given with ⟨⟨found, foundAdmitted, type⟩, rest⟩
      cases admittedOld.symm.trans foundAdmitted
      rw [admitted] at rest
      refine .inl ⟨_, rest, ?_, ?_⟩
      · exact Option.some.inj (type.symm.trans typeOld)
      · change child.elementaryType?.getD answer = after
        rw [typeNew]
        rfl
    · exact .inl ⟨answer, same .typeText trivial kind not_false answer given, rfl⟩
    · exact .inl ⟨answer, same .id trivial trivial not_false answer given, rfl⟩
  have filledType : (Form.elementaryTypeNameExpression.fill document
      (Field.answer settings (level + 1) document)).result = .ok node := by
    rw [kind] at filled
    exact filled
  rcases Form.Parallel.of_fill (document.put (.field "typeName") new) answered
    (Form.parallel_elementaryTypeNameExpression before after)
    Form.asks_elementaryTypeNameExpression filledType with
      ⟨made, filledToo, id, location, rfl, rfl⟩ | ⟨_, impossible, _⟩
  · refine ⟨id, location, before, after, typeOld, typeNew, rfl, ?_⟩
    rw [swap.journal_put read shallow, kind]
    exact filledToo
  · exact impossible.elim

end Kept

end Swap
end ContractTree
