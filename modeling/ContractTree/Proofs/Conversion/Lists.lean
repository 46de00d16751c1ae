import ContractTree.Proofs.Conversion.Converted
import ContractTree.Proofs.Conversion.Parts
import ContractTree.Proofs.Document.Lookups
import ContractTree.Proofs.Document.Types
import ContractTree.Proofs.Form.Lists

namespace ContractTree

/-!
# The conversion of a list

A list of nodes is converted item by item, from its first item on.  The answer has one
entry for each item, in the order of the items: the node that the item converts to or, for
a null in a list with gaps, no node.  The first item that is neither ends the conversion,
and the error is raised on the node that holds the list.
-/

/-- What becomes of an item of a list, given what its items convert to: a node of the
category of the list, or a gap where there may be one. -/
inductive ListEntry (converts : Json → Node → Prop) (category : Category) (gaps : Bool) :
    Json → Option Node → Prop where
  | node {item : Json} {child : Node} (object : item.isObject = true)
      (converted : converts item child) (accepted : category.accepts child.kind = true) :
      ListEntry converts category gaps item (some child)
  | gap (allowed : gaps = true) : ListEntry converts category gaps .null none

namespace ListEntry

variable {converts others : Json → Node → Prop} {category : Category} {gaps : Bool}
  {item : Json} {found : Option Node}

/-- The gaps are where the nulls are. -/
theorem eq_none_iff (entry : ListEntry converts category gaps item found) :
    found = none ↔ item = .null := by
  cases entry with
  | node object converted accepted =>
    constructor
    · rintro ⟨⟩
    · rintro rfl
      cases object
  | gap allowed => exact iff_of_true rfl rfl

theorem imp (implies : ∀ item child, converts item child → others item child)
    (entry : ListEntry converts category gaps item found) :
    ListEntry others category gaps item found := by
  cases entry with
  | node object converted accepted => exact .node object (implies _ _ converted) accepted
  | gap allowed => exact .gap allowed

end ListEntry

/-- The entries of a list of a node are what becomes of the items under a key. -/
def DocumentNode.Fills (document : DocumentNode) (converts : Json → Node → Prop) (key : String)
    (category : Category) (gaps : Bool) (entries : List (Option Node)) : Prop :=
  ∃ items, document.Lists key items ∧
    List.Forall₂ (ListEntry converts category gaps) items entries

theorem DocumentNode.Fills.imp {document : DocumentNode} {converts others : Json → Node → Prop}
    {key : String} {category : Category} {gaps : Bool} {entries : List (Option Node)}
    (implies : ∀ item child, converts item child → others item child)
    (fills : document.Fills converts key category gaps entries) :
    document.Fills others key category gaps entries := by
  rcases fills with ⟨items, stand, each⟩
  exact ⟨items, stand, each.imp fun _ _ entry => entry.imp implies⟩

/-- A list has as many entries as there are items, and a gap just where an item is null. -/
theorem DocumentNode.Fills.gaps {document : DocumentNode} {converts : Json → Node → Prop}
    {key : String} {category : Category} {gaps : Bool} {entries : List (Option Node)}
    (fills : document.Fills converts key category gaps entries) :
    ∃ items, document.Lists key items ∧ entries.length = items.length ∧
      ∀ index : Nat, entries[index]? = some none ↔ items[index]? = some Json.null := by
  rcases fills with ⟨items, stand, each⟩
  refine ⟨items, stand, each.length_eq.symm, fun index => ?_⟩
  clear stand
  induction each generalizing index with
  | nil => exact iff_of_false nofun nofun
  | cons entry _ ih =>
    cases index with
    | zero =>
      rw [List.getElem?_cons_zero, List.getElem?_cons_zero, Option.some_inj, Option.some_inj]
      exact entry.eq_none_iff
    | succ index =>
      rw [List.getElem?_cons_succ, List.getElem?_cons_succ]
      exact ih index

/-- A part of a journal is the conversion of a value to a node. -/
structure Json.ConvertedIn {α : Type} (settings : Settings) (depth : Nat) (whole : Journal α)
    (value : Json) (node : Node) : Prop where
  part : (journal settings depth value).Part whole
  finished : (journal settings depth value).result = .ok node

theorem Json.ConvertedIn.of_part {α β : Type} {settings : Settings} {depth : Nat}
    {inner : Journal α} {outer : Journal β} {value : Json} {node : Node}
    (converted : value.ConvertedIn settings depth inner node) (part : inner.Part outer) :
    value.ConvertedIn settings depth outer node :=
  ⟨converted.part.trans part, converted.finished⟩

/-! ## Items -/

namespace Journal

variable {settings : Settings} {depth : Nat} {parent : DocumentNode} {key : String}
  {category : Category} {item : Json} {child : Node}

theorem converted_of_inCategory
    (finished : (inCategory settings depth parent key category item).result = .ok child) :
    item.isObject = true ∧ category.accepts child.kind = true ∧
      item.ConvertedIn settings depth (inCategory settings depth parent key category item)
        child := by
  rcases ensures_narrowed child finished with ⟨object, _, node, converted, narrowed⟩
  split at narrowed
  · next accepted =>
    cases narrowed
    refine ⟨object, accepted, ?_, converted⟩
    rw [inCategory, Journal.narrowed, if_pos object]
    exact part_bind_left ..
  · cases narrowed

theorem inCategory_of_converted (object : item.isObject = true)
    (accepted : category.accepts child.kind = true)
    (converted : (journal settings depth item).result = .ok child) :
    (inCategory settings depth parent key category item).result = .ok child := by
  rw [inCategory, narrowed, if_pos object]
  refine result_bind_eq_ok.2 ⟨child, converted, ?_⟩
  rw [if_pos accepted]
  rfl

theorem inCategory_of_not_object (noObject : item.isObject = false) :
    (inCategory settings depth parent key category item).result =
      .error ((Defect.wrongType key .node).on parent.context) := by
  rw [inCategory, narrowed, if_neg (by rw [noObject]; decide)]
  rfl

theorem ne_null_of_isObject (object : item.isObject = true) : item ≠ .null := by
  rintro rfl
  cases object

theorem entry_of_present (present : item ≠ .null) :
    entry settings depth parent key category item =
      inCategory settings depth parent key category item := by
  cases item with
  | null => exact absurd rfl present
  | _ => rfl

theorem gappedEntry_of_present (present : item ≠ .null) :
    gappedEntry settings depth parent key category item =
      inCategory settings depth parent key category item >>= fun child => pure (some child) := by
  cases item with
  | null => exact absurd rfl present
  | _ => rfl

theorem listEntry_of_entry
    (finished : (entry settings depth parent key category item).result = .ok child) :
    ListEntry (Json.ConvertedIn settings depth (entry settings depth parent key category item))
      category false item (some child) := by
  by_cases missing : item = .null
  · subst missing
    cases finished
  · rw [entry_of_present missing] at finished ⊢
    rcases converted_of_inCategory finished with ⟨object, accepted, converted⟩
    exact .node object converted accepted

theorem listEntry_of_gappedEntry {found : Option Node}
    (finished : (gappedEntry settings depth parent key category item).result = .ok found) :
    ListEntry
      (Json.ConvertedIn settings depth (gappedEntry settings depth parent key category item))
      category true item found := by
  by_cases missing : item = .null
  · subst missing
    cases finished
    exact .gap rfl
  · rw [gappedEntry_of_present missing] at finished ⊢
    rcases result_bind_eq_ok.1 finished with ⟨child, made, same⟩
    cases same
    rcases converted_of_inCategory made with ⟨object, accepted, converted⟩
    exact .node object (converted.of_part (part_bind_left ..)) accepted

theorem entry_of_listEntry {found : Option Node}
    (listed : ListEntry (Json.ConvertsTo settings depth) category false item found) :
    ∃ answer, (entry settings depth parent key category item).result = .ok answer := by
  cases listed with
  | node object converts accepted =>
    rw [entry_of_present (ne_null_of_isObject object)]
    exact ⟨_, inCategory_of_converted object accepted converts.finished⟩
  | gap allowed => cases allowed

theorem gappedEntry_of_listEntry {found : Option Node}
    (listed : ListEntry (Json.ConvertsTo settings depth) category true item found) :
    ∃ answer, (gappedEntry settings depth parent key category item).result = .ok answer := by
  cases listed with
  | @node _ child object converts accepted =>
    rw [gappedEntry_of_present (ne_null_of_isObject object)]
    refine ⟨some child, result_bind_eq_ok.2 ⟨child, ?_, rfl⟩⟩
    exact inCategory_of_converted object accepted converts.finished
  | gap allowed => exact ⟨none, rfl⟩

/-! ### Items that are no entries -/

theorem entry_of_null : (entry settings depth parent key category .null).result =
    .error ((Defect.violation (.emptyEntry key)).on parent.context) := rfl

theorem entry_of_not_object (present : item ≠ .null) (noObject : item.isObject = false) :
    (entry settings depth parent key category item).result =
      .error ((Defect.wrongType key .node).on parent.context) := by
  rw [entry_of_present present, inCategory_of_not_object noObject]

theorem gappedEntry_of_not_object (present : item ≠ .null) (noObject : item.isObject = false) :
    (gappedEntry settings depth parent key category item).result =
      .error ((Defect.wrongType key .node).on parent.context) := by
  rw [gappedEntry_of_present present, result_bind, inCategory_of_not_object noObject]
  rfl

/-! ## Lists -/

section Steps

variable {α : Type} {step : Json → Journal α} {gaps : Bool} {items : List Json}

/-- The items of a list are taken in turn. -/
theorem steps_of_lists (stand : parent.Lists key items) :
    ofChecked parent (parent.readItems key) >>= List.mapM step = items.mapM step := by
  rw [DocumentNode.readItems_eq_ok_iff.2 stand]
  exact LawfulMonad.pure_bind ..

/-- If the step for an item ends with what becomes of the item, then the steps for a list end
with what becomes of its items. -/
theorem fills_of_steps {answers : List α} {found : α → Option Node}
    (each : ∀ item answer, (step item).result = .ok answer →
      ListEntry (Json.ConvertedIn settings depth (step item)) category gaps item (found answer))
    (finished :
      (ofChecked parent (parent.readItems key) >>= List.mapM step).result = .ok answers) :
    parent.Fills
      (Json.ConvertedIn settings depth
        (ofChecked parent (parent.readItems key) >>= List.mapM step))
      key category gaps (answers.map found) := by
  rcases result_bind_eq_ok.1 finished with ⟨items, read, taken⟩
  have stand := DocumentNode.readItems_eq_ok_iff.1 (ofChecked_eq_ok read)
  rw [steps_of_lists stand]
  refine ⟨items, stand, List.forall₂_map_right_iff.2 ?_⟩
  refine (forall₂_of_mapM taken).imp fun item answer here => ?_
  exact (each item answer here.1).imp fun _ _ converted => converted.of_part here.2

/-- The steps for a list come to an item if all items before it have been taken. -/
theorem part_of_steps {front back : List Json} (stand : parent.Lists key (front ++ item :: back))
    (before : ∀ earlier ∈ front, ∃ answer, (step earlier).result = .ok answer) :
    (step item).Part (ofChecked parent (parent.readItems key) >>= List.mapM step) := by
  rw [steps_of_lists stand]
  exact part_mapM before

end Steps
end Journal

namespace Field

variable {settings : Settings} {depth : Nat} {document : DocumentNode} {key : String}
  {category : Category}

/-- The nodes of a list without gaps are what its items convert to. -/
theorem fills_of_children {nodes : List Node}
    (answered : ((children key category).answer settings depth document).result = .ok nodes) :
    document.Fills
      (Json.ConvertedIn settings depth ((children key category).answer settings depth document))
      key category false (nodes.map some) := by
  rw [answer_children] at answered ⊢
  exact Journal.fills_of_steps (fun _ _ => Journal.listEntry_of_entry) answered

/-- The entries of a list with gaps are what its items convert to. -/
theorem fills_of_gappedChildren {entries : List (Option Node)}
    (answered : ((gappedChildren key category).answer settings depth document).result =
      .ok entries) :
    document.Fills
      (Json.ConvertedIn settings depth
        ((gappedChildren key category).answer settings depth document))
      key category true entries := by
  rw [answer_gappedChildren] at answered ⊢
  rw [← List.map_id entries]
  exact Journal.fills_of_steps (fun _ _ => Journal.listEntry_of_gappedEntry) answered

section Reached

variable {item : Json} {front back : List Json} (stand : document.Lists key (front ++ item :: back))

include stand

/-- A list without gaps is converted up to its first item that is no entry. -/
theorem part_children (before : ∀ earlier ∈ front, ∃ found,
      ListEntry (Json.ConvertsTo settings depth) category false earlier found) :
    (Journal.entry settings depth document key category item).Part
      ((children key category).answer settings depth document) := by
  rw [answer_children]
  refine Journal.part_of_steps stand fun earlier member => ?_
  rcases before earlier member with ⟨found, listed⟩
  exact Journal.entry_of_listEntry listed

theorem part_gappedChildren (before : ∀ earlier ∈ front, ∃ found,
      ListEntry (Json.ConvertsTo settings depth) category true earlier found) :
    (Journal.gappedEntry settings depth document key category item).Part
      ((gappedChildren key category).answer settings depth document) := by
  rw [answer_gappedChildren]
  refine Journal.part_of_steps stand fun earlier member => ?_
  rcases before earlier member with ⟨found, listed⟩
  exact Journal.gappedEntry_of_listEntry listed

end Reached
end Field
end ContractTree
