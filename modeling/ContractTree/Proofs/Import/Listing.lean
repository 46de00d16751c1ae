import ContractTree.Proofs.Conversion.Account
import ContractTree.Proofs.Document.Entries
import ContractTree.Proofs.Import.Unit
import ContractTree.Tree.Equality

namespace ContractTree

/-!
# The tree has the listing of its document

What an import returns has the nodes that the document lists, in the order in which
the document lists them, with the kinds, identifiers and spans of their entries.
Only the types of expressions are listed without being kept, and only bare names are
listed without being converted, so the nodes of the tree can be counted from the
conversions that were attempted.
-/

namespace Account

variable {settings : Settings} {depth : Nat} {value : Json} {document : DocumentNode} {node : Node}

/-- The first entry of a document is that of the node it is converted to. -/
theorem ownEntry?_eq (account : Account settings depth value document node) :
    document.ownEntry? settings = some ⟨node.summary, document.origin, true⟩ := by
  unfold DocumentNode.ownEntry?
  rw [account.id_eq, account.location_eq, Node.summary, account.kind_eq]

theorem entries_eq (account : Account settings depth value document node) :
    entries settings value =
      ⟨node.summary, document.origin, true⟩ :: (document.places settings.layout).flatMap
        (Place.entries settings node.summary) :=
  entries_of_ok account.read account.ownEntry?_eq

end Account

/-- No entry of a type that leaves no node is kept. -/
theorem Entry.filter_isKept_typeOnly (listed : List Entry) :
    (listed.map typeOnly).filter isKept = [] := by
  rw [List.filter_eq_nil_iff]
  intro entry member
  rcases List.mem_map.1 member with ⟨_, _, rfl⟩
  exact Bool.false_ne_true

/-- A conversion lists the entries that are kept, before and after. -/
theorem journal_preorder {settings : Settings} {depth : Nat} {value : Json} {node : Node}
    (finished : (journal settings depth value).result = .ok node) :
    node.preorder = ((entries settings value).filter Entry.isKept).map Entry.summary := by
  rcases journal_account finished with ⟨document, account⟩
  rw [account.entries_eq, List.filter_cons_of_pos rfl, List.map_cons, Node.preorder_eq,
    ← account.children_eq, List.flatMap_assoc, List.filter_flatMap, List.map_flatMap]
  congr 1
  refine List.flatMap_congr fun place listed => ?_
  cases place with
  | node inner =>
    have smaller := DocumentNode.height_lt_of_mem_places listed rfl
    rcases account.converts _ listed inner rfl with ⟨child, converted⟩
    rw [Place.nodes, converted]
    exact (List.flatMap_singleton ..).trans (journal_preorder converted)
  | typeOnly inner =>
    rw [Place.entries, Entry.filter_isKept_typeOnly]
    rfl
  | bareName name =>
    change [Node.bareIdentifier node.id node.location name].flatMap Node.preorder = _
    rw [List.flatMap_singleton, Node.preorder_eq]
    rfl
termination_by value.height
decreasing_by
  rw [DocumentNode.ofJson?_eq_ok account.read]
  exact smaller

/-- A conversion attempts the document nodes that are listed, each once. -/
theorem journal_attempts {settings : Settings} {depth : Nat} {value : Json} {node : Node}
    (finished : (journal settings depth value).result = .ok node) :
    (journal settings depth value).events.countP Event.isAttempt =
      (entries settings value).countP Entry.isConverted := by
  rcases journal_account finished with ⟨document, account⟩
  have own : (⟨node.summary, document.origin, true⟩ : Entry).isConverted = true := by
    rw [DocumentNode.origin]
    split <;> rfl
  have places : ((document.places settings.layout).flatMap
      (Place.events settings (depth + 1))).countP Event.isAttempt =
        ((document.places settings.layout).flatMap
          (Place.entries settings node.summary)).countP Entry.isConverted := by
    rw [List.countP_flatMap, List.countP_flatMap]
    congr 1
    refine List.map_congr_left fun place listed => ?_
    cases place with
    | node inner =>
      have smaller := DocumentNode.height_lt_of_mem_places listed rfl
      rcases account.converts _ listed inner rfl with ⟨child, converted⟩
      exact journal_attempts converted
    | typeOnly inner =>
      have smaller := DocumentNode.height_lt_of_mem_places listed rfl
      rcases account.converts _ listed inner rfl with ⟨child, converted⟩
      refine (journal_attempts converted).trans ?_
      change _ = ((entries settings inner).map Entry.typeOnly).countP _
      rw [List.countP_map]
      rfl
    | bareName name => rfl
  rw [account.events_eq, account.entries_eq, List.countP_cons_of_pos rfl, List.countP_append,
    places, List.countP_cons_of_pos own]
  rfl
termination_by value.height
decreasing_by
  all_goals
    rw [DocumentNode.ofJson?_eq_ok account.read]
    exact smaller

/-- The tree of a document is its listing, as far as it is kept.  The nodes of the
tree and the types that were not kept are together as many as the attempted
conversions and the bare names. -/
theorem listing_of_importUnit {settings : Settings} {document : Json} {unit : Node}
    (imported : importUnit settings document = .ok unit) :
    unit.preorder = ((entries settings document).filter Entry.isKept).map Entry.summary ∧
      unit.count + (entries settings document).countP (fun entry => !entry.isKept) =
        (journal settings 0 document).events.countP Event.isAttempt +
          (entries settings document).countP Entry.isBareName := by
  have finished := (journal_of_importUnit imported).1
  have listing := journal_preorder finished
  refine ⟨listing, ?_⟩
  have kept : unit.count = (entries settings document).countP Entry.isKept := by
    rw [Node.count_eq_length_preorder, listing, List.length_map, List.countP_eq_length_filter]
  rw [kept, journal_attempts finished]
  calc (entries settings document).countP Entry.isKept +
        (entries settings document).countP (fun entry => !entry.isKept)
    _ = (entries settings document).length := by
      rw [List.length_eq_countP_add_countP Entry.isKept]
      simp only [Bool.not_eq_true, Bool.decide_eq_false]
    _ = (entries settings document).countP Entry.isConverted +
        (entries settings document).countP Entry.isBareName := by
      rw [List.length_eq_countP_add_countP Entry.isBareName, Nat.add_comm]
      simp only [Bool.not_eq_true, Bool.decide_eq_false]
      rfl

/-! ## A unit with all deviations

The root has neither identifier nor range marker, a name is brought in as a text, and
an expression has its type from a node.
-/

def bareUnit : Json :=
  .obj [("nodeType", .str "SourceUnit"), ("nodes", .arr [
    .obj [("nodeType", .str "ImportDirective"), ("id", .int 2), ("src", .str "0:20"),
      ("file", .str "b.sol"), ("symbolAliases", .arr [.obj [("foreign", .str "B")]])],
    .obj [("nodeType", .str "ElementaryTypeNameExpression"), ("id", .int 3),
      ("src", .str "20:40"), ("typeName", .obj [("nodeType", .str "ElementaryTypeName"),
        ("id", .int 4), ("src", .str "20:40"), ("name", .str "uint8")])]])]

def bareUnitSettings : Settings := { source := "a.sol", rootLength := some 40 }

def bareUnitTree : Node :=
  ⟨0, ⟨"a.sol", ⟨0, 40⟩⟩, .declaration (.sourceUnit none [
    ⟨2, ⟨"a.sol", ⟨0, 20⟩⟩, .declaration (.importDirective "b.sol" ""
      [⟨Node.bareIdentifier 2 ⟨"a.sol", ⟨0, 20⟩⟩ "B", none⟩])⟩,
    ⟨3, ⟨"a.sol", ⟨20, 40⟩⟩, .expression (.elementaryTypeName (.sizedUint 8))⟩])⟩

/-- Four conversions are attempted and one name is bare, but one type is not kept. -/
theorem listing_of_bareUnit :
    importUnit bareUnitSettings bareUnit = .ok bareUnitTree ∧
      bareUnitTree.preorder = [⟨.sourceUnit, 0, ⟨0, 40⟩⟩, ⟨.importDirective, 2, ⟨0, 20⟩⟩,
        ⟨.identifier, 2, ⟨0, 20⟩⟩, ⟨.elementaryTypeNameExpression, 3, ⟨20, 40⟩⟩] ∧
      bareUnitTree.count + 1 = 4 + 1 := by
  have imported : importUnit bareUnitSettings bareUnit = .ok bareUnitTree := by
    decide +kernel
  rcases listing_of_importUnit imported with ⟨listing, counts⟩
  refine ⟨imported, listing.trans (by decide +kernel), ?_⟩
  have unkept : (entries bareUnitSettings bareUnit).countP (fun entry => !entry.isKept) = 1 := by
    decide +kernel
  have attempts : (journal bareUnitSettings 0 bareUnit).events.countP Event.isAttempt = 4 := by
    decide +kernel
  have names : (entries bareUnitSettings bareUnit).countP Entry.isBareName = 1 := by
    decide +kernel
  rw [unkept, attempts, names] at counts
  exact counts

end ContractTree
