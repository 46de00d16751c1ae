import ContractTree.Proofs.Conversion.Lists
import ContractTree.Proofs.Import.Types

namespace ContractTree

/-!
# The lists of what is imported

An import with a result has converted every list of every node item by item: each list of
the tree has one entry for each item that the document has under the key of the list, in
the same order, and an entry is missing just where the item is null and the list is one
that may have gaps.  So a null in any other list, or an item that is neither null nor an
object, lets the import fail.  When the conversion comes to such an item, the error is
that of the item, unless an identifier has been refused before.
-/

/-- The conversion of a document comes to an item of a list of a node: the node is not
nested too deeply and is asked for the list, and all items before it have become entries. -/
structure Reaches (settings : Settings) (document : Json) (depth : Nat) (owner : DocumentNode)
    (key : String) (item : Json) : Prop where
  attempted : ∃ value, DocumentNode.ofJson? value = .ok owner ∧
    .attempt depth value ∈ (journal settings 0 document).events
  shallow : settings.maxDepth.filter (· ≤ depth) = none
  asked : ∃ field ∈ owner.asked settings depth, field.listKey? = some key
  before : ∃ front back, owner.Lists key (front ++ item :: back) ∧ ∀ earlier ∈ front, ∃ found,
    ListEntry (Json.ConvertsTo settings (depth + 1)) (owner.kind.expected key)
      (owner.kind.hasGaps key) earlier found

/-- An import fails with an error, unless it has failed before: then an identifier that
occurs twice has been refused. -/
def FailsWith (settings : Settings) (document : Json) (cause : ImportError) : Prop :=
  importUnit settings document = .error cause ∨
    ∃ earlier, settings.replay [] (journal settings 0 document).events = .error earlier ∧
      importUnit settings document = .error earlier

theorem failsWith_of_journal {settings : Settings} {document : Json} {cause : ImportError}
    (failed : (journal settings 0 document).result = .error cause) :
    FailsWith settings document cause := by
  rw [FailsWith, importUnit_eq_replay, failed]
  cases replayed : settings.replay [] (journal settings 0 document).events with
  | ok after => exact .inl rfl
  | error earlier => exact .inr ⟨earlier, rfl, rfl⟩

section Items

variable {settings : Settings} {document : Json} {depth : Nat} {owner : DocumentNode}
  {key : String} {item : Json} {cause : ImportError}

/-- What a question is answered with that is asked of an attempted node is a part of the
whole conversion. -/
theorem Reaches.part_of_asked (reaches : Reaches settings document depth owner key item)
    {field : Field} (member : field ∈ owner.asked settings depth) :
    (field.answer settings (depth + 1) owner).Part (journal settings 0 document) := by
  rcases reaches.attempted with ⟨value, read, happened⟩
  exact ((Form.part_of_asked member).trans (part_fill read reaches.shallow)).trans
    (journal_part happened)

/-- An item that is no entry of its list is what the import fails with. -/
theorem Reaches.failsWith (reaches : Reaches settings document depth owner key item)
    (gapless : owner.kind.hasGaps key = false →
      (Journal.entry settings (depth + 1) owner key (owner.kind.expected key) item).result =
        .error cause)
    (gapped : owner.kind.hasGaps key = true →
      (Journal.gappedEntry settings (depth + 1) owner key (owner.kind.expected key) item).result =
        .error cause) :
    FailsWith settings document cause := by
  rcases reaches.asked with ⟨field, member, about⟩
  rcases reaches.before with ⟨front, back, stand, before⟩
  have expects : field.Expects owner.kind := (Form.asks_expected owner.kind).of_asked field member
  have gaps : field.AsksGaps owner.kind := (Form.asks_gaps owner.kind).of_asked field member
  have part := reaches.part_of_asked member
  cases field with
  | children _ category =>
    cases about
    rw [gaps] at before
    rw [← show owner.kind.expected key = category from expects] at part
    have step := (Field.part_children stand before).trans part
    exact failsWith_of_journal (step.failed cause (gapless gaps))
  | gappedChildren _ category =>
    cases about
    rw [gaps] at before
    rw [← show owner.kind.expected key = category from expects] at part
    have step := (Field.part_gappedChildren stand before).trans part
    exact failsWith_of_journal (step.failed cause (gapped gaps))
  | _ => cases about

end Items

/-! ## Lists of imported nodes -/

/-- The lists of a node of a document are what becomes of the items in the document. -/
theorem DocumentNode.fills_of_journal {settings : Settings} {depth : Nat} {value : Json}
    {owner : DocumentNode} {node : Node} (read : DocumentNode.ofJson? value = .ok owner)
    (finished : (journal settings depth value).result = .ok node) :
    ∀ list ∈ node.shape.lists,
      owner.Fills (Json.ConvertedIn settings (depth + 1) (journal settings depth value))
        (owner.listKey list.1) (owner.kind.expected list.1) (owner.kind.hasGaps list.1) list.2 := by
  rcases fill_of_journal finished with ⟨other, found, shallow, filled⟩
  cases read.symm.trans found
  have given : ∀ field ∈ owner.asked settings depth, ∀ answer,
      (field.answer settings (depth + 1) owner).result = .ok answer →
        field.ListsAs owner
          (owner.Fills (Json.ConvertedIn settings (depth + 1) (journal settings depth value)))
          answer := by
    intro field member answer answered
    have part := (Form.part_of_asked member).trans (part_fill read shallow)
    cases field with
    | children key category =>
      exact (Field.fills_of_children answered).imp fun _ _ converted => converted.of_part part
    | gappedChildren key category =>
      exact (Field.fills_of_gappedChildren answered).imp fun _ _ converted => converted.of_part part
    | holds key => exact Except.ok.inj answered
    | _ => trivial
  rcases (Form.lists_form rfl).of_asked given filled with ⟨reads, lists⟩
  exact lists

/-- The lists of an import are kept as they are in the document, and only where the grammar
has gaps may an item be null. -/
theorem lists_of_importUnit (settings : Settings) (document : Json) :
    (∀ unit, importUnit settings document = .ok unit →
      ∀ depth value, .attempt depth value ∈ importEvents settings document →
        ∃ owner node, DocumentNode.ofJson? value = .ok owner ∧ node.kind = owner.kind ∧
          value.ConvertsTo settings depth node ∧ unit.Keeps depth node ∧
          ∀ list ∈ node.shape.lists,
            owner.Fills (Json.ConvertsTo settings (depth + 1)) (owner.listKey list.1)
              (owner.kind.expected list.1) (owner.kind.hasGaps list.1) list.2) ∧
    ∀ depth owner key item, Reaches settings document depth owner key item →
      (item = .null → owner.kind.hasGaps key = false →
        FailsWith settings document (.invariantViolation owner.context (.emptyEntry key))) ∧
      (item ≠ .null → item.isObject = false →
        FailsWith settings document (.schemaViolation owner.context (.wrongType key .node))) := by
  constructor
  · intro unit imported depth value happened
    rw [importEvents_of_ok imported] at happened
    have finished := (journal_of_importUnit imported).1
    rcases replay_of_importUnit imported with ⟨after, replayed⟩
    rcases journal_attempted finished happened with ⟨below, node, level, converted, keeps⟩
    rw [Nat.zero_add] at level
    subst level
    rcases journal_account converted with ⟨owner, account⟩
    have part := journal_part happened
    refine ⟨owner, node, account.read, account.kind_eq, .of_part replayed part converted, keeps,
      fun list member => ?_⟩
    refine (DocumentNode.fills_of_journal account.read converted list member).imp ?_
    exact fun item child inside => .of_part replayed (inside.part.trans part) inside.finished
  · intro depth owner key item reaches
    constructor
    · rintro rfl gapless
      refine reaches.failsWith (fun _ => Journal.entry_of_null) fun gapped => ?_
      cases gapless.symm.trans gapped
    · intro present noObject
      exact reaches.failsWith (fun _ => Journal.entry_of_not_object present noObject)
        fun _ => Journal.gappedEntry_of_not_object present noObject

/-! ## A tuple with a gap -/

def gappedTuple : Json :=
  .obj [("nodeType", .str "TupleExpression"), ("id", .int 2), ("src", .str "1:4"),
    ("components", .arr [.null,
      .obj [("nodeType", .str "Identifier"), ("id", .int 3), ("src", .str "2:3"),
        ("name", .str "x")]])]

def gappedTupleTree : Node :=
  ⟨2, ⟨"a.sol", ⟨1, 4⟩⟩, .expression (.tuple
    [none, some ⟨3, ⟨"a.sol", ⟨2, 3⟩⟩, .expression (.identifier "x")⟩] false)⟩

/-- A source unit with a tuple and some more items among its members. -/
def tupleUnit (more : List Json) : DocumentNode where
  members := [("nodeType", .str "SourceUnit"), ("id", .int 1), ("src", .str "0:9"),
    ("nodes", .arr (gappedTuple :: more))]
  kind := .sourceUnit
  tagKey := .nodeType

def tupleUnitTree : Node :=
  ⟨1, ⟨"a.sol", ⟨0, 9⟩⟩, .declaration (.sourceUnit none [gappedTupleTree])⟩

theorem convertsTo_gappedTuple : gappedTuple.ConvertsTo unitSettings 1 gappedTupleTree :=
  ⟨[], [], by decide +kernel⟩

/-- The conversion comes to what stands right after the tuple. -/
theorem reaches_tupleUnit {item : Json}
    (asked : .children "nodes" .anyNode ∈ (tupleUnit [item]).asked unitSettings 0) :
    Reaches unitSettings (tupleUnit [item]).toJson 0 (tupleUnit [item]) "nodes" item where
  attempted := ⟨_, rfl, attempt_mem_journal ..⟩
  shallow := rfl
  asked := ⟨.children "nodes" .anyNode, asked, rfl⟩
  before := by
    refine ⟨[gappedTuple], [], .inr rfl, fun earlier member => ?_⟩
    cases List.mem_singleton.1 member
    exact ⟨some gappedTupleTree, .node rfl convertsTo_gappedTuple rfl⟩

/-- The gap of a tuple is kept, and after the tuple neither a null nor a flag is a node. -/
theorem lists_tupleUnit :
    (∃ owner, DocumentNode.ofJson? gappedTuple = .ok owner ∧
      tupleUnitTree.Keeps 1 gappedTupleTree ∧
      owner.Fills (Json.ConvertsTo unitSettings 2) "components" .expression true
        [none, some ⟨3, ⟨"a.sol", ⟨2, 3⟩⟩, .expression (.identifier "x")⟩]) ∧
    FailsWith unitSettings (tupleUnit [.null]).toJson
      (.invariantViolation ⟨some .sourceUnit, some 1⟩ (.emptyEntry "nodes")) ∧
    FailsWith unitSettings (tupleUnit [.bool true]).toJson
      (.schemaViolation ⟨some .sourceUnit, some 1⟩ (.wrongType "nodes" .node)) := by
  refine ⟨?_, ?_, ?_⟩
  · have imported : importUnit unitSettings (tupleUnit []).toJson = .ok tupleUnitTree := by
      decide +kernel
    have happened : .attempt 1 gappedTuple ∈ importEvents unitSettings (tupleUnit []).toJson :=
      attempt_mem_importEvents imported rfl (List.mem_singleton_self _)
    rcases (lists_of_importUnit unitSettings _).1 _ imported 1 gappedTuple happened with
      ⟨owner, node, read, _, converts, keeps, lists⟩
    have same : node = gappedTupleTree :=
      Except.ok.inj (converts.finished.symm.trans convertsTo_gappedTuple.finished)
    subst same
    cases read
    exact ⟨_, rfl, keeps, lists _ (List.mem_singleton_self _)⟩
  · have reaches : Reaches unitSettings _ 0 (tupleUnit [.null]) "nodes" .null :=
      reaches_tupleUnit (by decide +kernel)
    exact ((lists_of_importUnit _ _).2 0 _ _ _ reaches).1 rfl rfl
  · have reaches : Reaches unitSettings _ 0 (tupleUnit [.bool true]) "nodes" (.bool true) :=
      reaches_tupleUnit (by decide +kernel)
    exact ((lists_of_importUnit _ _).2 0 _ _ _ reaches).2 (fun same => nomatch same) rfl

end ContractTree
