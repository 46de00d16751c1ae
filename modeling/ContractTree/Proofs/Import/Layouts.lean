import ContractTree.Proofs.Import.Agreement
import ContractTree.Tree.Equality

namespace ContractTree

/-!
# Layouts that agree

Where no field stands in two places, the layouts agree.  A document in which each node
has a tag under `nodeType` and each of its other fields in one place may be regrouped,
all fields of a node inline or all but its tag among the attributes, and it is imported
with the same result in every layout that finds the fields there.
-/

/-- The settings with scalars looked up as in a layout. -/
def Settings.inLayout (settings : Settings) (layout : FieldLayout) : Settings :=
  { settings with layout := layout }

section Regrouped

variable (settings : Settings) (regrouping : Regrouping)

/-- The journal of a document and that of the regrouped document agree. -/
theorem journal_rearranged (depth : Nat) (value : Json)
    (separated : ∀ inner ∈ value.nodes, Members.Separated inner) :
    (journal (settings.inLayout .auto) depth value).Agrees
      (journal (settings.inLayout regrouping.layout) depth
        (value.rearranged regrouping.change)) := by
  have images : DocumentNode.ofJson? (value.rearranged regrouping.change) =
      (DocumentNode.ofJson? value).map regrouping.image :=
    Regrouping.ofJson?_rearranged separated
  cases read : DocumentNode.ofJson? value with
  | error cause =>
    rw [read] at images
    rw [journal_of_error read, journal_of_error images]
    exact ⟨rfl, rfl⟩
  | ok document =>
    rw [read] at images
    cases deep : settings.maxDepth.filter (· ≤ depth) with
    | some limit =>
      have shallow : (settings.inLayout .auto).maxDepth.filter (· ≤ depth) = some limit := deep
      have following : (settings.inLayout regrouping.layout).maxDepth.filter (· ≤ depth) =
        some limit := deep
      rw [journal_of_limit read shallow, journal_of_limit images following]
      exact ⟨rfl, rfl⟩
    | none =>
      have shallow : (settings.inLayout .auto).maxDepth.filter (· ≤ depth) = none := deep
      have following : (settings.inLayout regrouping.layout).maxDepth.filter (· ≤ depth) = none :=
        deep
      have reads : document.ReadsAs regrouping.change .auto regrouping.layout
          (regrouping.image document) := Regrouping.readsAs_image separated read
      have alike : Alike regrouping.change (settings.inLayout .auto)
          (settings.inLayout regrouping.layout) (depth + 1) document (regrouping.image document) :=
        ⟨reads, rfl, rfl,
          fun _ _ fits stands => DocumentNode.separated_below separated read fits stands,
          fun child smaller below => journal_rearranged (depth + 1) child below⟩
      have claim : (Event.completion (regrouping.image document)).claim? =
          (Event.completion document).claim? := by
        change (regrouping.image document).id?.map (fun id => (document.kind, id)) =
          document.id?.map fun id => (document.kind, id)
        rw [reads.id?_eq]
      have attempt : (Journal.note (.attempt depth value)).Agrees
          (Journal.note (.attempt depth (value.rearranged regrouping.change))) := .note rfl
      rw [journal_eq_fill read shallow, journal_eq_fill images following]
      refine attempt.bind fun _ => ?_
      refine (alike.fill (Form.asks_form document.kind)).bind fun node => ?_
      exact (Journal.Agrees.note claim).bind fun _ => .refl _
termination_by value.height
decreasing_by
  rw [DocumentNode.ofJson?_eq_ok read]
  exact smaller

/-- The root of the regrouped document is named alike in errors. -/
theorem rootContext_rearranged {document : Json}
    (separated : ∀ inner ∈ document.nodes, Members.Separated inner) :
    rootContext (document.rearranged regrouping.change) = rootContext document := by
  have images : DocumentNode.ofJson? (document.rearranged regrouping.change) =
      (DocumentNode.ofJson? document).map regrouping.image :=
    Regrouping.ofJson?_rearranged separated
  rw [rootContext, rootContext, images]
  cases read : DocumentNode.ofJson? document with
  | error cause => rfl
  | ok root =>
    have reads : root.ReadsAs regrouping.change .auto regrouping.layout (regrouping.image root) :=
      Regrouping.readsAs_image separated read
    exact reads.context_eq

/-- A document and the regrouped document are imported with one result. -/
theorem importUnit_rearranged {document : Json}
    (separated : ∀ inner ∈ document.nodes, Members.Separated inner) :
    importUnit (settings.inLayout regrouping.layout) (document.rearranged regrouping.change) =
      importUnit (settings.inLayout .auto) document := by
  have agrees := journal_rearranged settings regrouping 0 document separated
  have claims : List.filterMap Event.claim? (journal (settings.inLayout regrouping.layout) 0
      (document.rearranged regrouping.change)).events =
        List.filterMap Event.claim? (journal (settings.inLayout .auto) 0 document).events :=
    agrees.claims_eq
  have required : requireUnit (document.rearranged regrouping.change) = requireUnit document := by
    funext root
    rw [requireUnit, requireUnit, rootContext_rearranged regrouping separated]
  rw [importUnit_eq_replay, importUnit_eq_replay, Settings.replay_eq_scanClaims,
    Settings.replay_eq_scanClaims, claims, agrees.result_eq, required]
  rfl

end Regrouped

/-- Where each node has a tag under `nodeType` and each of its other fields in one
place, all layouts find the same: a document has the same result if its fields are
looked up in both places, if they are all inline and looked up there, and if all but the
tags are among the attributes and looked up there or in both places, whatever key the
tags are moved to. -/
theorem importUnit_regrouped (settings : Settings) (document : Json)
    (separated : ∀ inner ∈ document.nodes, Members.Separated inner) :
    let result := importUnit (settings.inLayout .auto) document
    importUnit (settings.inLayout .inline) (document.rearranged Members.flatten) = result ∧
    ∀ tagKey : TagKey,
      importUnit (settings.inLayout .nested) (document.rearranged (Members.gather tagKey)) =
        result ∧
      importUnit (settings.inLayout .auto) (document.rearranged (Members.gather tagKey)) =
        result := by
  have result := fun regrouping => importUnit_rearranged settings regrouping separated
  refine ⟨result .flat, fun tagKey => ⟨result (.nested tagKey), result (.either tagKey)⟩⟩

/-! ## A unit with fields in both places -/

def splitUnit : Json :=
  .obj [("nodeType", .str "SourceUnit"), ("src", .str "0:40"),
    ("attributes", .obj [("id", .int 1), ("absolutePath", .str "a.sol")]),
    ("children", .arr [
      .obj [("nodeType", .str "EnumDefinition"), ("id", .int 2), ("name", .null),
        ("attributes", .obj [("src", .str "0:20"), ("name", .str "E"), ("members", .arr [
          .obj [("nodeType", .str "EnumValue"), ("id", .int 3), ("src", .str "2:3"),
            ("attributes", .obj [("name", .str "A")])]])])]])]

def splitSettings : Settings := { rejectDuplicateIds := true, source := "a.sol" }

def splitUnitTree : Node :=
  ⟨1, ⟨"a.sol", ⟨0, 40⟩⟩, .declaration (.sourceUnit (some "a.sol") [
    ⟨2, ⟨"a.sol", ⟨0, 20⟩⟩, .declaration (.enumDefinition "E" [
      ⟨3, ⟨"a.sol", ⟨2, 3⟩⟩, .declaration (.enumValue "A")⟩])⟩])⟩

/-- Wherever its fields stand, the unit is imported as the same tree. -/
theorem importUnit_regrouped_splitUnit :
    importUnit (splitSettings.inLayout .auto) splitUnit = .ok splitUnitTree ∧
      importUnit (splitSettings.inLayout .inline) (splitUnit.rearranged Members.flatten) =
        .ok splitUnitTree ∧
      importUnit (splitSettings.inLayout .nested) (splitUnit.rearranged (Members.gather .name)) =
        .ok splitUnitTree := by
  have separated : ∀ inner ∈ splitUnit.nodes, Members.Separated inner := by decide +kernel
  have imported : importUnit (splitSettings.inLayout .auto) splitUnit = .ok splitUnitTree := by
    decide +kernel
  rcases importUnit_regrouped splitSettings splitUnit separated with ⟨inline, gathered⟩
  exact ⟨imported, inline.trans imported, (gathered .name).1.trans imported⟩

end ContractTree
