import ContractTree.Form.Kind
import ContractTree.Proofs.Document.References
import ContractTree.Proofs.Form.Leaves

namespace ContractTree

/-!
# Assembly references are decoded exactly

The references of an assembly block come out one for each entry, in order and with what the
entries say.  A block with a value among them that is no entry is refused, for what is wrong
with the first such value and with nothing else.
-/

open ExternalReference

/-- A document node for an assembly block, with all but its references in order. -/
structure DocumentNode.Assembles (document : DocumentNode) (settings : Settings) (id : NodeId)
    (location : SourceLocation) (operations : String) (items : List Json) : Prop where
  kind : document.kind = .inlineAssembly
  headed : document.Headed settings.source id location
  operations : document.scalar? settings.layout "operations" = some (.str operations)
  references : document.Lists "externalReferences" items

namespace DocumentNode.Assembles

variable {settings : Settings} {document : DocumentNode} {id : NodeId} {location : SourceLocation}
  {operations : String} {items : List Json}
  (assembles : document.Assembles settings id location operations items)

include assembles

/-- All that can go wrong with such a document node are its references. -/
theorem plan_form :
    document.kind.form.plan settings document =
      (Form.ask .references >>= fun references => Form.id >>= fun id =>
        pure (Form.execute id location (.inlineAssembly operations references)) : Form Node).plan
          settings document := by
  have text : document.readText settings.layout "operations" = .ok operations :=
    readText_of_scalar? assembles.operations
  rw [assembles.kind, NodeKind.form, Form.inlineAssembly, Form.location,
    Form.plan_ask_of_ok rfl assembles.headed.readLocation, Form.text,
    Form.plan_ask_of_ok rfl text]

theorem plan_of_ok {references : List ExternalReference}
    (read : document.readReferences settings.source = .ok references) :
    document.kind.form.plan settings document =
      .done ⟨id, location, .statement (.inlineAssembly operations references)⟩ := by
  rw [assembles.plan_form, Form.plan_ask_of_ok rfl read, Form.id,
    Form.plan_ask_of_ok rfl assembles.headed.readId]
  rfl

theorem plan_of_error {defect : Defect}
    (read : document.readReferences settings.source = .error defect) :
    document.kind.form.plan settings document = .fail (defect.on document.context) := by
  rw [assembles.plan_form, Form.plan_ask_of_error rfl read]

end DocumentNode.Assembles

/-- The form of an assembly block has a result just if all values in its list of references
are entries.  The result then has the references that the entries encode, one for each and in
their order.  Otherwise the first value that is no entry has one fault, and this is the defect
of the document node. -/
theorem references_exact {settings : Settings} {document : DocumentNode} {id : NodeId}
    {location : SourceLocation} {operations : String} {items : List Json}
    (assembles : document.Assembles settings id location operations items) :
    ((∃ made, document.kind.form.plan settings document = .done made) ↔
      ∀ item ∈ items, IsEntry item) ∧
    (∀ made, document.kind.form.plan settings document = .done made →
      ∃ references, made = ⟨id, location, .statement (.inlineAssembly operations references)⟩ ∧
        List.Forall₂ (Encodes settings.source) items references) ∧
    ∀ front item back, items = front ++ item :: back →
      (∀ earlier ∈ front, IsEntry earlier) → ¬ IsEntry item →
      ∃ defect, (∀ other, Fault item other ↔ other = defect) ∧
        document.kind.form.plan settings document = .fail (defect.on document.context) := by
  have reads : (∃ references, document.readReferences settings.source = .ok references) ↔
      ∀ item ∈ items, IsEntry item :=
    DocumentNode.exists_readReferences_iff assembles.references
  cases read : document.readReferences settings.source with
  | ok references =>
    have planned := assembles.plan_of_ok read
    have entries := reads.1 ⟨references, read⟩
    refine ⟨iff_of_true ⟨_, planned⟩ entries, fun made same => ?_, ?_⟩
    · cases same.symm.trans planned
      exact ⟨references, rfl, DocumentNode.encode_of_readReferences assembles.references read⟩
    · rintro front item back rfl _ noEntry
      exact absurd (entries item (List.mem_append_right _ (List.mem_cons_self ..))) noEntry
  | error defect =>
    have failed := assembles.plan_of_error read
    have wrong : ¬ ∀ item ∈ items, IsEntry item := by
      intro entries
      rcases reads.2 entries with ⟨references, found⟩
      cases read.symm.trans found
    refine ⟨iff_of_false (fun ⟨made, planned⟩ => ?_) wrong, fun made planned => ?_, ?_⟩
    · cases planned.symm.trans failed
    · cases planned.symm.trans failed
    · intro front item back split before noEntry
      rcases DocumentNode.readReferences_of_not_isEntry assembles.references split before noEntry
        with ⟨first, fault, refused⟩
      cases read.symm.trans refused
      refine ⟨defect, fun other => ⟨fault.unique, ?_⟩, failed⟩
      rintro rfl
      exact fault

/-! ## A block with two entries -/

/-- A document node for an assembly block, given by its references. -/
def assemblyBlock (items : List Json) : DocumentNode :=
  ⟨[("nodeType", .str "InlineAssembly"), ("id", .int 3), ("src", .str "4:20"),
    ("operations", .str "mstore(0, x)"), ("externalReferences", .arr items)],
    .inlineAssembly, .nodeType⟩

theorem assembles_assemblyBlock (items : List Json) :
    (assemblyBlock items).Assembles { source := "a.sol" } 3 ⟨"a.sol", ⟨4, 20⟩⟩ "mstore(0, x)"
      items where
  kind := rfl
  headed := by
    refine ⟨rfl, rfl, "4:20", rfl, Span.ofMarker?_eq_some_iff.1 ?_⟩
    decide +kernel
  operations := rfl
  references := .inr rfl

/-- The fields of an entry, with a flag that says nothing. -/
def widestEntry : Members :=
  [("declaration", .int (-9223372036854775808)), ("valueSize", .int 4294967295),
    ("src", .str "7:9"), ("isSlot", .bool true), ("isOffset", .null)]

def reversedEntry : Members := [("valueSize", .int 1), ("src", .str "9:7"), ("isSlot", .int 1)]

theorem fields_widestEntry : ExternalReference.Fields widestEntry where
  declaration := (Members.admits_iff rfl).2 ⟨_, rfl, by decide⟩
  valueSize := (Members.admits_iff rfl).2 ⟨_, rfl, by decide⟩
  place := (Members.admits_iff rfl).2
    ⟨_, _, _, rfl, Span.ofMarker?_eq_some_iff.1 (by decide +kernel : _ = some ⟨7, 9⟩)⟩
  isOffset := Members.admits_of_none rfl
  isSlot := (Members.admits_iff rfl).2 ⟨_, rfl⟩

theorem mismarked_reversedEntry : Mismarked reversedEntry "9:7" where
  declaration := Members.admits_of_none rfl
  valueSize := (Members.admits_iff rfl).2 ⟨_, rfl, by decide⟩
  place := rfl
  noMarker := Span.ofMarker?_eq_none_iff.1 (by decide +kernel)

def widestItem : Json := .obj [("x", .obj widestEntry)]

def reversedItem : Json := .obj [("y", .obj reversedEntry)]

/-- An entry with extreme values is decoded, and one with a reversed range is refused for it,
not for the number that it has in place of a flag. -/
theorem references_exact_block :
    (∃ reference, (assemblyBlock [widestItem]).kind.form.plan { source := "a.sol" }
          (assemblyBlock [widestItem]) =
        .done ⟨3, ⟨"a.sol", ⟨4, 20⟩⟩, .statement (.inlineAssembly "mstore(0, x)" [reference])⟩ ∧
      reference.name = "x" ∧ reference.valueSize.toNat = 4294967295) ∧
    (assemblyBlock [widestItem, reversedItem]).kind.form.plan { source := "a.sol" }
        (assemblyBlock [widestItem, reversedItem]) =
      .fail (.schemaViolation ⟨some .inlineAssembly, some 3⟩ (.invalidSourceRange "9:7")) := by
  have isEntry : ∀ item ∈ [widestItem], IsEntry item :=
    List.forall_mem_singleton.2 (isEntry_iff.2 fields_widestEntry)
  constructor
  · have known := references_exact (assembles_assemblyBlock [widestItem])
    rcases known.1.2 isEntry with ⟨made, planned⟩
    rcases known.2.1 made planned with ⟨references, rfl, encode⟩
    rcases encode with _ | ⟨⟨info, same, described⟩, _ | _⟩
    simp only [widestItem, Json.obj.injEq, List.cons.injEq, Prod.mk.injEq, and_true] at same
    rcases same with ⟨named, rfl⟩
    refine ⟨_, planned, named.symm, ?_⟩
    rcases described.valueSize with found | ⟨missing, _⟩
    · have size := Json.int.inj (Option.some.inj found)
      omega
    · cases missing
  · have noEntry : ¬ IsEntry reversedItem := fun isEntry =>
      not_mismarked_of_place (isEntry_iff.1 isEntry).place _ mismarked_reversedEntry
    rcases (references_exact (assembles_assemblyBlock [widestItem, reversedItem])).2.2
      [widestItem] reversedItem [] rfl isEntry noEntry with ⟨defect, unique, failed⟩
    rw [failed, ← (unique _).1 (.place mismarked_reversedEntry)]
    rfl

end ContractTree
