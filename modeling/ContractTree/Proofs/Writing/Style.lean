import ContractTree.Proofs.Document.Tags
import ContractTree.Proofs.Tree.Fold
import ContractTree.Proofs.Writing.Fields

namespace ContractTree

/-!
# Styles of documents

A document has the fields of a node on the object of the node, beside its tag, or
grouped in an object under the key `attributes`.  The scalars may be grouped with the
children or without them, and the identifier and the range marker stand beside the tag
in any case.  A style says where the fields are and which key has the tag.

A style can be read in the layout that asks where its scalars are, and in the layout
that asks in both places.  What is then found under a key is the same in all styles.
-/

/-- Where fields stand. -/
inductive Placement where
  | beside
  | grouped
  deriving DecidableEq, Repr

/-- Where a document has its tags and fields. -/
structure Style where
  tagKey : TagKey
  scalars : Placement
  children : Placement
  /-- The other keys of tags are keys of scalars too. -/
  unambiguous : scalars = .beside → tagKey = .nodeType

namespace Style

/-- All fields beside the tag. -/
def inline : Style := ⟨.nodeType, .beside, .beside, fun _ => rfl⟩

/-- All fields under `attributes`. -/
def nested (tagKey : TagKey) : Style := ⟨tagKey, .grouped, .grouped, fun beside => nomatch beside⟩

/-- The scalars under `attributes`, and the children beside the tag. -/
def split (tagKey : TagKey) : Style := ⟨tagKey, .grouped, .beside, fun beside => nomatch beside⟩

/-- The layouts in which a style can be read. -/
def ReadBy (style : Style) (layout : FieldLayout) : Prop :=
  (style.scalars = .beside → layout ≠ .nested) ∧ (style.scalars = .grouped → layout ≠ .inline)

instance (style : Style) (layout : FieldLayout) : Decidable (style.ReadBy layout) :=
  inferInstanceAs (Decidable (_ ∧ _))

/-- The fields that stand in a place. -/
def placed (style : Style) (placement : Placement) (shape : Shape Json) : Fields :=
  (if style.scalars = placement then shape.scalars else []) ++
    if style.children = placement then shape.childFields else []

/-- The object under `attributes`, if fields are grouped. -/
def group (style : Style) (shape : Shape Json) : Option Json :=
  if style.scalars = .grouped ∨ style.children = .grouped then
    some (.obj (style.placed .grouped shape).members)
  else none

/-- The document node of a node whose children have been written. -/
def document (style : Style) (id : NodeId) (location : SourceLocation) (shape : Shape Json) :
    DocumentNode where
  members := Fields.members ([(style.tagKey.text, some (.str shape.kind.tag)),
    ("id", some (.int id.toInt)), ("src", some (.str location.span.text))] ++
      (style.placed .beside shape ++ [("attributes", style.group shape)]))
  kind := shape.kind
  tagKey := style.tagKey

/-- A tree as a document in a style. -/
def write (style : Style) (tree : Node) : Json :=
  tree.fold fun id location shape => (style.document id location shape).toJson

/-- The document node that a node is written as. -/
def documentOf (style : Style) (node : Node) : DocumentNode :=
  style.document node.id node.location (node.shape.map style.write)

theorem write_eq (style : Style) (node : Node) :
    style.write node = (style.documentOf node).toJson :=
  Node.fold_eq ..

example : inline.write ⟨4, ⟨"a.sol", ⟨2, 7⟩⟩, .typeName (.elementary (.sizedUint 8))⟩ =
    .obj [("nodeType", .str "ElementaryTypeName"), ("id", .int 4), ("src", .str "2:7"),
      ("name", .str "uint8")] := by
  cbv

example : (nested .name).write ⟨4, ⟨"a.sol", ⟨2, 7⟩⟩, .typeName (.elementary (.sizedUint 8))⟩ =
    .obj [("name", .str "ElementaryTypeName"), ("id", .int 4), ("src", .str "2:7"),
      ("attributes", .obj [("name", .str "uint8")])] := by
  cbv

theorem kind_documentOf (style : Style) (node : Node) :
    (style.documentOf node).kind = node.kind :=
  node.shape.kind_map style.write

variable {style : Style} {id : NodeId} {location : SourceLocation} {shape : Shape Json}

/-! ## What stands where -/

theorem ne_own {key : String} (free : key ∉ reserved) :
    key ≠ "id" ∧ key ≠ "src" ∧ key ≠ "attributes" := by
  simp only [reserved, List.mem_cons, List.not_mem_nil, or_false, not_or] at free
  exact free.2

theorem ne_tagKey {key : String} (free : key ∉ reserved) (noTag : key ≠ "name" ∧ key ≠ "kind") :
    key ≠ style.tagKey.text := by
  cases style.tagKey with
  | nodeType =>
    rintro rfl
    exact free (by decide)
  | name => exact noTag.1
  | kind => exact noTag.2

theorem placed_scalar {placement : Placement} {key : String}
    (noChild : key ∉ shape.childFields.keys) : (style.placed placement shape).members.find? key =
      if style.scalars = placement then shape.scalars.members.find? key else none := by
  rw [placed, Fields.find?_append]
  have nothing : (Fields.members (if style.children = placement then shape.childFields
      else [])).find? key = none := by
    split
    · exact Fields.find?_of_not_mem noChild
    · rfl
  rw [nothing, Option.or_none]
  split <;> rfl

theorem placed_child {placement : Placement} {key : String}
    (noScalar : key ∉ shape.scalars.keys) : (style.placed placement shape).members.find? key =
      if style.children = placement then shape.childFields.members.find? key else none := by
  rw [placed, Fields.find?_append]
  have nothing : (Fields.members (if style.scalars = placement then shape.scalars
      else [])).find? key = none := by
    split
    · exact Fields.find?_of_not_mem noScalar
    · rfl
  rw [nothing, Option.none_or]
  split <;> rfl

theorem placed_missing {placement : Placement} {key : String}
    (noScalar : key ∉ shape.scalars.keys) (noChild : key ∉ shape.childFields.keys) :
    (style.placed placement shape).members.find? key = none := by
  rw [placed_scalar noChild, Fields.find?_of_not_mem noScalar, ite_self]

/-- No key that is reserved has a field. -/
theorem placed_reserved {placement : Placement} {key : String} (member : key ∈ reserved) :
    (style.placed placement shape).members.find? key = none := by
  have missing : key ∉ shape.keys := fun inside => Shape.not_mem_reserved inside member
  rw [Shape.keys, ← shape.keys_childFields, List.mem_append, not_or] at missing
  exact placed_missing missing.1 missing.2

/-- Beside the tag stands what is placed there. -/
theorem own?_document {key : String} (free : key ≠ "id" ∧ key ≠ "src" ∧ key ≠ "attributes")
    (noTag : key ≠ style.tagKey.text) : (style.document id location shape).own? key =
      (style.placed .beside shape).members.find? key := by
  have before : (Fields.members [(style.tagKey.text, some (.str shape.kind.tag)),
      ("id", some (.int id.toInt)), ("src", some (.str location.span.text))]).find? key = none :=
    Fields.find?_of_not_mem (by simp [Fields.keys, noTag, free])
  have behind : (Fields.members [("attributes", style.group shape)]).find? key = none :=
    Fields.find?_of_not_mem (by simp [Fields.keys, free])
  rw [DocumentNode.own?, document, Fields.find?_append, Fields.find?_append, before, behind,
    Option.none_or, Option.or_none]

/-- The attributes of an object are the fields that are grouped. -/
theorem attributes_document :
    (style.document id location shape).attributes = (style.placed .grouped shape).members := by
  have noTag : "attributes" ≠ style.tagKey.text := by cases style.tagKey <;> decide
  have found : (style.document id location shape).members.find? "attributes" =
      style.group shape := by
    rw [document, Fields.find?_append, Fields.find?_append, Fields.find?_of_not_mem,
      Option.none_or, placed_reserved (by decide), Option.none_or, group]
    · split <;> rfl
    · simp [Fields.keys, noTag]
  rw [DocumentNode.attributes, Members.attributes, found, group]
  split
  · rfl
  · next alone =>
    rw [not_or] at alone
    rw [placed, if_neg alone.1, if_neg alone.2]
    rfl

theorem nested?_document {key : String} : (style.document id location shape).nested? key =
    (style.placed .grouped shape).members.find? key := by
  rw [DocumentNode.nested?, attributes_document]

/-! ## Tags -/

theorem string?_tagKey (style : Style) (id : NodeId) (location : SourceLocation)
    (shape : Shape Json) : style.tagKey.string? (style.document id location shape).members =
    some shape.kind.tag := by
  have tagged : (style.document id location shape).members.find? style.tagKey.text =
      some (.str shape.kind.tag) := if_pos ⟨rfl, rfl⟩
  rw [TagKey.string?, tagged]
  rfl

theorem string?_nodeType (other : style.tagKey ≠ .nodeType) :
    TagKey.string? (style.document id location shape).members .nodeType = none := by
  have noTag : "nodeType" ≠ style.tagKey.text := by
    cases key : style.tagKey with
    | nodeType => exact absurd key other
    | name => decide
    | kind => decide
  have missing : (style.document id location shape).own? "nodeType" = none := by
    rw [own?_document (by decide) noTag, placed_reserved (by decide)]
  exact congrArg (Option.bind · Json.asString?) missing

/-- If `kind` has the tag, then no name stands beside it. -/
theorem string?_name (key : style.tagKey = .kind) :
    TagKey.string? (style.document id location shape).members .name = none := by
  have noChild : "name" ∉ shape.childFields.keys := by
    rw [shape.keys_childFields]
    exact fun member => (Shape.key_ne_of_mem_parts member).1 rfl
  have notBeside : style.scalars ≠ .beside := by
    intro beside
    rw [style.unambiguous beside] at key
    cases key
  have missing : (style.document id location shape).own? "name" = none := by
    rw [own?_document (by decide) (by rw [key]; decide), placed_scalar noChild, if_neg notBeside]
  exact congrArg (Option.bind · Json.asString?) missing

/-- A tag under any of its keys is found, since nothing stands under the keys that
are asked before. -/
theorem resolve_document : TagKey.resolve (style.document id location shape).members =
    .ok (shape.kind, style.tagKey) := by
  have tagged := style.string?_tagKey id location shape
  rw [TagKey.string?_eq_some_iff] at tagged
  rw [TagKey.resolve_eq_iff]
  have silent (other : style.tagKey ≠ .nodeType) :
      TagKey.Silent .nodeType (style.document id location shape).members :=
    TagKey.string?_eq_none_iff.1 (string?_nodeType other)
  cases key : style.tagKey with
  | nodeType =>
    rw [key] at tagged
    exact .nodeType tagged
  | name =>
    rw [key] at tagged
    exact .name (silent (by simp [key])) tagged
  | kind =>
    have nameless : TagKey.Silent .name (style.document id location shape).members :=
      TagKey.string?_eq_none_iff.1 (string?_name key)
    rw [key] at tagged
    exact .kind (silent (by simp [key])) nameless.namesNoKind tagged

theorem ofJson?_document : DocumentNode.ofJson? (style.document id location shape).toJson =
    .ok (style.document id location shape) := by
  rw [DocumentNode.toJson, DocumentNode.ofJson?, resolve_document]
  rfl

theorem ofJson?_write (node : Node) :
    DocumentNode.ofJson? (style.write node) = .ok (style.documentOf node) := by
  rw [write_eq]
  exact ofJson?_document

/-- A child, or a list that may stand in both places, is found wherever it was placed. -/
theorem structural?_scalar {key : String} (free : key ∉ reserved)
    (noTag : key ≠ "name" ∧ key ≠ "kind") (noChild : key ∉ shape.childFields.keys) :
    (style.document id location shape).structural? key = shape.scalars.members.find? key := by
  rw [DocumentNode.structural?, own?_document (ne_own free) (ne_tagKey free noTag),
    nested?_document, placed_scalar noChild, placed_scalar noChild]
  cases style.scalars with
  | beside => exact Option.or_none
  | grouped => exact Option.none_or

theorem structural?_child {key : String} (free : key ∉ reserved)
    (noTag : key ≠ "name" ∧ key ≠ "kind") (noScalar : key ∉ shape.scalars.keys) :
    (style.document id location shape).structural? key = shape.childFields.members.find? key := by
  rw [DocumentNode.structural?, own?_document (ne_own free) (ne_tagKey free noTag),
    nested?_document, placed_child noScalar, placed_child noScalar]
  cases style.children with
  | beside => exact Option.or_none
  | grouped => exact Option.none_or

/-- A scalar is found where the layout asks, also if it has the key of the tag. -/
theorem scalar?_document {layout : FieldLayout} (reads : style.ReadBy layout) {key : String}
    (free : key ∉ reserved) (noChild : key ∉ shape.childFields.keys) :
    (style.document id location shape).scalar? layout key = shape.scalars.members.find? key := by
  cases stands : style.scalars with
  | beside =>
    have noTag : key ≠ style.tagKey.text := by
      rw [style.unambiguous stands]
      rintro rfl
      exact free (by decide)
    have found : (style.document id location shape).inline? key =
        shape.scalars.members.find? key := by
      refine (if_neg noTag).trans ?_
      rw [own?_document (ne_own free) noTag, placed_scalar noChild, if_pos stands]
    have nothing : (style.document id location shape).nested? key = none := by
      rw [nested?_document, placed_scalar noChild, stands]
      rfl
    cases layout with
    | auto =>
      rw [DocumentNode.scalar?, found, nothing, Option.or_none, Option.none_or, ite_self]
    | inline => exact found
    | nested => exact absurd rfl (reads.1 stands)
  | grouped =>
    have nothing : (style.document id location shape).inline? key = none := by
      unfold DocumentNode.inline?
      split
      · rfl
      · next noTag =>
        rw [own?_document (ne_own free) noTag, placed_scalar noChild, stands]
        rfl
    have found : (style.document id location shape).nested? key =
        shape.scalars.members.find? key := by
      rw [nested?_document, placed_scalar noChild, if_pos stands]
    cases layout with
    | auto =>
      rw [DocumentNode.scalar?, found, nothing, Option.or_none, Option.none_or, ite_self]
    | inline => exact absurd rfl (reads.2 stands)
    | nested => exact found

theorem structural?_id :
    (style.document id location shape).structural? "id" = some (.int id.toInt) := by
  rcases style with ⟨_ | _ | _, _, _, _⟩ <;> rfl

theorem structural?_src :
    (style.document id location shape).structural? "src" = some (.str location.span.text) := by
  rcases style with ⟨_ | _ | _, _, _, _⟩ <;> rfl

end Style
end ContractTree
