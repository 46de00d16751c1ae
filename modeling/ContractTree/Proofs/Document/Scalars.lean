import ContractTree.Proofs.Conversion.Replay
import ContractTree.Proofs.Document.Grouping
import ContractTree.Proofs.Document.Tags

namespace ContractTree

/-!
# The tag of a node is never read back

A scalar stands on the object of a node or among its attributes, and it is said here which
of the two a lookup finds, for each layout.  The tag is no scalar, though its key may be the
key of one: no lookup tells two nodes apart that differ in nothing but what stands under the
key of their tags.
-/

/-- A value is in the first of two places, or in the second with nothing in the first. -/
def FirstOf (first second : Json → Prop) (value : Json) : Prop :=
  first value ∨ (∀ other, ¬ first other) ∧ second value

theorem Option.or_eq_some_iff_firstOf {here there : Option Json} {first second : Json → Prop}
    (isHere : ∀ value, here = some value ↔ first value)
    (isThere : ∀ value, there = some value ↔ second value) (value : Json) :
    here.or there = some value ↔ FirstOf first second value := by
  rw [Option.or_eq_some_iff, Option.eq_none_iff_forall_ne_some]
  exact or_congr (isHere value)
    (and_congr (forall_congr' fun other => not_congr (isHere other)) (isThere value))

namespace DocumentNode

/-- A value that is not null stands on the object itself. -/
def HasOwn (document : DocumentNode) (key : String) (value : Json) : Prop :=
  document.members.find? key = some value

/-- A value that is not null stands in the object under `attributes`. -/
def HasNested (document : DocumentNode) (key : String) (value : Json) : Prop :=
  ∃ inner : Members, document.members.find? "attributes" = some (.obj inner) ∧
    inner.find? key = some value

/-- Two nodes with tags under the same key, which differ in nothing but what stands there. -/
structure SameButTag (document other : DocumentNode) : Prop where
  tagKey_eq : other.tagKey = document.tagKey
  find?_eq : ∀ key, key ≠ document.tagKey.text →
    other.members.find? key = document.members.find? key

/-- Which values scalar lookups have, by where values stand. -/
structure ReadsScalars (document : DocumentNode) : Prop where
  /-- The tag may be replaced by anything, and no lookup of any key notices. -/
  unread : ∀ other, document.SameButTag other →
    ∀ layout key, other.scalar? layout key = document.scalar? layout key
  /-- Under the key of the tag nothing is looked up but what stands among the attributes. -/
  tag : ∀ layout value, document.scalar? layout document.tagKey.text = some value ↔
    layout ≠ .inline ∧ document.HasNested document.tagKey.text value
  inline : ∀ key, key ≠ document.tagKey.text → ∀ value,
    document.scalar? .inline key = some value ↔ document.HasOwn key value
  nested : ∀ key, key ≠ document.tagKey.text → ∀ value,
    document.scalar? .nested key = some value ↔ document.HasNested key value
  /-- The attributes are asked first if the tag stands under `name`. -/
  older : document.tagKey = .name → ∀ key, key ≠ document.tagKey.text → ∀ value,
    document.scalar? .auto key = some value ↔
      FirstOf (document.HasNested key) (document.HasOwn key) value
  /-- They are asked last if it stands under another key. -/
  newer : document.tagKey ≠ .name → ∀ key, key ≠ document.tagKey.text → ∀ value,
    document.scalar? .auto key = some value ↔
      FirstOf (document.HasOwn key) (document.HasNested key) value

section Scalars

variable {document : DocumentNode} {key : String}

theorem nested?_eq_some_iff (value : Json) :
    document.nested? key = some value ↔ document.HasNested key value :=
  Members.find?_attributes_eq_some_iff

theorem inline?_tag : document.inline? document.tagKey.text = none := if_pos rfl

theorem inline?_of_ne (field : key ≠ document.tagKey.text) :
    document.inline? key = document.members.find? key := if_neg field

theorem inline?_eq_some_iff (field : key ≠ document.tagKey.text) (value : Json) :
    document.inline? key = some value ↔ document.HasOwn key value := by
  rw [inline?_of_ne field, HasOwn]

theorem scalar?_tag (layout : FieldLayout) :
    document.scalar? layout document.tagKey.text =
      if layout = .inline then none else document.nested? document.tagKey.text := by
  cases layout with
  | auto => rw [scalar?, inline?_tag, Option.or_none, Option.none_or, ite_self]; rfl
  | inline => exact inline?_tag
  | nested => rfl

namespace SameButTag

variable {other : DocumentNode} (same : document.SameButTag other)

include same

theorem inline?_eq (key : String) : other.inline? key = document.inline? key := by
  by_cases tag : key = document.tagKey.text
  · subst tag
    rw [inline?_tag, ← same.tagKey_eq, inline?_tag]
  · have field : key ≠ other.tagKey.text := by rwa [same.tagKey_eq]
    rw [inline?_of_ne field, same.find?_eq key tag, inline?_of_ne tag]

/-- The attributes do not stand under the key of a tag. -/
theorem nested?_eq (key : String) : other.nested? key = document.nested? key := by
  have attributes := same.find?_eq "attributes" TagKey.text_ne_attributes.symm
  rw [nested?, DocumentNode.attributes, Members.attributes, attributes]
  rfl

theorem scalar?_eq (layout : FieldLayout) (key : String) :
    other.scalar? layout key = document.scalar? layout key := by
  unfold scalar?
  rw [same.inline?_eq, same.nested?_eq, same.tagKey_eq]

end SameButTag

theorem readsScalars (document : DocumentNode) : document.ReadsScalars where
  unread _ same := same.scalar?_eq
  tag layout value := by
    rw [scalar?_tag]
    by_cases inline : layout = .inline
    · simp [inline]
    · rw [if_neg inline, nested?_eq_some_iff]
      exact (and_iff_right inline).symm
  inline _ field := inline?_eq_some_iff field
  nested _ _ := nested?_eq_some_iff
  older tagged key field value := by
    rw [scalar?, if_pos tagged]
    exact Option.or_eq_some_iff_firstOf nested?_eq_some_iff (inline?_eq_some_iff field) value
  newer untagged key field value := by
    rw [scalar?, if_neg untagged]
    exact Option.or_eq_some_iff_firstOf (inline?_eq_some_iff field) nested?_eq_some_iff value

end Scalars

/-- An object is a node just if the strings under the keys of tags decide so, and of the kind
that they decide.  Otherwise they decide why it is none, and every conversion of the object
fails for this, under whatever settings and at whatever depth.  Of a node, scalar lookups
find all values in their places but the tag. -/
theorem tag_exact (members : Members) :
    (∀ document, ofJson? (.obj members) = .ok document ↔ document.members = members ∧
      TagKey.Decides members (.ok (document.kind, document.tagKey))) ∧
    (∀ cause, (ofJson? (.obj members) = .error cause ↔
        TagKey.Decides members (.error cause)) ∧
      (TagKey.Decides members (.error cause) →
        ∀ settings depth, convert settings depth (.obj members) = throw cause)) ∧
    ∀ document, ofJson? (.obj members) = .ok document → document.ReadsScalars := by
  refine ⟨fun document => ofJson?_eq_ok_iff, fun cause => ⟨ofJson?_eq_error_iff, ?_⟩,
    fun document _ => document.readsScalars⟩
  intro decides settings depth
  exact convert_of_error (ofJson?_eq_error_iff.2 decides)

/-- An object of the older form.  Its tag is also the key of a field, and `payable` is said
twice. -/
def olderFunction : Members :=
  [("name", .str "FunctionDefinition"), ("payable", .bool true), ("nodeType", .null),
    ("attributes", .obj [("name", .str "transfer"), ("payable", .bool false)])]

/-- The name of the function is found among the attributes or not at all, and of the two flags
the attributes have the one that counts.  A tag that is unknown stays so beside a name that
is the tag of a kind. -/
theorem tag_exact_olderFunction :
    (∃ document, ofJson? (.obj olderFunction) = .ok document ∧
      document.kind = .functionDefinition ∧
      document.scalar? .auto "name" = some (.str "transfer") ∧
      document.scalar? .inline "name" = none ∧
      document.scalar? .auto "payable" = some (.bool false)) ∧
    ofJson? (.obj [("nodeType", .str "FrobDeclaration"), ("name", .str "Block")]) =
      .error (.unknownKind "FrobDeclaration") := by
  constructor
  · have decides : TagKey.Decides olderFunction (.ok (.functionDefinition, .name)) :=
      .name (fun _ stands => nomatch stands) rfl
    have read := ((tag_exact olderFunction).1 ⟨olderFunction, .functionDefinition, .name⟩).2
      ⟨rfl, decides⟩
    have reads := (tag_exact olderFunction).2.2 _ read
    have named := (reads.tag .auto (.str "transfer")).2 ⟨by decide, _, rfl, rfl⟩
    have unpaid := (reads.older rfl "payable" (by decide) (.bool false)).2 (.inl ⟨_, rfl, rfl⟩)
    refine ⟨_, read, rfl, named, ?_, unpaid⟩
    rw [Option.eq_none_iff_forall_ne_some]
    exact fun value found => ((reads.tag .inline value).1 found).1 rfl
  · refine ((tag_exact _).2.1 _).1.2 (.unsupported rfl ?_)
    exact NodeKind.ofTag?_eq_none_iff.1 (by decide)

end DocumentNode
end ContractTree
