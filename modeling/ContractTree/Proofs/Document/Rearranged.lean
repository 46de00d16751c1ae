import ContractTree.Proofs.Document.Grouping

namespace ContractTree

/-!
# Rearranged documents

If all nodes of a document have each field in one place, then a regrouping may be
carried out on all of them.  What is looked up in a node of the changed document is what
is looked up in the node that it comes from, with the nodes in it changed.
-/

namespace Members

variable {change : Members → Members} {positions : String → Position} {members : Members}
  {key : String}

theorem find?_rearrangeMembers :
    Members.find? (Json.rearrangeMembers change positions members) key =
      (members.find? key).map (Json.rearrange change (positions key)) := by
  induction members with
  | nil => rfl
  | cons entry rest ih =>
    rcases entry with ⟨name, value⟩
    rw [Json.rearrangeMembers, find?, find?, Json.isNull_rearrange]
    by_cases hit : name = key ∧ value.isNull = false
    · rw [if_pos hit, if_pos hit, hit.1]
      rfl
    · rw [if_neg hit, if_neg hit]
      exact ih

/-- The members of a node with the nodes below it changed. -/
def rearrangedInside (change : Members → Members) (members : Members) : Members :=
  Json.rearrangeMembers change (Position.node.member members) members

theorem find?_rearrangedInside (other : key ≠ "attributes") :
    (members.rearrangedInside change).find? key = (members.find? key).map
      (Json.rearrange change (Position.ofKind? (TagKey.nodeType.kind? members) key)) := by
  rw [rearrangedInside, find?_rearrangeMembers, Position.member_node_of_ne other]

theorem attributes_rearrangedInside :
    (members.rearrangedInside change).attributes =
      Json.rearrangeMembers change (Position.ofKind? (TagKey.nodeType.kind? members))
        members.attributes := by
  rw [attributes, rearrangedInside, find?_rearrangeMembers, Position.member_node_attributes,
    attributes]
  cases members.find? "attributes" with
  | none => rfl
  | some value => cases value <;> rfl

theorem find?_attributes_rearrangedInside :
    (members.rearrangedInside change).attributes.find? key = (members.attributes.find? key).map
      (Json.rearrange change (Position.ofKind? (TagKey.nodeType.kind? members) key)) := by
  rw [attributes_rearrangedInside, find?_rearrangeMembers]

theorem field?_rearrangedInside (other : key ≠ "attributes") :
    (members.rearrangedInside change).field? key = (members.field? key).map
      (Json.rearrange change (Position.ofKind? (TagKey.nodeType.kind? members) key)) := by
  rw [field?, field?, find?_rearrangedInside other, find?_attributes_rearrangedInside]
  cases members.find? key <;> rfl

theorem string?_rearrangedInside :
    TagKey.nodeType.string? (members.rearrangedInside change) =
      TagKey.nodeType.string? members := by
  have tag : TagKey.nodeType.text ≠ "attributes" := by decide
  rw [TagKey.string?, find?_rearrangedInside tag, TagKey.string?]
  cases members.find? TagKey.nodeType.text with
  | none => rfl
  | some value => exact Json.asString?_rearrange

/-- Changing the nodes below a node moves none of its fields. -/
theorem Separated.rearrangedInside (separated : members.Separated) :
    (members.rearrangedInside change).Separated where
  tagged := by
    rw [string?_rearrangedInside]
    exact separated.tagged
  grouped := by
    rw [Members.rearrangedInside, find?_rearrangeMembers]
    have grouped := separated.grouped
    cases found : members.find? "attributes" with
    | none => rfl
    | some value =>
      rw [found] at grouped
      exact Json.isObject_rearrange.trans grouped
  untagged := by
    rw [find?_attributes_rearrangedInside, separated.untagged]
    rfl
  ungrouped := by
    rw [find?_attributes_rearrangedInside, separated.ungrouped]
    rfl
  apart := by
    intro key grouped
    rcases List.mem_map.1 grouped with ⟨⟨name, value⟩, member, rfl⟩
    have solid := isNull_of_mem_present member
    have found := isSome_find?_of_mem (List.mem_filter.1 member).1 solid
    rw [find?_attributes_rearrangedInside, Option.isSome_map] at found
    rw [Members.rearrangedInside, find?_rearrangeMembers]
    rcases separated.find?_eq_none_or name with own | nested
    · rw [own]
      rfl
    · rw [nested] at found
      cases found

/-- A field of a node that holds nodes holds nodes of the document. -/
theorem mem_nodes_of_field? {value : Json} (found : members.field? key = some value)
    (other : key ≠ "attributes") {inner : Members}
    (inside : inner ∈ value.nodesAt (Position.ofKind? (TagKey.nodeType.kind? members) key)) :
    inner ∈ (Json.obj members).nodes := by
  refine List.mem_append_right _ ?_
  rcases Option.or_eq_some_iff.1 found with own | ⟨_, nested⟩
  · refine Json.mem_membersNodesAt (mem_of_find? own) ?_
    rw [Position.member_node_of_ne other]
    exact inside
  · rcases find?_attributes_eq_some_iff.1 nested with ⟨entries, stands, found⟩
    refine Json.mem_membersNodesAt (mem_of_find? stands) ?_
    rw [Position.member_node_attributes]
    exact List.mem_append_right _ (Json.mem_membersNodesAt (mem_of_find? found) inside)

end Members

/-! ## Documents with regrouped nodes -/

/-- A document node and its image read alike: what stands in a place of the one stands
in the same place of the other, with the nodes in it changed. -/
structure DocumentNode.ReadsAs (change : Members → Members) (layout other : FieldLayout)
    (document image : DocumentNode) : Prop where
  kind_eq : image.kind = document.kind
  structural?_eq : ∀ key, key ∉ reservedKeys → image.structural? key =
    (document.structural? key).map (Json.rearrange change (document.kind.position key))
  scalar?_eq : ∀ key, key ∉ ["nodeType", "attributes"] → image.scalar? other key =
    (document.scalar? layout key).map (Json.rearrange change (document.kind.position key))

/-- A node with its fields in one place each is tagged under `nodeType`. -/
theorem DocumentNode.tagged_of_separated {members : Members} {document : DocumentNode}
    (separated : members.Separated) (read : ofJson? (.obj members) = .ok document) :
    document = ⟨members, document.kind, .nodeType⟩ ∧
      TagKey.nodeType.kind? members = some document.kind := by
  rcases Option.isSome_iff_exists.1 separated.tagged with ⟨tag, tagged⟩
  rw [ofJson?, TagKey.resolve_of_nodeType tagged, TagKey.resolveTag] at read
  rw [TagKey.kind?, tagged, Option.bind_some]
  cases named : NodeKind.ofTag? tag with
  | some kind =>
    rw [named] at read
    cases read
    exact ⟨rfl, rfl⟩
  | none =>
    rw [named] at read
    cases read

/-- The nodes below a document node have their fields in one place each if all nodes of
the document have. -/
theorem DocumentNode.separated_below {value found : Json} {document : DocumentNode} {key : String}
    (separated : ∀ inner ∈ value.nodes, Members.Separated inner)
    (read : ofJson? value = .ok document) (fits : key ∉ reservedKeys)
    (stands : document.structural? key = some found) :
    ∀ inner ∈ found.nodesAt (document.kind.position key), Members.Separated inner := by
  have value_eq := ofJson?_eq_ok read
  subst value_eq
  intro inner inside
  have other : key ≠ "attributes" := Regrouping.ne_of_not_mem fits (by decide)
  have here : document.members.Separated := separated _ (List.mem_cons_self ..)
  have kind := (tagged_of_separated here read).2
  refine separated inner (Members.mem_nodes_of_field? stands other ?_)
  rw [kind]
  exact inside

namespace Regrouping

variable (regrouping : Regrouping)

/-- The document node that a node is changed to, with the nodes below it. -/
def image (document : DocumentNode) : DocumentNode :=
  ⟨regrouping.change (document.members.rearrangedInside regrouping.change), document.kind,
    regrouping.tagKey⟩

variable {regrouping}

/-- The changed document is read as the image of what the document is read as. -/
theorem ofJson?_rearranged {value : Json}
    (separated : ∀ inner ∈ value.nodes, Members.Separated inner) :
    DocumentNode.ofJson? (value.rearranged regrouping.change) =
      (DocumentNode.ofJson? value).map regrouping.image := by
  cases value with
  | obj members =>
    have here : Members.Separated members := separated members (List.mem_cons_self ..)
    rcases Option.isSome_iff_exists.1 here.tagged with ⟨tag, tagged⟩
    have inside : Members.Separated (Members.rearrangedInside regrouping.change members) :=
      here.rearrangedInside
    have same := regrouping.resolve_eq inside (Members.string?_rearrangedInside.trans tagged)
    rw [Json.rearranged, Json.rearrange_node]
    change DocumentNode.ofJson?
      (.obj (regrouping.change (Members.rearrangedInside regrouping.change members))) = _
    rw [DocumentNode.ofJson?, DocumentNode.ofJson?, same, TagKey.resolve_of_nodeType tagged,
      TagKey.resolveTag, TagKey.resolveTag]
    cases NodeKind.ofTag? tag with
    | some kind => rfl
    | none => rfl
  | _ => rfl

/-- A node and its image read alike. -/
theorem readsAs_image {value : Json} {document : DocumentNode}
    (separated : ∀ inner ∈ value.nodes, Members.Separated inner)
    (read : DocumentNode.ofJson? value = .ok document) :
    document.ReadsAs regrouping.change .auto regrouping.layout (regrouping.image document) := by
  have value_eq := DocumentNode.ofJson?_eq_ok read
  subst value_eq
  have here : document.members.Separated := separated _ (List.mem_cons_self ..)
  rcases DocumentNode.tagged_of_separated here read with ⟨same, kind⟩
  have inside : (document.members.rearrangedInside regrouping.change).Separated :=
    here.rearrangedInside
  have expected : ∀ key, Position.ofKind? (TagKey.nodeType.kind? document.members) key =
      document.kind.position key := by
    intro key
    rw [kind]
    rfl
  have scalar : ∀ key, key ∉ ["nodeType", "attributes"] →
      document.scalar? .auto key = document.members.field? key := by
    intro key fits
    rw [same]
    exact unchanged.scalar?_eq here fits
  refine ⟨rfl, fun key fits => ?_, fun key fits => ?_⟩
  · have other : key ≠ "attributes" := ne_of_not_mem fits (by decide)
    refine (regrouping.structural?_eq inside fits).trans ?_
    rw [Members.field?_rearrangedInside other, expected]
    rfl
  · have other : key ≠ "attributes" := ne_of_not_mem fits (by decide)
    refine (regrouping.scalar?_eq inside fits).trans ?_
    rw [Members.field?_rearrangedInside other, expected, scalar key fits]

end Regrouping
end ContractTree
