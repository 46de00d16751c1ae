import ContractTree.Proofs.Document.Positions

namespace ContractTree

/-!
# Groupings of fields

A field of a node stands on its object or among its attributes.  If no field stands in
both places, it does not matter which of them it is: all fields may be moved onto the
object, or all but the tag among the attributes, where the tag is kept or renamed.  A
regrouping is a change of this sort together with a layout that finds the fields where
the change has put them.
-/

namespace Members

/-- The members that are not null. -/
def present (members : Members) : Members := members.filter fun entry => !entry.2.isNull

def keys (members : Members) : List String := List.map Prod.fst members

def without (members : Members) (keys : List String) : Members :=
  members.filter fun entry => entry.1 ∉ keys

/-- The members with others in place of those that have the same keys. -/
def put (members moved : Members) : Members := members.without moved.keys ++ moved

/-- The members of a node with its attributes moved onto the node. -/
def flatten (members : Members) : Members :=
  (members.without ["attributes"]).put members.attributes.present

/-- The members of a node with everything but the tag moved among the attributes, and
the tag under a key of choice. -/
def gather (tagKey : TagKey) (members : Members) : Members :=
  [(tagKey.text, (members.find? "nodeType").getD .null),
    ("attributes", .obj (members.attributes.put
      (members.present.without ["nodeType", "attributes"])))]

/-! ## Looking up moved members -/

variable {members moved : Members} {key : String}

theorem find?_present (members : Members) (key : String) :
    members.present.find? key = members.find? key := by
  induction members with
  | nil => rfl
  | cons entry rest ih =>
    rcases entry with ⟨name, value⟩
    rw [present, List.filter_cons]
    cases solid : value.isNull with
    | true =>
      have miss : ¬ (name = key ∧ value.isNull = false) := by
        rintro ⟨_, impossible⟩
        cases solid.symm.trans impossible
      rw [find?, if_neg miss]
      exact ih
    | false =>
      change find? ((name, value) :: present rest) key = _
      rw [find?, find?, ih]

theorem find?_without_of_mem {keys : List String} (excluded : key ∈ keys) :
    (members.without keys).find? key = none := by
  induction members with
  | nil => rfl
  | cons entry rest ih =>
    rcases entry with ⟨name, value⟩
    rw [without, List.filter_cons]
    split
    · next kept =>
      have other : name ≠ key := by
        rintro rfl
        exact of_decide_eq_true kept excluded
      change find? ((name, value) :: without rest keys) key = _
      rw [find?, if_neg fun both => other both.1]
      exact ih
    · exact ih

theorem find?_without_of_not_mem {keys : List String} (kept : key ∉ keys) :
    (members.without keys).find? key = members.find? key := by
  induction members with
  | nil => rfl
  | cons entry rest ih =>
    rcases entry with ⟨name, value⟩
    rw [without, List.filter_cons]
    split
    · change find? ((name, value) :: without rest keys) key = _
      rw [find?, find?, ih]
    · next dropped =>
      have other : name ≠ key := by
        rintro rfl
        exact dropped (decide_eq_true kept)
      rw [find?, if_neg fun both => other both.1]
      exact ih

theorem find?_eq_none_of_not_mem (missing : key ∉ members.keys) : members.find? key = none := by
  cases found : members.find? key with
  | none => rfl
  | some value => exact absurd (List.mem_map.2 ⟨(key, value), mem_of_find? found, rfl⟩) missing

/-- A key of a member that is not null finds something. -/
theorem isSome_find?_of_mem {value : Json} (member : (key, value) ∈ members)
    (solid : value.isNull = false) : (members.find? key).isSome := by
  induction members with
  | nil => cases member
  | cons entry rest ih =>
    rcases entry with ⟨name, content⟩
    rw [find?]
    split
    · rfl
    · next miss =>
      rcases List.mem_cons.1 member with same | later
      · cases same
        exact absurd ⟨rfl, solid⟩ miss
      · exact ih later

/-- What is put among members is found first. -/
theorem find?_put (solid : ∀ entry ∈ moved, entry.2.isNull = false) :
    (members.put moved).find? key = (moved.find? key).or (members.find? key) := by
  rw [put, find?_append]
  by_cases replaced : key ∈ moved.keys
  · rcases List.mem_map.1 replaced with ⟨⟨name, value⟩, member, rfl⟩
    have found := isSome_find?_of_mem member (solid _ member)
    rcases Option.isSome_iff_exists.1 found with ⟨first, hit⟩
    rw [find?_without_of_mem replaced, hit]
    rfl
  · rw [find?_without_of_not_mem replaced, find?_eq_none_of_not_mem replaced, Option.or_none,
      Option.none_or]

theorem isNull_of_mem_present {entry : String × Json} (member : entry ∈ members.present) :
    entry.2.isNull = false := by
  have kept := (List.mem_filter.1 member).2
  rwa [Bool.not_eq_true'] at kept

theorem isNull_of_mem_without_present {keys : List String} {entry : String × Json}
    (member : entry ∈ members.present.without keys) : entry.2.isNull = false :=
  isNull_of_mem_present (List.mem_filter.1 member).1

/-! ## Nodes with each field in one place -/

/-- A node with a tag under `nodeType`, and with each of its other fields in one place. -/
structure Separated (members : Members) : Prop where
  tagged : (TagKey.nodeType.string? members).isSome
  grouped : (members.find? "attributes").all Json.isObject = true
  untagged : members.attributes.find? "nodeType" = none
  ungrouped : members.attributes.find? "attributes" = none
  apart : ∀ key ∈ members.attributes.present.keys, members.find? key = none

instance : Decidable members.Separated :=
  decidable_of_iff ((TagKey.nodeType.string? members).isSome ∧
      (members.find? "attributes").all Json.isObject = true ∧
      members.attributes.find? "nodeType" = none ∧
      members.attributes.find? "attributes" = none ∧
      ∀ key ∈ members.attributes.present.keys, members.find? key = none)
    ⟨fun ⟨tagged, grouped, untagged, ungrouped, apart⟩ =>
      ⟨tagged, grouped, untagged, ungrouped, apart⟩,
    fun separated => ⟨separated.tagged, separated.grouped, separated.untagged,
      separated.ungrouped, separated.apart⟩⟩

/-- Where a field of a node stands, on the object or among the attributes. -/
def field? (members : Members) (key : String) : Option Json :=
  (members.find? key).or (members.attributes.find? key)

namespace Separated

variable (separated : members.Separated)

include separated

theorem find?_eq_none_or (key : String) :
    members.find? key = none ∨ members.attributes.find? key = none := by
  by_cases grouped : key ∈ members.attributes.present.keys
  · exact .inl (separated.apart key grouped)
  · refine .inr ?_
    rw [← find?_present]
    exact find?_eq_none_of_not_mem grouped

/-- The places may be asked in either order. -/
theorem field?_eq (key : String) :
    members.field? key = (members.attributes.find? key).or (members.find? key) := by
  rw [field?]
  rcases separated.find?_eq_none_or key with own | nested
  · rw [own, Option.none_or, Option.or_none]
  · rw [nested, Option.none_or, Option.or_none]

theorem find?_flatten (other : key ≠ "attributes") :
    members.flatten.find? key = members.field? key := by
  have kept : key ∉ ["attributes"] := fun member => other (List.mem_singleton.1 member)
  rw [flatten, find?_put fun _ => isNull_of_mem_present, find?_present,
    find?_without_of_not_mem kept, separated.field?_eq]

theorem attributes_flatten : members.flatten.attributes = [] := by
  have missing : members.flatten.find? "attributes" = none := by
    rw [flatten, find?_put fun _ => isNull_of_mem_present, find?_present, separated.ungrouped,
      find?_without_of_mem (List.mem_singleton_self _)]
    rfl
  rw [attributes, missing]
  rfl

end Separated

/-! ## Gathered members -/

variable {tagKey : TagKey}

theorem find?_gather (tag : key ≠ tagKey.text) (other : key ≠ "attributes") :
    (members.gather tagKey).find? key = none := by
  rw [gather, find?, if_neg fun both => tag both.1.symm, find?,
    if_neg fun both => other both.1.symm]
  rfl

theorem attributes_gather (tag : tagKey.text ≠ "attributes") :
    (members.gather tagKey).attributes =
      members.attributes.put (members.present.without ["nodeType", "attributes"]) := by
  rw [attributes, gather, find?, if_neg fun both => tag both.1, find?, if_pos ⟨rfl, rfl⟩]
  rfl

theorem find?_attributes_gather (tag : tagKey.text ≠ "attributes")
    (other : key ∉ ["nodeType", "attributes"]) :
    (members.gather tagKey).attributes.find? key = members.field? key := by
  rw [attributes_gather tag, find?_put fun _ => isNull_of_mem_without_present,
    find?_without_of_not_mem other, find?_present]
  rfl

/-- The tag of a gathered node. -/
theorem string?_gather (separated : members.Separated) :
    tagKey.string? (members.gather tagKey) = TagKey.nodeType.string? members := by
  rcases Option.isSome_iff_exists.1 separated.tagged with ⟨tag, tagged⟩
  rcases Option.bind_eq_some_iff.1 tagged with ⟨value, found, isText⟩
  have stands : members.find? "nodeType" = some value := found
  have solid : value.isNull = false := isNull_of_find? found
  rw [tagged, TagKey.string?, gather, stands, find?, if_pos ⟨rfl, solid⟩]
  exact isText

end Members

/-! ## Regroupings -/

/-- The kind that a tag names, with the key that the tag stands under. -/
def TagKey.resolveTag (tagKey : TagKey) (tag : String) : Except ImportError (NodeKind × TagKey) :=
  match NodeKind.ofTag? tag with
  | some found => .ok (found, tagKey)
  | none => .error (.unknownKind tag)

namespace TagKey

variable {members : Members} {tagKey : TagKey} {tag : String}

theorem resolve_of_nodeType (tagged : nodeType.string? members = some tag) :
    resolve members = nodeType.resolveTag tag := by
  rw [resolve, tagged]
  rfl

theorem text_ne {other : TagKey} (different : other ≠ tagKey) : other.text ≠ tagKey.text := by
  revert different
  cases other <;> cases tagKey <;> decide

theorem text_ne_attributes : tagKey.text ≠ "attributes" := by
  cases tagKey <;> decide

/-- A gathered node has the tag of the node under the key of choice, and no other. -/
theorem resolve_gather (separated : members.Separated)
    (tagged : nodeType.string? members = some tag) :
    resolve (members.gather tagKey) = tagKey.resolveTag tag := by
  have own : tagKey.string? (members.gather tagKey) = some tag :=
    (Members.string?_gather separated).trans tagged
  have alone : ∀ other : TagKey, other ≠ tagKey →
      other.string? (members.gather tagKey) = none := by
    intro other different
    rw [string?, Members.find?_gather (text_ne different) text_ne_attributes]
    rfl
  cases tagKey with
  | nodeType => exact resolve_of_nodeType own
  | name =>
    have noNodeType := alone .nodeType (by decide)
    have noKind := alone .kind (by decide)
    rw [resolve, noNodeType, kind?, own, kind?, noKind, resolveTag, Option.bind_some]
    cases NodeKind.ofTag? tag with
    | some found => rfl
    | none => rfl
  | kind =>
    have noNodeType := alone .nodeType (by decide)
    have noName := alone .name (by decide)
    rw [resolve, noNodeType, kind?, noName, kind?, own, resolveTag, Option.bind_some]
    cases NodeKind.ofTag? tag with
    | some found => rfl
    | none => rfl

end TagKey

/-- A change of nodes with each field in one place, and a layout that finds all fields
where they are after the change. -/
structure Regrouping where
  change : Members → Members
  layout : FieldLayout
  tagKey : TagKey
  resolve_eq : ∀ {members : Members} {tag : String}, members.Separated →
    TagKey.nodeType.string? members = some tag →
      TagKey.resolve (change members) = tagKey.resolveTag tag
  structural?_eq : ∀ {members : Members} {kind : NodeKind} {key : String}, members.Separated →
    key ∉ reservedKeys →
      (DocumentNode.mk (change members) kind tagKey).structural? key = members.field? key
  scalar?_eq : ∀ {members : Members} {kind : NodeKind} {key : String}, members.Separated →
    key ∉ ["nodeType", "attributes"] →
      (DocumentNode.mk (change members) kind tagKey).scalar? layout key = members.field? key

namespace Regrouping

/-- Both places are asked, and nothing is changed. -/
def unchanged : Regrouping where
  change members := members
  layout := .auto
  tagKey := .nodeType
  resolve_eq _ tagged := TagKey.resolve_of_nodeType tagged
  structural?_eq _ _ := rfl
  scalar?_eq {members kind key} separated fits := by
    have tag : key ≠ TagKey.nodeType.text := fun same => fits (same ▸ List.mem_cons_self ..)
    change (if key = TagKey.nodeType.text then none else members.find? key).or _ = _
    rw [if_neg tag]
    rfl

theorem ne_of_not_mem {key : String} {keys : List String} (fits : key ∉ keys) {other : String}
    (member : other ∈ keys) : key ≠ other :=
  fun same => fits (same ▸ member)

/-- All fields stand on the object, and only there they are looked up. -/
def flat : Regrouping where
  change := Members.flatten
  layout := .inline
  tagKey := .nodeType
  resolve_eq {members tag} separated tagged := by
    have same : members.flatten.find? "nodeType" = members.find? "nodeType" := by
      rw [separated.find?_flatten (by decide), Members.field?, separated.untagged, Option.or_none]
    refine TagKey.resolve_of_nodeType ?_
    rw [TagKey.string?, TagKey.text, same]
    exact tagged
  structural?_eq {members kind key} separated fits := by
    have other : key ≠ "attributes" := ne_of_not_mem fits (by decide)
    change (members.flatten.find? key).or (members.flatten.attributes.find? key) = _
    rw [separated.find?_flatten other, separated.attributes_flatten]
    exact Option.or_none
  scalar?_eq {members kind key} separated fits := by
    have tag : key ≠ TagKey.nodeType.text := ne_of_not_mem fits (by decide)
    have other : key ≠ "attributes" := ne_of_not_mem fits (by decide)
    change (if key = TagKey.nodeType.text then none else members.flatten.find? key) = _
    rw [if_neg tag, separated.find?_flatten other]

theorem structural?_gather {members : Members} {kind : NodeKind} {key : String} {tagKey : TagKey}
    (fits : key ∉ reservedKeys) :
    (DocumentNode.mk (members.gather tagKey) kind tagKey).structural? key =
      members.field? key := by
  have tag : key ≠ tagKey.text := ne_of_not_mem fits (by cases tagKey <;> decide)
  have other : key ≠ "attributes" := ne_of_not_mem fits (by decide)
  have among : ∀ other ∈ ["nodeType", "attributes"], other ∈ reservedKeys := by decide
  have neither : key ∉ ["nodeType", "attributes"] := fun member => fits (among key member)
  change ((members.gather tagKey).find? key).or ((members.gather tagKey).attributes.find? key) = _
  rw [Members.find?_gather tag other,
    Members.find?_attributes_gather TagKey.text_ne_attributes neither]
  exact Option.none_or

theorem nested?_gather {members : Members} {kind : NodeKind} {key : String} {tagKey : TagKey}
    (fits : key ∉ ["nodeType", "attributes"]) :
    (DocumentNode.mk (members.gather tagKey) kind tagKey).nested? key = members.field? key :=
  Members.find?_attributes_gather TagKey.text_ne_attributes fits

/-- Nothing but the tag stands on the object of a gathered node. -/
theorem inline?_gather {members : Members} {kind : NodeKind} {key : String} {tagKey : TagKey}
    (fits : key ∉ ["nodeType", "attributes"]) :
    (DocumentNode.mk (members.gather tagKey) kind tagKey).inline? key = none := by
  have other : key ≠ "attributes" := ne_of_not_mem fits (by decide)
  change (if key = tagKey.text then none else (members.gather tagKey).find? key) = none
  by_cases tag : key = tagKey.text
  · exact if_pos tag
  · rw [if_neg tag, Members.find?_gather tag other]

/-- All fields stand among the attributes, and only there they are looked up. -/
def nested (tagKey : TagKey) : Regrouping where
  change := Members.gather tagKey
  layout := .nested
  tagKey := tagKey
  resolve_eq separated tagged := TagKey.resolve_gather separated tagged
  structural?_eq _ fits := structural?_gather fits
  scalar?_eq _ fits := nested?_gather fits

/-- All fields stand among the attributes, and both places are asked. -/
def either (tagKey : TagKey) : Regrouping where
  change := Members.gather tagKey
  layout := .auto
  tagKey := tagKey
  resolve_eq separated tagged := TagKey.resolve_gather separated tagged
  structural?_eq _ fits := structural?_gather fits
  scalar?_eq {members kind key} separated fits := by
    have inside : (DocumentNode.mk (members.gather tagKey) kind tagKey).nested? key =
        members.field? key := nested?_gather fits
    have outside : (DocumentNode.mk (members.gather tagKey) kind tagKey).inline? key = none :=
      inline?_gather fits
    change (if tagKey = .name then _ else _) = _
    split
    · rw [inside, outside, Option.or_none]
    · rw [inside, outside, Option.none_or]

end Regrouping
end ContractTree
