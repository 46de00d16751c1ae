import ContractTree.Proofs.Document.Positions
import ContractTree.Proofs.Document.Tags

namespace ContractTree

/-!
# Nodes with one field changed

A change to what is found under a key of a node is made where it is found: on the node
itself or, if nothing stands there, among the attributes.  Every other field is then
found as before, and so is the tag.
-/

/-- An object with its members changed; any other value as it is. -/
def Json.mapObject (f : Members → Members) : Json → Json
  | obj members => obj (f members)
  | other => other

theorem Json.isNull_mapObject (f : Members → Members) (value : Json) :
    (value.mapObject f).isNull = value.isNull := by
  cases value <;> rfl

namespace Members

/-- The members with the value that is found under a key changed. -/
def change (f : Json → Json) (key : String) : Members → Members
  | [] => []
  | (name, value) :: rest =>
    if name = key ∧ value.isNull = false then (name, f value) :: rest
    else (name, value) :: change f key rest

variable {f : Json → Json} {key other : String} {members : Members}

theorem find?_change_of_ne (different : other ≠ key) :
    Members.find? (members.change f key) other = members.find? other := by
  induction members with
  | nil => rfl
  | cons entry rest ih =>
    rcases entry with ⟨name, value⟩
    rw [change]
    by_cases hit : name = key ∧ value.isNull = false
    · have elsewhere : name ≠ other := fun same => different (same.symm.trans hit.1)
      rw [if_pos hit, find?, find?, if_neg (fun found => elsewhere found.1),
        if_neg (fun found => elsewhere found.1)]
    · rw [if_neg hit, find?, find?, ih]

/-- What is found under the key is the changed value, unless the change makes it null. -/
theorem find?_change (solid : ∀ value, members.find? key = some value → (f value).isNull = false) :
    Members.find? (members.change f key) key = (members.find? key).map f := by
  induction members with
  | nil => rfl
  | cons entry rest ih =>
    rcases entry with ⟨name, value⟩
    rw [change]
    by_cases hit : name = key ∧ value.isNull = false
    · have found : Members.find? ((name, value) :: rest) key = some value := if_pos hit
      have kept : name = key ∧ (f value).isNull = false := ⟨hit.1, solid value found⟩
      rw [if_pos hit, found, find?, if_pos kept, Option.map_some]
    · have passed : Members.find? ((name, value) :: rest) key = Members.find? rest key :=
        if_neg hit
      rw [if_neg hit, passed, find?, if_neg hit]
      exact ih fun later found => solid later (passed.trans found)

end Members

/-- The tag of a node is told by the strings under the keys of tags. -/
theorem TagKey.resolve_of_string? {before after : Members}
    (same : ∀ key, string? after key = string? before key) {tag : NodeKind × TagKey}
    (resolved : resolve before = .ok tag) : resolve after = .ok tag := by
  unfold resolve kind? at resolved ⊢
  rw [same, same, same]
  split at resolved
  · exact resolved
  · split at resolved
    · exact resolved
    · split at resolved
      · exact resolved
      · split at resolved
        · cases resolved
        · cases resolved

namespace DocumentNode

/-- The members that a node was read from have its tag. -/
theorem resolve_of_ofJson? {value : Json} {document : DocumentNode}
    (read : ofJson? value = .ok document) :
    TagKey.resolve document.members = .ok (document.kind, document.tagKey) := by
  have value_eq := ofJson?_eq_ok read
  subst value_eq
  exact TagKey.resolve_eq_iff.2 (ofJson?_eq_ok_iff.1 read).2

/-- A node with what is found under a structural key changed. -/
def edited (document : DocumentNode) (key : String) (f : Json → Json) : DocumentNode :=
  { document with
    members :=
      if (document.own? key).isSome then document.members.change f key
      else document.members.change (Json.mapObject (Members.change f key)) "attributes" }

section Edited

variable {document : DocumentNode} {key other : String} {f : Json → Json}

/-- A key that may be changed, with a change that leaves something there. -/
structure Editable (document : DocumentNode) (key : String) (f : Json → Json) : Prop where
  free : key ∉ reservedKeys
  solid : ∀ value, document.own? key = some value ∨ document.nested? key = some value →
    (f value).isNull = false

theorem own?_edited_of_ne (different : other ≠ key) (plain : other ≠ "attributes") :
    (document.edited key f).own? other = document.own? other := by
  unfold own? edited
  dsimp only
  split
  · exact Members.find?_change_of_ne different
  · exact Members.find?_change_of_ne plain

namespace Editable

variable (editable : document.Editable key f)

include editable

theorem ne_attributes : key ≠ "attributes" := by
  rintro rfl
  exact editable.free (by decide)

theorem own?_edited :
    (document.edited key f).own? key = (document.own? key).map f := by
  unfold own? edited
  dsimp only
  split
  · exact Members.find?_change fun value found => editable.solid value (.inl found)
  · next missing =>
    have nothing : document.members.find? key = none := Option.not_isSome_iff_eq_none.1 missing
    rw [Members.find?_change_of_ne editable.ne_attributes, nothing]
    rfl

theorem attributes_edited :
    (document.edited key f).attributes =
      if (document.own? key).isSome then document.attributes
      else document.attributes.change f key := by
  unfold attributes Members.attributes edited
  dsimp only
  split
  · rw [Members.find?_change_of_ne editable.ne_attributes.symm]
  · rw [Members.find?_change]
    · cases document.members.find? "attributes" with
      | none => rfl
      | some value => cases value <;> rfl
    · intro value found
      rw [Json.isNull_mapObject]
      exact Members.isNull_of_find? found

theorem nested?_edited_of_ne (different : other ≠ key) :
    (document.edited key f).nested? other = document.nested? other := by
  rw [nested?, editable.attributes_edited, nested?]
  split
  · rfl
  · exact Members.find?_change_of_ne different

theorem nested?_edited :
    (document.edited key f).nested? key =
      if (document.own? key).isSome then document.nested? key
      else (document.nested? key).map f := by
  rw [nested?, editable.attributes_edited, nested?]
  split
  · rfl
  · exact Members.find?_change fun value found => editable.solid value (.inr found)

theorem structural?_edited_of_ne (different : other ≠ key) (plain : other ≠ "attributes") :
    (document.edited key f).structural? other = document.structural? other := by
  rw [structural?, own?_edited_of_ne different plain, editable.nested?_edited_of_ne different,
    structural?]

/-- What stands under the key is the changed value. -/
theorem structural?_edited :
    (document.edited key f).structural? key = (document.structural? key).map f := by
  rw [structural?, editable.own?_edited, editable.nested?_edited, structural?]
  cases document.own? key <;> rfl

theorem scalar?_edited_of_ne (layout : FieldLayout) (different : other ≠ key)
    (plain : other ≠ "attributes") :
    (document.edited key f).scalar? layout other = document.scalar? layout other := by
  have inline : (document.edited key f).inline? other = document.inline? other := by
    rw [inline?, inline?, own?_edited_of_ne different plain]
    rfl
  have nested := editable.nested?_edited_of_ne different
  unfold scalar?
  rw [inline, nested]
  rfl

/-- A scalar under the key is found as before, or it is what stands there. -/
theorem scalar?_edited (layout : FieldLayout) :
    (document.edited key f).scalar? layout key = document.scalar? layout key ∨
      document.scalar? layout key = document.structural? key ∧
        (document.edited key f).scalar? layout key = (document.structural? key).map f := by
  have untagged : key ≠ document.tagKey.text := by
    rintro rfl
    exact editable.free (by cases document.tagKey <;> decide)
  have inline : (document.edited key f).inline? key = (document.own? key).map f := by
    rw [inline?, editable.own?_edited]
    exact if_neg untagged
  have inlineBefore : document.inline? key = document.own? key := if_neg untagged
  have nested := editable.nested?_edited
  have tag : (document.edited key f).tagKey = document.tagKey := rfl
  unfold scalar?
  rw [inline, inlineBefore, nested, tag, structural?]
  cases own : document.own? key with
  | some value =>
    cases layout with
    | inline => exact .inr ⟨rfl, rfl⟩
    | nested => exact .inl rfl
    | auto =>
      dsimp only
      split
      · cases document.nested? key with
        | none => exact .inr ⟨rfl, rfl⟩
        | some inner => exact .inl rfl
      · exact .inr ⟨rfl, rfl⟩
  | none =>
    cases layout with
    | inline => exact .inl rfl
    | nested => exact .inr ⟨rfl, rfl⟩
    | auto =>
      dsimp only
      split
      · refine .inr ⟨?_, ?_⟩
        · cases document.nested? key <;> rfl
        · cases document.nested? key <;> rfl
      · exact .inr ⟨rfl, rfl⟩

theorem string?_edited (tagKey : TagKey) :
    TagKey.string? (document.edited key f).members tagKey =
      TagKey.string? document.members tagKey := by
  have different : tagKey.text ≠ key := by
    rintro rfl
    exact editable.free (by cases tagKey <;> decide)
  have plain : tagKey.text ≠ "attributes" := by cases tagKey <;> decide
  have found : (document.edited key f).own? tagKey.text = document.own? tagKey.text :=
    own?_edited_of_ne different plain
  unfold own? at found
  rw [TagKey.string?, found, TagKey.string?]

/-- The node with the field changed is read as such. -/
theorem ofJson?_edited {value : Json} (read : ofJson? value = .ok document) :
    ofJson? (document.edited key f).toJson = .ok (document.edited key f) := by
  have resolved := TagKey.resolve_of_string? editable.string?_edited (resolve_of_ofJson? read)
  rw [toJson, ofJson?, resolved]
  rfl

end Editable

end Edited
end DocumentNode
end ContractTree
