import ContractTree.Proofs.Document.Found
import Mathlib.Logic.Relation

namespace ContractTree

/-!
# What the values of a document are read as

Of the objects of a document some are read as nodes and some as the attributes of nodes,
some as aliases, and some as what inline assembly says of a reference.  Which of these a
value is depends on where it stands: its role follows from the roles of the values around
it and from the tags of the nodes among them, and nothing is converted to find it.

An edit changes the members of one object, anywhere in a document.  What counts as an
edit may depend on the role of the object.
-/

/-! ## Roles -/

/-- The kind of a node, if its tag names one. -/
def Members.resolvedKind? (members : Members) : Option NodeKind :=
  (TagKey.resolve members).toOption.map Prod.fst

theorem Members.resolvedKind?_of_resolve {members : Members} {tag : NodeKind × TagKey}
    (resolved : TagKey.resolve members = .ok tag) : members.resolvedKind? = some tag.1 := by
  rw [resolvedKind?, resolved]
  rfl

/-- What a value is read as. -/
inductive Role where
  /-- What is expected in a position. -/
  | of (position : Position)
  /-- The references of inline assembly. -/
  | references
  /-- One reference, an object with one member that is named for what it refers to. -/
  | reference
  /-- What is said of a reference. -/
  | info

namespace Role

/-- Read as nothing with objects in it. -/
abbrev plain : Role := of .plain

abbrev node : Role := of .node

/-- What stands under a key of a node of a kind is read as. -/
def ofKey (kind : NodeKind) (key : String) : Role :=
  if key = "externalReferences" then references else of (kind.position key)

/-- The same for a node whose kind may be unknown, of which nothing is read then. -/
def ofKey? (kind : Option NodeKind) (key : String) : Role :=
  (kind.map fun known => ofKey known key).getD plain

/-- What the items of a list are read as. -/
def item : Role → Role
  | of position => of position.item
  | references => reference
  | _ => plain

/-- What the members of an object are read as.  The kind of a node is what its tag names,
under whatever key. -/
def member (members : Members) : Role → String → Role
  | of .node, key =>
    if key = "attributes" then of (.attributes members.resolvedKind?)
    else ofKey? members.resolvedKind? key
  | of (.attributes kind), key => ofKey? kind key
  | of .symbolAlias, key => if key = "foreign" then node else plain
  | reference, _ => info
  | _, _ => plain

variable {members : Members} {kind : NodeKind} {key : String}

theorem member_node_of_ne (resolved : members.resolvedKind? = some kind)
    (other : key ≠ "attributes") : node.member members key = ofKey kind key := by
  rw [member, if_neg other, resolved]
  rfl

theorem ofKey_of_ne (other : key ≠ "externalReferences") :
    ofKey kind key = of (kind.position key) := if_neg other

/-- What is expected where nodes are is what is read there. -/
theorem ofKey_of_position {position : Position} (expected : kind.position key = position)
    (holds : position ≠ .plain) : ofKey kind key = of position := by
  have other : key ≠ "externalReferences" := by
    rintro rfl
    exact holds (expected.symm.trans (kind.position_common _ (by decide)))
  rw [ofKey_of_ne other, expected]

/-- Nothing with objects in it is read under the keys that all nodes have. -/
theorem ofKey_common (common : key ∈ reservedKeys ++ ["id", "src", "documentation",
    "typeDescriptions"]) : ofKey kind key = plain := by
  have other : key ≠ "externalReferences" := by
    rintro rfl
    exact absurd common (by decide)
  have listed : key ∈ reservedKeys ++ ["id", "src", "documentation", "typeDescriptions",
      "externalReferences"] := by
    rcases List.mem_append.1 common with reserved | named
    · exact List.mem_append_left _ reserved
    · exact List.mem_append_right _ (List.mem_append_left ["externalReferences"] named)
  rw [ofKey_of_ne other, kind.position_common key listed]

end Role

/-! ## Edits -/

namespace Json

/-- A value, and the value with the members of one object in it edited. -/
inductive Edited (edit : Role → Members → Members → Prop) : Role → Json → Json → Prop
  | here {role : Role} {before after : Members} (edits : edit role before after) :
    Edited edit role (.obj before) (.obj after)
  | item {role : Role} (front back : List Json) {value other : Json}
    (inner : Edited edit role.item value other) :
    Edited edit role (.arr (front ++ value :: back)) (.arr (front ++ other :: back))
  | member {role : Role} (front back : Members) {key : String} {value other : Json}
    (inner : Edited edit (role.member (front ++ (key, value) :: back) key) value other) :
    Edited edit role (.obj (front ++ (key, value) :: back)) (.obj (front ++ (key, other) :: back))

/-- A value with the members of at most one object in it edited. -/
abbrev MaybeEdited (edit : Role → Members → Members → Prop) (role : Role) :
    Json → Json → Prop :=
  Relation.ReflGen (Edited edit role)

variable {edit : Role → Members → Members → Prop} {role : Role} {value other : Json}

theorem Edited.imp {wider : Role → Members → Members → Prop}
    (implies : ∀ role before after, edit role before after → wider role before after)
    (edited : Edited edit role value other) : Edited wider role value other := by
  induction edited with
  | here edits => exact .here (implies _ _ _ edits)
  | item front back _ ih => exact .item front back ih
  | member front back _ ih => exact .member front back ih

/-- If nothing that is plain is edited, then neither is anything in it. -/
theorem not_edited_plain (nothing : ∀ before after, ¬ edit .plain before after) :
    ¬ Edited edit .plain value other := by
  intro edited
  generalize standing : Role.plain = role at edited
  induction edited with
  | here edits =>
    subst standing
    exact nothing _ _ edits
  | item front back _ ih =>
    subst standing
    exact ih rfl
  | member front back _ ih =>
    subst standing
    exact ih rfl

theorem Edited.akin (edited : Edited edit role value other) : value.Akin other := by
  cases edited with
  | here => exact .objects _ _
  | item => exact .lists _ _
  | member => exact .objects _ _

namespace MaybeEdited

theorem akin (edited : MaybeEdited edit role value other) : value.Akin other := by
  cases edited with
  | refl => exact .same value
  | single step => exact step.akin

theorem eq_of_plain (nothing : ∀ before after, ¬ edit .plain before after)
    (edited : MaybeEdited edit .plain value other) : other = value := by
  cases edited with
  | refl => rfl
  | single step => exact (not_edited_plain nothing step).elim

/-- The items of an edited list are the same as before, or edited. -/
theorem items {before : List Json} (edited : MaybeEdited edit role (.arr before) other) :
    ∃ after, other = .arr after ∧ List.Forall₂ (MaybeEdited edit role.item) before after := by
  have same : ∀ list : List Json, List.Forall₂ (MaybeEdited edit role.item) list list :=
    fun _ => List.forall₂_same.2 fun _ _ => .refl
  cases edited with
  | refl => exact ⟨before, rfl, same before⟩
  | single step =>
    cases step with
    | item front back inner =>
      exact ⟨_, rfl, List.rel_append (same _) (.cons (.single inner) (same _))⟩

end MaybeEdited
end Json

/-! ## What is found in edited objects -/

section Members

variable {edit : Role → Members → Members → Prop} {role : Role} (front back : Members)
  {key : String} {value other : Json}

/-- Under each key of an object the same is found, or an edited value. -/
theorem Members.rel_find?_edited
    (inner : Json.Edited edit (role.member (front ++ (key, value) :: back) key) value other)
    (name : String) :
    Option.Rel (Json.MaybeEdited edit (role.member (front ++ (key, value) :: back) name))
      (Members.find? (front ++ (key, value) :: back) name)
      (Members.find? (front ++ (key, other) :: back) name) :=
  rel_find?_middle
    (fun name => Json.MaybeEdited edit (role.member (front ++ (key, value) :: back) name))
    (fun _ _ => .refl) front back inner.akin.isNull_eq (.single inner) name

end Members
end ContractTree
