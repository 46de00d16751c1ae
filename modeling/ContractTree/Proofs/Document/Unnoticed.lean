import ContractTree.Proofs.Document.Respelled
import ContractTree.Proofs.Document.Roles
import ContractTree.Proofs.Form.Keys

namespace ContractTree

/-!
# Edits that are not noticed

An edit of an object is not noticed if the same is found in the object afterwards under
all keys that are looked up in it.  For a node these are the keys of its kind, on the
object and among its attributes, and its tag has to be the same, or what is wrong with
it.  In a node whose tag names no kind nothing else is looked up.

An object that is edited further inside is itself read alike: it has the same tag, and
under its keys the same values or edited ones.
-/

/-- An edit of an object of a role that is not noticed. -/
def Role.Unnoticed : Role → Members → Members → Prop
  | of .node, before, after => TagKey.resolve after = TagKey.resolve before ∧
      ∀ kind, before.resolvedKind? = some kind →
        before.AgreeOn kind.keys after ∧ before.attributes.AgreeOn kind.keys after.attributes
  | of (.attributes kind), before, after =>
    ∀ known, kind = some known → before.AgreeOn known.keys after
  | of .symbolAlias, before, after => before.AgreeOn ["foreign", "local"] after
  | info, before, after => before.AgreeOn ExternalReference.keys after
  | _, _, _ => False

/-- Two values of which the one is the other with at most one edit that is not noticed. -/
abbrev Json.ReadsLike (role : Role) : Json → Json → Prop :=
  MaybeEdited Role.Unnoticed role

theorem Json.ReadsLike.eq_of_plain {value other : Json} (like : ReadsLike .plain value other) :
    other = value :=
  MaybeEdited.eq_of_plain (fun _ _ impossible => impossible) like

/-- Nothing is edited in what is found under the keys that all nodes have. -/
theorem Json.ReadsLike.eq_of_common {kind : NodeKind} {key : String} {found image : Option Json}
    (common : key ∈ reservedKeys ++ ["id", "src", "documentation", "typeDescriptions"])
    (like : Option.Rel (ReadsLike (.ofKey kind key)) found image) : image = found := by
  rw [Role.ofKey_common common] at like
  exact Option.eq_of_rel (fun _ _ => eq_of_plain) like

/-! ## Objects that are read alike -/

/-- The tag of a node, or what is wrong with it, is told by the strings under the keys of
tags and by the identifier. -/
theorem TagKey.resolve_congr {before after : Members}
    (strings : ∀ key, string? after key = string? before key)
    (ids : idBeside? after = idBeside? before) : resolve after = resolve before := by
  unfold resolve kind?
  rw [strings, strings, strings, ids]

namespace Members

/-- Two objects with the same tag in which, under the keys of their kind, values are found
that are read alike. -/
structure ReadsLike (before after : Members) : Prop where
  resolve_eq : TagKey.resolve after = TagKey.resolve before
  own : ∀ kind, before.resolvedKind? = some kind → ∀ key ∈ kind.keys,
    Option.Rel (Json.ReadsLike (.ofKey kind key)) (before.find? key) (after.find? key)
  nested : ∀ kind, before.resolvedKind? = some kind → ∀ key ∈ kind.keys,
    Option.Rel (Json.ReadsLike (.ofKey kind key)) (before.attributes.find? key)
      (after.attributes.find? key)

section Edited

variable (front back : Members) {key : String} {value other : Json} {role : Role}

/-- A value in an object may be edited without a change to the tag of the object. -/
theorem resolve_edited
    (inner : Json.Edited Role.Unnoticed (role.member (front ++ (key, value) :: back) key) value
      other) :
    TagKey.resolve (front ++ (key, other) :: back) =
      TagKey.resolve (front ++ (key, value) :: back) := by
  have found := rel_find?_edited front back inner
  refine TagKey.resolve_congr (fun tagKey => ?_) ?_
  · exact Option.bind_eq_of_rel (fun _ _ like => like.akin.asString?_eq) (found tagKey.text)
  · have ids := Option.bind_eq_of_rel (fun _ _ like => like.akin.asInt?_eq) (found "id")
    rw [TagKey.idBeside?, ids, TagKey.idBeside?]

/-- If the attributes of a node are edited, or a value among them, then values that are
read alike are found there. -/
theorem rel_attributes_edited {kind : NodeKind}
    (inner : Json.Edited Role.Unnoticed (.of (.attributes (some kind))) value other)
    {name : String} (listed : name ∈ kind.keys) :
    Option.Rel (Json.ReadsLike (.ofKey kind name))
      ((attributes (front ++ ("attributes", value) :: back)).find? name)
      ((attributes (front ++ ("attributes", other) :: back)).find? name) := by
  have same : ∀ found, Option.Rel (Json.ReadsLike (.ofKey kind name)) found found :=
    Option.rel_refl fun _ => .refl
  rw [attributes, attributes, find?_append, find?_append]
  cases front.find? "attributes" with
  | some earlier => exact same _
  | none =>
    cases inner with
    | @here _ before after edits =>
      change Option.Rel _ (before.find? name) (after.find? name)
      rw [edits kind rfl name listed]
      exact same _
    | item => exact same _
    | member first last below => exact rel_find?_edited first last below name

/-- An edit of a node, or of what is in it, that is not noticed leaves an object that is
read alike. -/
theorem readsLike_of_edited {before : Members} {image : Json}
    (edited : Json.Edited Role.Unnoticed .node (.obj before) image) :
    ∃ after : Members, image = .obj after ∧ before.ReadsLike after := by
  have same : ∀ role found, Option.Rel (Json.ReadsLike role) found found :=
    fun _ => Option.rel_refl fun _ => .refl
  cases edited with
  | @here _ _ after edits =>
    rcases edits with ⟨resolve_eq, agrees⟩
    refine ⟨after, rfl, resolve_eq, fun kind resolved key listed => ?_,
      fun kind resolved key listed => ?_⟩
    · rw [(agrees kind resolved).1 key listed]
      exact same _ _
    · rw [(agrees kind resolved).2 key listed]
      exact same _ _
  | @member _ front back key value other inner =>
    refine ⟨_, rfl, resolve_edited front back inner, fun kind resolved name listed => ?_,
      fun kind resolved name listed => ?_⟩
    · have field : name ≠ "attributes" := by
        rintro rfl
        exact kind.attributes_not_mem_keys listed
      have found := rel_find?_edited front back inner name
      rwa [Role.member_node_of_ne resolved field] at found
    · by_cases grouping : key = "attributes"
      · subst grouping
        rw [Role.member, if_pos rfl, resolved] at inner
        exact rel_attributes_edited front back inner listed
      · rw [attributes_middle grouping, attributes_middle grouping]
        exact same _ _

end Edited
end Members

/-! ## Aliases that are read alike -/

/-- In aliases that are read alike the local names are the same, and the foreign values
are read alike. -/
theorem Json.ReadsLike.alias {item image : Json} (like : item.ReadsLike (.of .symbolAlias) image) :
    Option.Rel (fun members others : Members =>
        Option.Rel (Json.ReadsLike .node) (members.find? "foreign") (others.find? "foreign") ∧
          others.find? "local" = members.find? "local")
      item.asObject? image.asObject? := by
  have same : ∀ found, Option.Rel (Json.ReadsLike .node) found found :=
    Option.rel_refl fun _ => .refl
  cases like with
  | refl => exact Option.rel_refl (fun _ => ⟨same _, rfl⟩) _
  | single step =>
    cases step with
    | here agrees =>
      refine .some ⟨?_, agrees "local" (by decide)⟩
      rw [agrees "foreign" (by decide)]
      exact same _
    | item => exact .none
    | member front back inner =>
      have found := Members.rel_find?_edited front back inner
      refine .some ⟨found "foreign", ?_⟩
      exact Option.eq_of_rel (fun _ _ => eq_of_plain) (found "local")

/-! ## References that are read alike -/

namespace ExternalReference

variable {source : SourceName}

theorem read_of_length_ne {members : Members} (several : members.length ≠ 1) :
    read source (.obj members) = throw (.wrongType "externalReferences" .referenceList) := by
  unfold read
  split
  · next whole =>
    cases whole
    exact absurd rfl several
  · rfl

/-- References that are read alike read the same, or are wrong in the same way. -/
theorem read_readsLike {item image : Json} (like : item.ReadsLike .reference image) :
    read source image = read source item := by
  cases like with
  | refl => rfl
  | single step =>
    cases step with
    | here impossible => exact impossible.elim
    | item => rfl
    | @member _ front back key value other inner =>
      by_cases alone : front = [] ∧ back = []
      · rcases alone with ⟨rfl, rfl⟩
        cases inner with
        | here agrees => exact read_congr agrees
        | item => rfl
        | member first last below =>
          exact (Json.not_edited_plain (fun _ _ impossible => impossible) below).elim
      · have several : ∀ value : Json, (front ++ (key, value) :: back).length ≠ 1 := by
          intro value single
          rw [List.length_append, List.length_cons] at single
          exact alone ⟨List.length_eq_zero_iff.1 (by omega), List.length_eq_zero_iff.1 (by omega)⟩
        rw [read_of_length_ne (several value), read_of_length_ne (several other)]

end ExternalReference
end ContractTree
