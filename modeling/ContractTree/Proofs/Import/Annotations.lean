import ContractTree.Proofs.Import.Edits
import ContractTree.Tree.Equality

namespace ContractTree

/-!
# Annotations

Exporters say more about a node than a tree can hold: where it is declared and what it
refers to, its scope, its type and so on, and each exporter says other things.  Such an
annotation is a member under a key that is not looked up in nodes of the kind.  If the
kind is given by a tag under `nodeType`, then this goes for `name` and `kind` as well,
which would otherwise be asked for a tag.

Annotations have no influence on an import, whatever they are.  They may look like nodes,
or like nodes with something wrong with them, and still they are never looked at.
-/

namespace Members

/-- The members under some keys. -/
def only (members : Members) (keys : List String) : Members :=
  members.filter fun entry => entry.1 ∈ keys

theorem find?_only {members : Members} {keys : List String} {key : String} (listed : key ∈ keys) :
    (members.only keys).find? key = members.find? key := by
  induction members with
  | nil => rfl
  | cons entry rest ih =>
    rcases entry with ⟨name, value⟩
    rw [only, List.filter_cons]
    split
    · change find? ((name, value) :: only rest keys) key = _
      rw [find?, find?, ih]
    · next dropped =>
      have other : name ≠ key := by
        rintro rfl
        exact dropped (decide_eq_true listed)
      rw [find?, if_neg fun both => other both.1]
      exact ih

/-- If the members under some keys are the same, the same is found under these. -/
theorem agreeOn_of_only_eq {before after : Members} {keys kept : List String}
    (same : after.only kept = before.only kept) (listed : ∀ key ∈ keys, key ∈ kept) :
    before.AgreeOn keys after := by
  intro key member
  rw [← find?_only (listed key member), same, find?_only (listed key member)]

end Members

/-- The keys that are no annotations in a node with a tag under `nodeType`, of a kind if
the tag names one, nor in its attributes. -/
def NodeKind.unannotatedKeys (kind : Option NodeKind) : List String :=
  "nodeType" :: "attributes" :: "id" :: "src" :: (kind.map NodeKind.keys).getD []

theorem NodeKind.mem_unannotatedKeys {kind : NodeKind} {key : String} (listed : key ∈ kind.keys) :
    key ∈ unannotatedKeys (some kind) :=
  List.mem_append_right ["nodeType", "attributes", "id", "src"] listed

/-- Some annotations of a node, or some in its attributes, are added, changed or left out:
the other members are the same. -/
inductive Role.Annotated : Role → Members → Members → Prop where
  | node {tag : String} {before after : Members}
    (tagged : TagKey.nodeType.string? before = some tag)
    (kept : after.only (NodeKind.unannotatedKeys (NodeKind.ofTag? tag)) =
      before.only (NodeKind.unannotatedKeys (NodeKind.ofTag? tag))) :
    Annotated .node before after
  | attributes {kind : Option NodeKind} {before after : Members}
    (kept : after.only (NodeKind.unannotatedKeys kind) =
      before.only (NodeKind.unannotatedKeys kind)) :
    Annotated (.of (.attributes kind)) before after

/-- A change of annotations is not noticed. -/
theorem Role.Annotated.unnoticed {role : Role} {before after : Members}
    (annotated : role.Annotated before after) : role.Unnoticed before after := by
  cases annotated with
  | @node tag _ _ tagged kept =>
    have agrees : before.AgreeOn ["nodeType", "attributes"] after :=
      Members.agreeOn_of_only_eq kept fun key member => List.mem_append_left _ member
    have retagged : TagKey.nodeType.string? after = some tag := by
      rw [← tagged, TagKey.string?, agrees _ (by decide), TagKey.string?]
    have attributes : after.attributes = before.attributes := by
      rw [Members.attributes, agrees _ (by decide), Members.attributes]
    have resolved := TagKey.resolve_of_nodeType tagged
    refine ⟨(TagKey.resolve_of_nodeType retagged).trans resolved.symm, fun kind known => ?_⟩
    have named : NodeKind.ofTag? tag = some kind := by
      rw [Members.resolvedKind?, resolved, TagKey.resolveTag] at known
      cases found : NodeKind.ofTag? tag with
      | none =>
        rw [found] at known
        cases known
      | some kind =>
        rw [found] at known
        exact known
    rw [named] at kept
    refine ⟨Members.agreeOn_of_only_eq kept fun _ => NodeKind.mem_unannotatedKeys, ?_⟩
    rw [attributes]
    exact fun _ _ => rfl
  | attributes kept =>
    rintro kind rfl
    exact Members.agreeOn_of_only_eq kept fun _ => NodeKind.mem_unannotatedKeys

/-- Whatever annotations are added to the nodes of a document and to their attributes,
changed or left out, the document is imported with the same result, be it a tree or an
error. -/
theorem importUnit_annotated (settings : Settings) {document other : Json}
    (annotated : Relation.ReflTransGen (Json.Edited Role.Annotated .node) document other) :
    importUnit settings other = importUnit settings document :=
  importUnit_edits settings (fun _ _ _ => Role.Annotated.unnoticed) annotated

/-! ## A unit with annotations of all sorts -/

/-- An enumeration with some members of its own and some among its attributes. -/
def notedEnum (own among : Members) : Json :=
  .obj ([("nodeType", .str "EnumDefinition"), ("id", .int 2), ("src", .str "0:20"),
    ("attributes", .obj (("name", .str "E") :: among)),
    ("members", .arr [.obj [("nodeType", .str "EnumValue"), ("id", .int 3), ("src", .str "9:10"),
      ("name", .str "A")]])] ++ own)

def notedUnit (enum : Json) : Json :=
  .obj [("nodeType", .str "SourceUnit"), ("id", .int 1), ("src", .str "0:40"),
    ("nodes", .arr [enum])]

def notedTree : Node :=
  ⟨1, ⟨"a.sol", ⟨0, 40⟩⟩, .declaration (.sourceUnit none [
    ⟨2, ⟨"a.sol", ⟨0, 20⟩⟩, .declaration (.enumDefinition "E" [
      ⟨3, ⟨"a.sol", ⟨9, 10⟩⟩, .declaration (.enumValue "A")⟩])⟩])⟩

/-- A tag of another kind, a node whose identifier is in use, one of no known kind and one
that lacks everything. -/
def strangeNotes : Members :=
  [("kind", .str "Literal"),
    ("scope", .obj [("nodeType", .str "EnumValue"), ("id", .int 3), ("src", .str "0:1"),
      ("name", .str "B")]),
    ("overloads", .arr [.obj [("nodeType", .str "Mystery")],
      .obj [("nodeType", .str "FunctionDefinition")]])]

theorem notedUnit_annotated :
    Relation.ReflTransGen (Json.Edited Role.Annotated .node)
      (notedUnit (notedEnum [] [("kind", .null)]))
      (notedUnit (notedEnum strangeNotes strangeNotes)) := by
  have inUnit : ∀ {before after : Json}, Json.Edited Role.Annotated .node before after →
      Json.Edited Role.Annotated .node (notedUnit before) (notedUnit after) :=
    fun inner => .member [("nodeType", .str "SourceUnit"), ("id", .int 1), ("src", .str "0:40")] []
      (.item [] [] inner)
  have own : Json.Edited Role.Annotated .node (notedEnum [] [("kind", .null)])
      (notedEnum strangeNotes [("kind", .null)]) :=
    .here (.node rfl rfl)
  have among : Json.Edited Role.Annotated .node (notedEnum strangeNotes [("kind", .null)])
      (notedEnum strangeNotes strangeNotes) :=
    .member [("nodeType", .str "EnumDefinition"), ("id", .int 2), ("src", .str "0:20")] _
      (.here (.attributes rfl))
  exact .tail (.tail .refl (inUnit own)) (inUnit among)

/-- The annotations make no difference, also where identifiers are checked. -/
theorem importUnit_annotated_notedUnit :
    importUnit { source := "a.sol", rejectDuplicateIds := true }
        (notedUnit (notedEnum [] [("kind", .null)])) = .ok notedTree ∧
      importUnit { source := "a.sol", rejectDuplicateIds := true }
        (notedUnit (notedEnum strangeNotes strangeNotes)) = .ok notedTree := by
  have imported : importUnit { source := "a.sol", rejectDuplicateIds := true }
      (notedUnit (notedEnum [] [("kind", .null)])) = .ok notedTree := by
    decide +kernel
  exact ⟨imported, (importUnit_annotated _ notedUnit_annotated).trans imported⟩

end ContractTree
