import ContractTree.Document.Node

namespace ContractTree

/-!
# Tags are resolved exactly

The keys of tags are also keys of ordinary fields, and any value may stand under each of
them.  It is said here what the strings under these keys decide of an object, and shown that
an object is read as a node just if they decide so.

A string under `nodeType` decides alone.  Without one, the first of `name` and `kind` that
names a kind is the tag, and without a tag the first string is the one that is reported.
-/

namespace TagKey

/-- A string stands under a key. -/
def Says (key : TagKey) (members : Members) (text : String) : Prop :=
  members.find? key.text = some (.str text)

/-- Nothing that is a string stands under a key. -/
def Silent (key : TagKey) (members : Members) : Prop :=
  ∀ text, ¬ key.Says members text

/-- What stands under a key is not the tag of any kind. -/
def NamesNoKind (key : TagKey) (members : Members) : Prop :=
  ∀ kind : NodeKind, ¬ key.Says members kind.tag

/-- What the strings under the keys of tags decide of an object: its kind and the key of its
tag, or why it has none. -/
inductive Decides (members : Members) : Except ImportError (NodeKind × TagKey) → Prop where
  | nodeType {found : NodeKind} (stands : nodeType.Says members found.tag) :
    Decides members (.ok (found, .nodeType))
  /-- Nothing comes to the rescue of a string under `nodeType` that is no tag. -/
  | unsupported {tag : String} (stands : nodeType.Says members tag)
    (unknown : ∀ other : NodeKind, other.tag ≠ tag) :
    Decides members (.error (.unknownKind tag))
  | name {found : NodeKind} (silent : nodeType.Silent members)
    (stands : name.Says members found.tag) :
    Decides members (.ok (found, .name))
  | kind {found : NodeKind} (silent : nodeType.Silent members)
    (noName : name.NamesNoKind members) (stands : kind.Says members found.tag) :
    Decides members (.ok (found, .kind))
  /-- If there is no tag, the first string is reported, and `name` comes before `kind`. -/
  | unknownName {tag : String} (silent : nodeType.Silent members)
    (noName : name.NamesNoKind members) (noKind : kind.NamesNoKind members)
    (stands : name.Says members tag) :
    Decides members (.error (.unknownKind tag))
  | unknownKind {tag : String} (silent : nodeType.Silent members)
    (nameless : name.Silent members) (noKind : kind.NamesNoKind members)
    (stands : kind.Says members tag) :
    Decides members (.error (.unknownKind tag))
  | untagged (silent : ∀ key : TagKey, key.Silent members) :
    Decides members
      (.error (.schemaViolation ⟨none, idBeside? members⟩ (.missingField "nodeType")))

variable {members : Members} {key : TagKey}

theorem string?_eq_some_iff {text : String} :
    key.string? members = some text ↔ key.Says members text := by
  unfold string? Says
  cases members.find? key.text with
  | none => simp
  | some value => cases value <;> simp [Json.asString?]

theorem string?_eq_none_iff : key.string? members = none ↔ key.Silent members := by
  rw [Option.eq_none_iff_forall_ne_some]
  exact forall_congr' fun text => not_congr string?_eq_some_iff

theorem kind?_eq_some_iff {found : NodeKind} :
    key.kind? members = some found ↔ key.Says members found.tag := by
  rw [kind?, Option.bind_eq_some_iff, ← string?_eq_some_iff]
  constructor
  · rintro ⟨tag, stands, named⟩
    rw [stands, NodeKind.ofTag?_eq_some_iff.1 named]
  · intro stands
    exact ⟨found.tag, stands, NodeKind.ofTag?_tag found⟩

theorem kind?_eq_none_iff : key.kind? members = none ↔ key.NamesNoKind members := by
  rw [Option.eq_none_iff_forall_ne_some]
  exact forall_congr' fun found => not_congr kind?_eq_some_iff

/-- What is said under a key that names no kind is not the tag of one. -/
theorem NamesNoKind.ofTag?_eq_none (none : key.NamesNoKind members) {tag : String}
    (stands : key.Says members tag) : NodeKind.ofTag? tag = .none := by
  rw [NodeKind.ofTag?_eq_none_iff]
  rintro kind rfl
  exact none kind stands

/-- Whatever stands under the keys of tags, something is decided, and the tag is resolved to
it. -/
theorem decides_resolve (members : Members) : Decides members (resolve members) := by
  unfold resolve
  split
  · next tag stands =>
    have stands := string?_eq_some_iff.1 stands
    split
    · next found named =>
      rw [← NodeKind.ofTag?_eq_some_iff.1 named] at stands
      exact .nodeType stands
    · next unknown => exact .unsupported stands (NodeKind.ofTag?_eq_none_iff.1 unknown)
  · next silent =>
    have silent := string?_eq_none_iff.1 silent
    split
    · next found named => exact .name silent (kind?_eq_some_iff.1 named)
    · next noName =>
      have noName := kind?_eq_none_iff.1 noName
      split
      · next found named => exact .kind silent noName (kind?_eq_some_iff.1 named)
      · next noKind =>
        have noKind := kind?_eq_none_iff.1 noKind
        split
        · next tag first =>
          rcases Option.or_eq_some_iff.1 first with stands | ⟨nameless, stands⟩
          · exact .unknownName silent noName noKind (string?_eq_some_iff.1 stands)
          · exact .unknownKind silent (string?_eq_none_iff.1 nameless) noKind
              (string?_eq_some_iff.1 stands)
        · next strings =>
          rw [Option.or_eq_none_iff] at strings
          refine .untagged fun key => ?_
          cases key with
          | nodeType => exact silent
          | name => exact string?_eq_none_iff.1 strings.1
          | kind => exact string?_eq_none_iff.1 strings.2

/-- A silent key names no kind. -/
theorem Silent.namesNoKind (silent : key.Silent members) : key.NamesNoKind members :=
  fun kind => silent kind.tag

/-- No two things are decided of an object. -/
theorem Decides.resolve_eq {result : Except ImportError (NodeKind × TagKey)}
    (decides : Decides members result) : resolve members = result := by
  cases decides with
  | nodeType stands =>
    simp only [resolve, string?_eq_some_iff.2 stands, NodeKind.ofTag?_tag]
  | unsupported stands unknown =>
    simp only [resolve, string?_eq_some_iff.2 stands, NodeKind.ofTag?_eq_none_iff.2 unknown]
  | name silent stands =>
    simp only [resolve, string?_eq_none_iff.2 silent, kind?_eq_some_iff.2 stands]
  | kind silent noName stands =>
    simp only [resolve, string?_eq_none_iff.2 silent, kind?_eq_none_iff.2 noName,
      kind?_eq_some_iff.2 stands]
  | unknownName silent noName noKind stands =>
    simp only [resolve, string?_eq_none_iff.2 silent, kind?_eq_none_iff.2 noName,
      kind?_eq_none_iff.2 noKind, string?_eq_some_iff.2 stands, Option.some_or]
  | unknownKind silent nameless noKind stands =>
    simp only [resolve, string?_eq_none_iff.2 silent, kind?_eq_none_iff.2 nameless.namesNoKind,
      kind?_eq_none_iff.2 noKind, string?_eq_none_iff.2 nameless, string?_eq_some_iff.2 stands,
      Option.none_or]
  | untagged silent =>
    simp only [resolve, string?_eq_none_iff.2 (silent _),
      kind?_eq_none_iff.2 (silent _).namesNoKind, Option.none_or]

/-- A tag is resolved to what the strings under the keys of tags decide. -/
theorem resolve_eq_iff {result : Except ImportError (NodeKind × TagKey)} :
    resolve members = result ↔ Decides members result := by
  constructor
  · rintro rfl
    exact decides_resolve members
  · exact Decides.resolve_eq

end TagKey

/-! ## Objects that are read -/

namespace DocumentNode

variable {members : Members}

theorem ofJson?_obj (members : Members) : ofJson? (.obj members) =
    (TagKey.resolve members).map fun tag => ⟨members, tag.1, tag.2⟩ := by
  rw [ofJson?]
  cases TagKey.resolve members <;> rfl

theorem ofJson?_eq_ok_iff {document : DocumentNode} :
    ofJson? (.obj members) = .ok document ↔ document.members = members ∧
      TagKey.Decides members (.ok (document.kind, document.tagKey)) := by
  rw [← TagKey.resolve_eq_iff, ofJson?_obj]
  cases TagKey.resolve members with
  | error cause => exact iff_of_false (fun same => nomatch same) (fun both => nomatch both.2)
  | ok tag =>
    constructor
    · intro same
      cases same
      exact ⟨rfl, rfl⟩
    · rintro ⟨rfl, same⟩
      cases same
      rfl

theorem ofJson?_eq_error_iff {cause : ImportError} :
    ofJson? (.obj members) = .error cause ↔ TagKey.Decides members (.error cause) := by
  rw [← TagKey.resolve_eq_iff, ofJson?_obj]
  cases TagKey.resolve members with
  | error other => rw [Except.map, Except.error.injEq, Except.error.injEq]
  | ok tag => exact iff_of_false (fun same => nomatch same) (fun same => nomatch same)

end DocumentNode
end ContractTree
