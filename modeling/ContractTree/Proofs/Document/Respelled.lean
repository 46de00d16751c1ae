import ContractTree.Proofs.Document.Spelling
import ContractTree.Proofs.Document.Types

namespace ContractTree

/-!
# What is found in a respelled node

If a node is rewritten, the same is found in it under all keys but those of its spelling.
If a node below it is rewritten, the same is found in it under all keys, with that node
rewritten in one of the values.  Texts, numbers and flags have no node in them, and what
is read from the references of inline assembly is never part of a spelling.
-/

/-! ## Nodes that are rewritten -/

section Rewritten

variable {before after : Members} {kind : NodeKind} {changes : List FieldChange} {key : String}

theorem TagKey.resolve_of_kind? (tagged : TagKey.nodeType.kind? before = some kind) :
    TagKey.resolve before = .ok (kind, .nodeType) := by
  rcases Option.bind_eq_some_iff.1 tagged with ⟨tag, stands, named⟩
  rw [resolve_of_nodeType stands, resolveTag, named]

theorem DocumentNode.ofJson?_of_kind? (tagged : TagKey.nodeType.kind? before = some kind) :
    ofJson? (.obj before) = .ok ⟨before, kind, .nodeType⟩ := by
  rw [ofJson?, TagKey.resolve_of_kind? tagged]

/-- If both places are asked, a scalar is found wherever it stands. -/
theorem DocumentNode.scalar?_auto (members : Members) (kind : NodeKind) (other : key ≠ "nodeType") :
    (DocumentNode.mk members kind .nodeType).scalar? .auto key = members.field? key := by
  have inline : (DocumentNode.mk members kind .nodeType).inline? key = members.find? key :=
    if_neg other
  change (DocumentNode.inline? _ key).or _ = _
  rw [inline]
  rfl

namespace Members.Rewritten

variable (rewritten : before.Rewritten changes after)

include rewritten

/-- No rewriting changes the tag. -/
theorem kind?_eq (untagged : "nodeType" ∉ changes.map FieldChange.key) :
    TagKey.nodeType.kind? after = TagKey.nodeType.kind? before := by
  rw [TagKey.kind?, TagKey.string?, TagKey.text, (rewritten.kept _ untagged (by decide)).1]
  rfl

theorem field?_eq {key : String} (kept : key ∉ changes.map FieldChange.key)
    (field : key ≠ "attributes") : after.field? key = before.field? key := by
  rcases rewritten.kept key kept field with ⟨own, nested⟩
  rw [Members.field?, own, nested, Members.field?]

end Members.Rewritten

end Rewritten

/-! ### Members put in place of each other -/

section Exchanged

variable {front back : Members} {key name : String} {value other : Json} {kind : NodeKind}
  {changes : List FieldChange}

theorem Members.field?_middle_of_ne (plain : key ≠ "attributes") (different : name ≠ key) :
    Members.field? (front ++ (key, value) :: back) name = Members.field? (front ++ back) name := by
  rw [field?, find?_middle_of_ne different, attributes_middle plain, field?]

theorem Members.field?_middle (missing : Members.field? (front ++ back) key = none)
    (solid : value.isNull = false) :
    Members.field? (front ++ (key, value) :: back) key = some value := by
  rcases Option.or_eq_none_iff.1 missing with ⟨nowhere, _⟩
  rw [find?_append] at nowhere
  rw [field?, find?_append, (Option.or_eq_none_iff.1 nowhere).1, find?, if_pos ⟨rfl, solid⟩]
  rfl

/-- The keys of a spelling are not those of the tag and the attributes, and no key is
mentioned twice. -/
theorem Spelling.nodup_keys (spelling : Spelling kind changes) :
    ("nodeType" :: "attributes" :: changes.map FieldChange.key).Nodup := by
  cases spelling <;> simp

/-- A node is rewritten if the member under one key of its spelling is put in the place of
the member under the other key. -/
theorem Json.respelled_of_exchange (front back : Members)
    (spelling : Spelling kind [⟨key, some value, none⟩, ⟨name, none, some other⟩])
    (tagged : TagKey.nodeType.kind? (front ++ (key, value) :: back) = some kind)
    (noKey : Members.field? (front ++ back) key = none)
    (noName : Members.field? (front ++ back) name = none)
    (solid : value.isNull = false ∧ other.isNull = false) :
    Respelled (.obj (front ++ (key, value) :: back)) (.obj (front ++ (name, other) :: back)) := by
  have apart : ["nodeType", "attributes", key, name].Nodup := spelling.nodup_keys
  simp only [List.nodup_cons, List.mem_cons, not_or] at apart
  rcases apart with ⟨_, ⟨plain_key, plain_name, _⟩, ⟨different, _⟩, _⟩
  refine .node tagged spelling ⟨fun {found old new} member => ?_, fun found kept _ => ?_⟩
  · rcases List.mem_cons.1 member with same | later
    · cases same
      exact ⟨Members.field?_middle noKey solid.1,
        (Members.field?_middle_of_ne (Ne.symm plain_name) different).trans noKey⟩
    · cases List.mem_singleton.1 later
      exact ⟨(Members.field?_middle_of_ne (Ne.symm plain_key) (Ne.symm different)).trans noName,
        Members.field?_middle noName solid.2⟩
  · have elsewhere : found ∉ [key, name] := kept
    simp only [List.mem_cons, List.not_mem_nil, or_false, not_or] at elsewhere
    rw [Members.find?_middle_of_ne elsewhere.1, Members.find?_middle_of_ne elsewhere.2,
      Members.attributes_middle (Ne.symm plain_key), Members.attributes_middle (Ne.symm plain_name)]
    exact ⟨rfl, rfl⟩

end Exchanged

/-! ## Values without nodes -/

namespace Json

variable {value other : Json}

theorem isAtom_of_isString (string : value.isString = true) : value.IsAtom := by
  cases value <;> first | exact ⟨rfl, rfl⟩ | cases string

theorem isAtom_of_isBoolean (boolean : value.isBoolean = true) : value.IsAtom := by
  cases value <;> first | exact ⟨rfl, rfl⟩ | cases boolean

theorem isAtom_of_isIdentifier (identifier : value.isIdentifier = true) : value.IsAtom := by
  cases value <;> first | exact ⟨rfl, rfl⟩ | cases identifier

theorem isAtom_of_isSize (size : value.isSize = true) : value.IsAtom := by
  cases value <;> first | exact ⟨rfl, rfl⟩ | cases size

end Json

/-- A list of texts has no nodes in it. -/
theorem Json.MaybeRespelled.eq_of_texts {value other : Json}
    (respelled : value.MaybeRespelled other) (texts : value.isListOf Json.isString = true) :
    other = value := by
  cases value with
  | arr items =>
    rcases respelled.items with ⟨others, rfl, each⟩
    have strings : ∀ item ∈ items, item.isString = true := List.all_eq_true.1 texts
    have same : List.Forall₂ Eq items others :=
      ((List.forall₂_and_left _ _).2 ⟨strings, each⟩).imp fun item other both =>
        (both.2.eq_of_atom (isAtom_of_isString both.1)).symm
    rw [List.forall₂_eq_eq_eq] at same
    rw [same]
  | _ => cases texts

/-- What is found is an atom if all that may be found is one. -/
theorem isAtom_of_all {found : Option Json} {holds : Json → Bool}
    (all : found.all holds = true) (atoms : ∀ value : Json, holds value = true → value.IsAtom) :
    ∀ value, found = some value → value.IsAtom := by
  rintro value rfl
  exact atoms value all

/-! ## References of inline assembly -/

/-- The keys that are looked up in what is said of a reference. -/
def ExternalReference.keys : List String :=
  ["declaration", "valueSize", "src", "isOffset", "isSlot"]

/-- What is read of a reference depends on what is found under its keys. -/
theorem ExternalReference.read_congr {source : SourceName} {name : String} {info other : Members}
    (same : info.AgreeOn keys other) :
    read source (.obj [(name, .obj other)]) = read source (.obj [(name, .obj info)]) := by
  simp only [read, readDeclaration?, readValueSize, readLocation?, readFlag,
    same "declaration" (by decide), same "valueSize" (by decide), same "src" (by decide),
    same "isOffset" (by decide), same "isSlot" (by decide)]

/-- An object that has one object in it still has when a node is respelled. -/
theorem Json.MaybeRespelled.singleton {name : String} {info : Members} {image : Json}
    (respelled : MaybeRespelled (.obj [(name, .obj info)]) image) :
    ∃ other : Members, image = .obj [(name, .obj other)] ∧
      ∀ key ∈ unspelledKeys, Members.Alike (info.find? key) (other.find? key) := by
  cases respelled with
  | refl => exact ⟨info, rfl, fun _ _ => .refl _⟩
  | single step =>
    generalize whole : [(name, Json.obj info)] = members at step
    cases step with
    | node tagged =>
      -- What stands under the only key is no text, so there is no tag.
      rcases Option.bind_eq_some_iff.1 tagged with ⟨tag, stands, _⟩
      rcases Option.bind_eq_some_iff.1 stands with ⟨value, found, isText⟩
      rw [← whole] at found
      cases List.mem_singleton.1 (Members.mem_of_find? found)
      cases isText
    | member front back field inner =>
      rcases List.append_eq_singleton_iff.1 whole.symm with ⟨rfl, same⟩ | ⟨_, impossible⟩
      · cases same
        rcases MaybeRespelled.members (.single inner) with ⟨other, rfl, alike⟩
        exact ⟨other, rfl, alike⟩
      · cases impossible
    | nested front back first last inner =>
      rcases List.append_eq_singleton_iff.1 whole.symm with ⟨rfl, same⟩ | ⟨_, impossible⟩
      · cases same
        exact ⟨_, rfl, fun key _ => Members.alike_append first last inner key⟩
      · cases impossible

/-- A reference of inline assembly reads the same when a node in it is respelled. -/
theorem ExternalReference.read_eq {source : SourceName} {item image : Json}
    (respelled : item.MaybeRespelled image) (reference : item.isReference = true) :
    read source image = read source item := by
  unfold Json.isReference at reference
  split at reference
  · next name info =>
    rcases respelled.singleton with ⟨other, rfl, alike⟩
    simp only [Bool.and_eq_true] at reference
    rcases reference with ⟨⟨⟨⟨declaration, valueSize⟩, src⟩, isOffset⟩, isSlot⟩
    have same : ∀ key ∈ unspelledKeys,
        (∀ value, Members.find? info key = some value → value.IsAtom) →
          other.find? key = Members.find? info key :=
      fun key listed atom => (alike key listed).eq_of_eq fun value _ found same =>
        same.eq_of_atom (atom value found)
    refine read_congr ?_
    simp only [keys, Members.AgreeOn, List.forall_mem_cons, List.not_mem_nil, false_imp_iff,
      implies_true, and_true]
    exact ⟨same "declaration" (by decide)
        (isAtom_of_all declaration fun _ => Json.isAtom_of_isIdentifier),
      same "valueSize" (by decide) (isAtom_of_all valueSize fun _ => Json.isAtom_of_isSize),
      same "src" (by decide) (isAtom_of_all src fun _ => Json.isAtom_of_isString),
      same "isOffset" (by decide) (isAtom_of_all isOffset fun _ => Json.isAtom_of_isBoolean),
      same "isSlot" (by decide) (isAtom_of_all isSlot fun _ => Json.isAtom_of_isBoolean)⟩
  · cases reference

/-- A step that gives the same for the items of two lists one by one gives the same for
the lists. -/
theorem List.mapM_eq_of_forall₂ {m : Type → Type} [Monad m] [LawfulMonad m] {α β : Type}
    {step : α → m β} {items others : List α}
    (each : List.Forall₂ (fun item other => step other = step item) items others) :
    others.mapM step = items.mapM step := by
  induction each with
  | nil => rfl
  | cons here _ ih => rw [List.mapM_cons, List.mapM_cons, here, ih]

/-! ## Nodes with a respelled node below them -/

namespace DocumentNode

/-- Two nodes that differ in one of the nodes below them. -/
structure Respelled (layout : FieldLayout) (document image : DocumentNode) : Prop where
  kind_eq : image.kind = document.kind
  structural : ∀ key, key ≠ "attributes" →
    Members.Alike (document.structural? key) (image.structural? key)
  scalar : ∀ key, key ≠ "attributes" →
    Members.Alike (document.scalar? layout key) (image.scalar? layout key)

/-- With a node below it rewritten a node has its tag, and differs in that node only. -/
theorem respelled_of_members {document : DocumentNode} {members others : Members}
    (read : ofJson? (.obj members) = .ok document) (respelled : members.Respelled others) :
    ofJson? (.obj others) = .ok { document with members := others } ∧
      ∀ layout, document.Respelled layout { document with members := others } := by
  have same : members = document.members := Json.obj.inj (ofJson?_eq_ok read)
  subst same
  have tags : ∀ tagKey : TagKey, tagKey.string? others = tagKey.string? document.members :=
    fun tagKey => (respelled.own tagKey.text TagKey.text_ne_attributes).string?_eq
  refine ⟨?_, fun layout => ⟨rfl, fun key field => ?_, fun key field => ?_⟩⟩
  · rw [ofJson?, TagKey.resolve_of_string? tags (resolve_of_ofJson? read)]
  · exact Option.rel_or (respelled.own key field) (respelled.nested key)
  · have inline : Members.Alike (document.inline? key)
        (if key = document.tagKey.text then none else others.find? key) := by
      unfold inline?
      split
      · exact .none
      · exact respelled.own key field
    unfold scalar?
    cases layout with
    | inline => exact inline
    | nested => exact respelled.nested key
    | auto =>
      dsimp only
      split
      · exact Option.rel_or (respelled.nested key) inline
      · exact Option.rel_or inline (respelled.nested key)

end DocumentNode
end ContractTree
