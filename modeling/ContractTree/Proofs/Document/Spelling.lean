import ContractTree.Proofs.Document.Edited
import ContractTree.Proofs.Document.Found
import Mathlib.Logic.Relation

namespace ContractTree

/-!
# Spellings of fields

Exporters of different ages write some properties of a node in different ways: under
another key, as a word where others write flags, or as an object where others write a
text.  A spelling says what stands under the keys in question before and after a node is
rewritten from the newer way to the older one.

A document is respelled when one of its nodes is rewritten, however deep it stands and
whether or not it is ever converted.  Only nodes with a tag under `nodeType` are
rewritten, but they may stand below nodes of any sort.
-/

/-- What is found under a key of a node before and after the node is rewritten. -/
structure FieldChange where
  key : String
  before : Option Json
  after : Option Json

namespace Members

/-- The members of a node are rewritten as some changes say.  Under all other keys the
same is found as before, on the object and among the attributes. -/
structure Rewritten (changes : List FieldChange) (before after : Members) : Prop where
  changed : ∀ {key : String} {old new : Option Json}, ⟨key, old, new⟩ ∈ changes →
    before.field? key = old ∧ after.field? key = new
  kept : ∀ key, key ∉ changes.map FieldChange.key → key ≠ "attributes" →
    after.find? key = before.find? key ∧
      after.attributes.find? key = before.attributes.find? key

/-- The members of a node for the elementary type that a word names. -/
structure NamesType (word : String) (members : Members) : Prop where
  tag : TagKey.nodeType.kind? members = some .elementaryTypeName
  name : members.field? "name" = some (.str word)
  id : ∃ number id, members.field? "id" = some (.int number) ∧ NodeId.ofInt? number = some id
  src : ∃ marker span, members.field? "src" = some (.str marker) ∧
    Span.ofMarker? marker = some span

end Members

/-- The words for the mutability of state, with the flags that say the same: whether a
function is constant, and whether it may be paid. -/
inductive MutabilityWord : String → Bool → Bool → Prop
  | view : MutabilityWord "view" true false
  | pure : MutabilityWord "pure" true false
  | payable : MutabilityWord "payable" false true
  | nonpayable : MutabilityWord "nonpayable" false false

/-- The changes that rewrite a node of a kind in another spelling. -/
inductive Spelling : NodeKind → List FieldChange → Prop
  | unitMembers (value : Json) :
    Spelling .sourceUnit [⟨"nodes", some value, none⟩, ⟨"children", none, some value⟩]
  | initialization (value : Json) :
    Spelling .forStatement
      [⟨"initializationExpression", some value, none⟩, ⟨"initExpression", none, some value⟩]
  | literalKind (value : Json) :
    Spelling .literal [⟨"kind", some value, none⟩, ⟨"token", none, some value⟩]
  | storageLocation (value : Json) :
    Spelling .variableDeclaration
      [⟨"storageLocation", some value, none⟩, ⟨"location", none, some value⟩]
  /-- A variable that is not constant has any word but `constant`. -/
  | constant (word : String) :
    Spelling .variableDeclaration
      [⟨"constant", some (.bool (word = "constant")), none⟩,
        ⟨"mutability", none, some (.str word)⟩]
  /-- A function that is no constructor has any word but `constructor`. -/
  | isConstructor (word : String) :
    Spelling .functionDefinition
      [⟨"isConstructor", some (.bool (word = "constructor")), none⟩,
        ⟨"kind", none, some (.str word)⟩]
  /-- A flag that is not there counts as false. -/
  | stateMutability {kind : NodeKind} {word : String} {isConstant isPayable : Option Bool}
    (function : kind = .functionDefinition ∨ kind = .functionTypeName)
    (spelled : MutabilityWord word (isConstant.getD false) (isPayable.getD false)) :
    Spelling kind
      [⟨"constant", isConstant.map .bool, none⟩, ⟨"payable", isPayable.map .bool, none⟩,
        ⟨"stateMutability", none, some (.str word)⟩]
  | documentation {text : String} {members : Members} (kind : NodeKind)
    (found : members.find? "text" = some (.str text)) :
    Spelling kind [⟨"documentation", some (.str text), some (.obj members)⟩]
  /-- Whatever else the description of the type says, before or after, does not matter. -/
  | elementaryType {word : String} {members : Members} (given : Option Json)
    (found : members.find? "typeString" = some (.str word)) :
    Spelling .elementaryTypeName
      [⟨"name", some (.str word), none⟩, ⟨"typeDescriptions", given, some (.obj members)⟩]
  /-- The type of an expression stands as a word or as a node for the type. -/
  | expressedType {word : String} {members : Members} (names : members.NamesType word) :
    Spelling .elementaryTypeNameExpression
      [⟨"typeName", some (.str word), some (.obj members)⟩]

/-- Keys that no spelling is about: the identifier and the tag, and what is looked up in
objects that are no nodes. -/
def unspelledKeys : List String :=
  ["id", "nodeType", "text", "typeString", "foreign", "local", "declaration", "valueSize", "src",
    "isOffset", "isSlot"]

theorem ne_attributes_of_unspelled : ∀ key ∈ unspelledKeys, key ≠ "attributes" := by
  decide

theorem Spelling.disjoint_unspelledKeys {kind : NodeKind} {changes : List FieldChange}
    (spelling : Spelling kind changes) :
    ∀ key ∈ unspelledKeys, key ∉ changes.map FieldChange.key := by
  cases spelling <;> simp [unspelledKeys]

/-! ## Respelled documents -/

namespace Json

/-- A value with one of the nodes in it rewritten.  The attributes of a node are no node
themselves, whatever stands among them. -/
inductive Respelled : Json → Json → Prop
  | node {kind : NodeKind} {changes : List FieldChange} {before after : Members}
    (tagged : TagKey.nodeType.kind? before = some kind) (spelling : Spelling kind changes)
    (rewritten : before.Rewritten changes after) :
    Respelled (.obj before) (.obj after)
  | item (front back : List Json) {value other : Json} (inner : Respelled value other) :
    Respelled (.arr (front ++ value :: back)) (.arr (front ++ other :: back))
  | member (front back : Members) {key : String} {value other : Json}
    (field : key ≠ "attributes") (inner : Respelled value other) :
    Respelled (.obj (front ++ (key, value) :: back)) (.obj (front ++ (key, other) :: back))
  | nested (front back first last : Members) {key : String} {value other : Json}
    (inner : Respelled value other) :
    Respelled
      (.obj (front ++ ("attributes", .obj (first ++ (key, value) :: last)) :: back))
      (.obj (front ++ ("attributes", .obj (first ++ (key, other) :: last)) :: back))

/-- Neither a list nor an object. -/
def IsAtom (value : Json) : Prop := value.asArray? = none ∧ value.asObject? = none

/-- A value with at most one of the nodes in it rewritten. -/
abbrev MaybeRespelled : Json → Json → Prop := Relation.ReflGen Respelled

variable {value other : Json}

theorem Respelled.akin (respelled : value.Respelled other) : value.Akin other := by
  cases respelled with
  | item => exact .lists _ _
  | _ => exact .objects _ _

namespace MaybeRespelled

theorem akin (respelled : value.MaybeRespelled other) : value.Akin other := by
  cases respelled with
  | refl => exact .same value
  | single step => exact step.akin

/-- Only lists and objects have nodes in them. -/
theorem eq_of_atom (respelled : value.MaybeRespelled other) (atom : value.IsAtom) :
    other = value := by
  cases respelled with
  | refl => rfl
  | single step =>
    cases step with
    | item => cases atom.1
    | _ => cases atom.2

/-- The items of a list are respelled one by one. -/
theorem items {before : List Json} (respelled : MaybeRespelled (.arr before) other) :
    ∃ after, other = .arr after ∧ List.Forall₂ MaybeRespelled before after := by
  have same : ∀ list : List Json, List.Forall₂ MaybeRespelled list list :=
    fun _ => List.forall₂_same.2 fun _ _ => .refl
  cases respelled with
  | refl => exact ⟨before, rfl, same before⟩
  | single step =>
    cases step with
    | item front back inner =>
      exact ⟨_, rfl, List.rel_append (same _) (.cons (.single inner) (same _))⟩

end MaybeRespelled
end Json

/-! ## What is found before and after -/

namespace Members

/-- The same is found under a key, or a respelled value. -/
abbrev Alike (before after : Option Json) : Prop := Option.Rel Json.MaybeRespelled before after

theorem Alike.refl (found : Option Json) : Alike found found :=
  Option.rel_refl (fun _ => .refl) found

/-- What is related is there on both sides. -/
theorem Alike.imp {related : Json → Json → Prop} {before after : Option Json}
    (alike : Alike before after)
    (each : ∀ value other, before = some value → value.MaybeRespelled other →
      related value other) : Option.Rel related before after := by
  cases alike with
  | none => exact .none
  | some holds => exact .some (each _ _ rfl holds)

theorem Alike.eq_of_eq {before after : Option Json} (alike : Alike before after)
    (same : ∀ value other, before = some value → value.MaybeRespelled other → other = value) :
    after = before := by
  cases alike with
  | none => rfl
  | some respelled => rw [same _ _ rfl respelled]

theorem Alike.string?_eq {before after : Option Json} (alike : Alike before after) :
    after.bind Json.asString? = before.bind Json.asString? :=
  Option.bind_eq_of_rel (fun _ _ same => same.akin.asString?_eq) alike

theorem alike_append {key : String} {value other : Json} (front back : Members)
    (inner : value.Respelled other) (name : String) :
    Alike (Members.find? (front ++ (key, value) :: back) name)
      (Members.find? (front ++ (key, other) :: back) name) :=
  rel_find?_middle (fun _ => Json.MaybeRespelled) (fun _ _ => .refl) front back
    inner.akin.isNull_eq (.single inner) name

/-- One node below some members is rewritten: under each key the same is found, or a
respelled value, on the object and among the attributes. -/
structure Respelled (before after : Members) : Prop where
  own : ∀ key, key ≠ "attributes" → Alike (before.find? key) (after.find? key)
  nested : ∀ key, Alike (before.attributes.find? key) (after.attributes.find? key)

section Respelled

variable (front back : Members) {key : String} {value other : Json}

theorem respelled_of_member (field : key ≠ "attributes") (inner : value.Respelled other) :
    Respelled (front ++ (key, value) :: back) (front ++ (key, other) :: back) where
  own name _ := alike_append front back inner name
  nested name := by
    rw [attributes_middle field, attributes_middle field]
    exact .refl _

theorem respelled_of_attribute (first last : Members) (inner : value.Respelled other) :
    Respelled (front ++ ("attributes", .obj (first ++ (key, value) :: last)) :: back)
      (front ++ ("attributes", .obj (first ++ (key, other) :: last)) :: back) where
  own name field := by
    rw [find?_middle_of_ne field, find?_middle_of_ne field]
    exact .refl _
  nested name := by
    rw [attributes, attributes, find?_append, find?_append]
    cases front.find? "attributes" with
    | some earlier => exact .refl _
    | none => exact alike_append first last inner name

end Respelled

end Members

/-! ## What is found in respelled objects -/

namespace Json

variable {before : Members} {other : Json}

/-- An object is respelled as a node that is rewritten, or below. -/
theorem Respelled.cases_obj (respelled : Respelled (.obj before) other) :
    ∃ after : Members, other = .obj after ∧
      (before.Respelled after ∨ ∃ kind changes, TagKey.nodeType.kind? before = some kind ∧
        Spelling kind changes ∧ before.Rewritten changes after) := by
  cases respelled with
  | node tagged spelling rewritten => exact ⟨_, rfl, .inr ⟨_, _, tagged, spelling, rewritten⟩⟩
  | member front back field inner =>
    exact ⟨_, rfl, .inl (Members.respelled_of_member front back field inner)⟩
  | nested front back first last inner =>
    exact ⟨_, rfl, .inl (Members.respelled_of_attribute front back first last inner)⟩

/-- What is looked up in objects that are no nodes is found as before, or respelled. -/
theorem MaybeRespelled.members (respelled : MaybeRespelled (.obj before) other) :
    ∃ after : Members, other = .obj after ∧ ∀ key ∈ unspelledKeys,
      Members.Alike (before.find? key) (after.find? key) := by
  cases respelled with
  | refl => exact ⟨before, rfl, fun _ _ => .refl _⟩
  | single step =>
    rcases step.cases_obj with ⟨after, rfl, below | ⟨_, _, _, spelling, rewritten⟩⟩
    · exact ⟨after, rfl, fun key listed => below.own key (ne_attributes_of_unspelled key listed)⟩
    · refine ⟨after, rfl, fun key listed => ?_⟩
      have kept := rewritten.kept key (spelling.disjoint_unspelledKeys key listed)
        (ne_attributes_of_unspelled key listed)
      rw [kept.1]
      exact .refl _

end Json
end ContractTree
