import ContractTree.Proofs.Conversion.Carried
import ContractTree.Proofs.Document.Respelled

namespace ContractTree

/-!
# Nodes with a respelled node below them

If a rewritten node converts to all that it converts to as it was, so does every node that
it stands below.  A question about a text, a number or a flag finds the same as before, a
question about an object that is no node finds an object that says the same, and a
question about children is carried over from child to child.
-/

/-- A question about a text, a number or a flag. -/
def Field.isAtomic : Field → Bool
  | id | location | locationOrWhole | text _ | text? _ | flag _ | flag? _ | typeText => true
  | _ => false

theorem Field.isAtom_of_admits {field : Field} (atomic : field.isAtomic = true) {value : Json}
    (admitted : field.admits value = true) : value.IsAtom := by
  cases field with
  | id => exact Json.isAtom_of_isIdentifier admitted
  | flag key | flag? key => exact Json.isAtom_of_isBoolean admitted
  | location | locationOrWhole | text key | text? key | typeText =>
    exact Json.isAtom_of_isString admitted
  | _ => cases atomic

theorem NodeKind.ne_attributes {kind : NodeKind} {key : String} {position : Position}
    (holds : kind.position key = position) (expected : position ≠ .plain) : key ≠ "attributes" :=
  Regrouping.ne_of_not_mem (not_mem_reservedKeys (ne_of_eq_of_ne holds expected)) (by decide)

namespace DocumentNode.Respelled

variable {settings : Settings} {depth : Nat} {document image : DocumentNode}
  (respelled : document.Respelled settings.layout image)

include respelled

/-- A node is named in errors as before. -/
theorem id?_eq : image.id? = document.id? := by
  have alike := respelled.structural "id" (by decide)
  unfold DocumentNode.id?
  generalize document.structural? "id" = before, image.structural? "id" = after at alike
  cases alike with
  | none => rfl
  | some same =>
    rw [Option.bind_some, Option.bind_some, same.akin.asInt?_eq]

theorem context_eq : image.context = document.context := by
  rw [DocumentNode.context, respelled.kind_eq, respelled.id?_eq]
  rfl

/-- A question that looks up what it looked up before has the answer that it had. -/
theorem answer_eq_of_lookup? {field : Field} (atomic : field.isAtomic = true)
    (same : field.lookup? image settings.layout = field.lookup? document settings.layout) :
    field.answer settings depth image = field.answer settings depth document := by
  refine field.answer_congr respelled.context_eq (fun key member => ?_) fun key member => ?_
  · cases field with
    | id | location | locationOrWhole =>
      rw [List.mem_singleton.1 member]
      exact same
    | text key | text? key | flag key | flag? key | typeText => cases member
    | _ => cases atomic
  · cases field with
    | id | location | locationOrWhole => cases member
    | text key | text? key | flag key | flag? key | typeText =>
      rw [List.mem_singleton.1 member]
      exact same
    | _ => cases atomic

theorem lookup?_alike {field : Field} {kind : NodeKind} (fits : field.Fits kind)
    (atomic : field.isAtomic = true) :
    Members.Alike (field.lookup? document settings.layout)
      (field.lookup? image settings.layout) := by
  cases field with
  | id | location | locationOrWhole => exact respelled.structural _ (by decide)
  | text key | text? key | flag key | flag? key =>
    exact respelled.scalar key (Regrouping.ne_of_not_mem fits.2 (by decide))
  | typeText => exact respelled.scalar _ (by decide)
  | _ => cases atomic

/-- A question about a text, a number or a flag finds what it found before. -/
theorem carries_atomic {field : Field} {kind : NodeKind} (fits : field.Fits kind)
    (atomic : field.isAtomic = true) :
    (field.answer settings depth document).Carries (field.answer settings depth image) := by
  intro answer answered
  have strict : field.isStrict = true := by
    cases field <;> first | rfl | cases atomic
  have typed := field.typed_of_answer strict answered
  have same := (respelled.lookup?_alike fits atomic).eq_of_eq fun value other found same =>
    same.eq_of_atom (Field.isAtom_of_admits atomic (typed value found))
  rw [respelled.answer_eq_of_lookup? atomic same]
  exact answered

theorem carries_idOrZero :
    (Field.idOrZero.answer settings depth document).Carries
      (Field.idOrZero.answer settings depth image) := by
  have read : (.ok (image.id?.getD 0) : Checked NodeId) = .ok (document.id?.getD 0) := by
    rw [respelled.id?_eq]
  exact .of_eq (Field.answer_congr_of_checked respelled.context_eq .idOrZero read rfl rfl)

theorem carries_holds {key : String} (field : key ≠ "attributes") :
    ((Field.holds key).answer settings depth document).Carries
      ((Field.holds key).answer settings depth image) := by
  have same : (image.structural? key).isSome = (document.structural? key).isSome :=
    Option.isSome_eq_of_rel (respelled.structural key field)
  have read : (.ok (image.structural? key).isSome : Checked Bool) =
      .ok (document.structural? key).isSome := by
    rw [same]
  exact .of_eq (Field.answer_congr_of_checked respelled.context_eq (.holds key) read rfl rfl)

theorem carries_holdsObject {key : String} (field : key ≠ "attributes") :
    ((Field.holdsObject key).answer settings depth document).Carries
      ((Field.holdsObject key).answer settings depth image) := by
  have same : (image.structural? key).any Json.isObject =
      (document.structural? key).any Json.isObject :=
    Option.any_eq_of_rel (fun _ _ same => same.akin.isObject_eq) (respelled.structural key field)
  have read : (.ok ((image.structural? key).any Json.isObject) : Checked Bool) =
      .ok ((document.structural? key).any Json.isObject) := by
    rw [same]
  exact .of_eq (Field.answer_congr_of_checked respelled.context_eq (.holdsObject key) read rfl rfl)

/-- An object that holds a documentation holds the same text. -/
theorem carries_documentation :
    (Field.documentation.answer settings depth document).Carries
      (Field.documentation.answer settings depth image) := by
  have alike := respelled.scalar "documentation" (by decide)
  refine Field.carries_of_checked .documentation (fun text read => ?_) rfl rfl
  unfold DocumentNode.readDocumentation? at read ⊢
  generalize document.scalar? settings.layout "documentation" = before,
    image.scalar? settings.layout "documentation" = after at alike read ⊢
  cases alike with
  | none => exact read
  | @some value other same =>
    cases value with
    | obj members =>
      rcases same.members with ⟨others, rfl, inside⟩
      have held := inside "text" (by decide)
      dsimp only at read ⊢
      generalize Members.find? members "text" = first, others.find? "text" = second
        at held read ⊢
      cases held with
      | none => cases read
      | @some inner changed same =>
        cases inner with
        | str word =>
          rw [same.eq_of_atom ⟨rfl, rfl⟩]
          exact read
        | _ => cases read
    | str word =>
      rw [same.eq_of_atom ⟨rfl, rfl⟩]
      exact read
    | _ => cases read

/-- A description gives the same type. -/
theorem carries_typeString :
    (Field.typeString.answer settings depth document).Carries
      (Field.typeString.answer settings depth image) := by
  have same : image.readTypeString? settings.layout = document.readTypeString? settings.layout := by
    have alike := respelled.scalar "typeDescriptions" (by decide)
    unfold DocumentNode.readTypeString?
    generalize document.scalar? settings.layout "typeDescriptions" = before,
      image.scalar? settings.layout "typeDescriptions" = after at alike ⊢
    cases alike with
    | none => rfl
    | @some value other same =>
      cases value with
      | obj members =>
        rcases same.members with ⟨others, rfl, inside⟩
        exact (inside "typeString" (by decide)).string?_eq
      | _ =>
        have noObject := same.akin.isObject_eq
        cases other with
        | obj others => cases noObject
        | _ => rfl
  have read : (.ok (image.readTypeString? settings.layout) : Checked (Option String)) =
      .ok (document.readTypeString? settings.layout) := by
    rw [same]
  exact .of_eq (Field.answer_congr_of_checked respelled.context_eq .typeString read rfl rfl)

theorem carries_texts {key : String} (field : key ≠ "attributes") :
    ((Field.texts key).answer settings depth document).Carries
      ((Field.texts key).answer settings depth image) := by
  intro texts answered
  have typed := (Field.texts key).typed_of_answer rfl answered
  have same : image.structural? key = document.structural? key :=
    (respelled.structural key field).eq_of_eq fun value other found same =>
      same.eq_of_texts (typed value found)
  have unchanged : (Field.texts key).answer settings depth image =
      (Field.texts key).answer settings depth document := by
    refine Field.answer_congr respelled.context_eq (.texts key) (fun name member => ?_)
      fun name member => nomatch member
    rw [List.mem_singleton.1 member]
    exact same
  rw [unchanged]
  exact answered

theorem carries_references :
    (Field.references.answer settings depth document).Carries
      (Field.references.answer settings depth image) := by
  intro answer answered
  have typed := Field.references.typed_of_answer rfl answered
  have same : image.readReferences settings.source = document.readReferences settings.source := by
    have alike := respelled.structural "externalReferences" (by decide)
    unfold DocumentNode.readReferences DocumentNode.readItems
    generalize found : document.structural? "externalReferences" = before,
      image.structural? "externalReferences" = after at alike ⊢
    cases alike with
    | none => rfl
    | @some value other same =>
      have references := typed value found
      cases value with
      | arr items =>
        rcases same.items with ⟨others, rfl, each⟩
        have listed : ∀ item ∈ items, item.isReference = true := List.all_eq_true.1 references
        refine List.mapM_eq_of_forall₂ ?_
        exact ((List.forall₂_and_left _ _).2 ⟨listed, each⟩).imp fun item other both =>
          ExternalReference.read_eq both.2 both.1
      | _ => cases references
  rw [Field.answer_congr_of_checked respelled.context_eq .references same rfl rfl]
  exact answered

section Children

variable (children : ∀ child other : Json, child.height < document.height →
  child.MaybeRespelled other →
    (journal settings depth child).Carries (journal settings depth other))

include children

omit respelled in
theorem convertsAs {value other : Json} (smaller : value.height < document.height)
    (same : value.MaybeRespelled other) : value.ConvertsAs settings depth other :=
  ⟨same.akin.isNull_eq, same.akin.isObject_eq, same.akin.asString?_eq,
    children value other smaller same⟩

omit respelled children in
/-- The items of a list are related to those of a respelled list if each item is related to
what it may be respelled as. -/
theorem listsAs {related : Json → Json → Prop} {value other : Json}
    (smaller : value.height < document.height) (same : value.MaybeRespelled other)
    (each : ∀ item image : Json, item.height < document.height → item.MaybeRespelled image →
      related item image) :
    value.ListsAs related other := by
  rintro items rfl
  rcases same.items with ⟨others, rfl, pairs⟩
  have inside : ∀ item ∈ items, item.height < document.height :=
    fun item member => Nat.lt_trans (Json.height_lt_of_mem_arr member) smaller
  refine ⟨others, rfl, ?_⟩
  exact ((List.forall₂_and_left _ _).2 ⟨inside, pairs⟩).imp fun item image both =>
    each item image both.1 both.2

omit respelled in
theorem aliasesAs {value other : Json} (smaller : value.height < document.height)
    (same : value.MaybeRespelled other) :
    value.AliasesAs (Json.ConvertsAs settings depth) other := by
  rintro members rfl
  rcases same.members with ⟨others, rfl, inside⟩
  refine ⟨others, rfl, fun localName read => ?_, ?_⟩
  · have alike := inside "local" (by decide)
    unfold SymbolAlias.readLocalName at read ⊢
    generalize members.find? "local" = before, others.find? "local" = after at alike read ⊢
    cases alike with
    | none => exact read
    | @some value other same =>
      cases value with
      | str name =>
        rw [same.eq_of_atom ⟨rfl, rfl⟩]
        exact read
      | _ => cases read
  · exact (inside "foreign" (by decide)).imp fun _ _ found same =>
      convertsAs children (Nat.lt_trans (Members.height_lt_of_find? found) smaller) same

/-- Under the key of a child stands what converts alike. -/
theorem rel_convertsAs {key : String} (field : key ≠ "attributes") :
    Option.Rel (Json.ConvertsAs settings depth) (document.structural? key)
      (image.structural? key) :=
  (respelled.structural key field).imp fun _ _ found same =>
    convertsAs children (DocumentNode.height_structural_lt found) same

theorem rel_listsAs {key : String} (field : key ≠ "attributes") :
    Option.Rel (Json.ListsAs (Json.ConvertsAs settings depth)) (document.structural? key)
      (image.structural? key) :=
  (respelled.structural key field).imp fun _ _ found same =>
    listsAs (DocumentNode.height_structural_lt found) same fun _ _ => convertsAs children

theorem rel_aliasesAs :
    Option.Rel (Json.ListsAs (Json.AliasesAs (Json.ConvertsAs settings depth)))
      (document.structural? "symbolAliases") (image.structural? "symbolAliases") :=
  (respelled.structural "symbolAliases" (by decide)).imp fun _ _ found same =>
    listsAs (DocumentNode.height_structural_lt found) same fun _ _ => aliasesAs children

/-- Each question that fits the node is carried over. -/
theorem carries_answer {field : Field} (fits : field.Fits document.kind) :
    (field.answer settings depth document).Carries (field.answer settings depth image) := by
  cases field with
  | id | location | locationOrWhole | text key | text? key | flag key | flag? key | typeText =>
    exact respelled.carries_atomic fits rfl
  | idOrZero => exact respelled.carries_idOrZero
  | documentation => exact respelled.carries_documentation
  | typeString => exact respelled.carries_typeString
  | texts key => exact respelled.carries_texts (Regrouping.ne_of_not_mem fits.2 (by decide))
  | references => exact respelled.carries_references
  | holds key => exact respelled.carries_holds (Regrouping.ne_of_not_mem fits (by decide))
  | holdsObject key =>
    rcases fits with ⟨_, rfl⟩
    exact respelled.carries_holdsObject (by decide)
  | child key category =>
    have field := NodeKind.ne_attributes fits nofun
    exact Field.carries_child (respelled.rel_convertsAs children field)
  | child? key category =>
    have field := NodeKind.ne_attributes fits nofun
    exact Field.carries_child? (respelled.rel_convertsAs children field)
  | elementaryChild key =>
    have field := NodeKind.ne_attributes fits nofun
    exact Field.carries_elementaryChild (respelled.rel_convertsAs children field)
  | children key category =>
    have field := NodeKind.ne_attributes fits nofun
    exact Field.carries_children (respelled.rel_listsAs children field)
  | gappedChildren key category =>
    have field := NodeKind.ne_attributes fits nofun
    exact Field.carries_gappedChildren (respelled.rel_listsAs children field)
  | aliases => exact Field.carries_aliases (respelled.rel_aliasesAs children)

end Children

end DocumentNode.Respelled
end ContractTree
