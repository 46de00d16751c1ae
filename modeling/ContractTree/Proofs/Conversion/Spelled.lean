import ContractTree.Proofs.Conversion.Given
import ContractTree.Proofs.Form.Spelled

namespace ContractTree

/-!
# Nodes in another spelling

Each spelling is about one part of the form of its kind.  This part asks for the newer
fields first, and where they are missing it asks for the older ones, which lead it to the
same result.  So the form of a node is carried over to the node in another spelling.
-/

/-- The flags of a word for the mutability of state are what is read from the word. -/
theorem MutabilityWord.isConstant_eq {word : String} {isConstant isPayable : Bool}
    (spelled : MutabilityWord word isConstant isPayable) :
    decide (some word ∈ [some "view", some "pure", some "constant"]) = isConstant := by
  cases spelled <;> decide

theorem MutabilityWord.isPayable_eq {word : String} {isConstant isPayable : Bool}
    (spelled : MutabilityWord word isConstant isPayable) :
    decide (some word = some "payable") = isPayable := by
  cases spelled <;> decide

section Parts

open Form

variable {settings : Settings} (auto : settings.layout = .auto) {depth : Nat} {kind : NodeKind}
  {before after : Members}

include auto

/-- A word takes the place of a flag that says whether it is a certain one. -/
theorem carries_flagOrWord {flagKey wordKey expected word : String}
    (apart : flagKey ≠ "nodeType" ∧ wordKey ≠ "nodeType")
    (rewritten : before.Rewritten
      [⟨flagKey, some (.bool (word = expected)), none⟩, ⟨wordKey, none, some (.str word)⟩] after) :
    let part : Form Bool := do
      match ← flag? flagKey with
      | some answer => return answer
      | none => return (← text? wordKey) = some expected
    Carries (before.Given settings depth kind) (after.Given settings depth kind) part part := by
  rcases rewritten.changed (.head _) with ⟨flag, removed⟩
  rcases rewritten.changed (.tail _ (.head _)) with ⟨_, added⟩
  refine .given (Members.given_flag? auto (some _) apart.1 flag) ?_
  refine .told (Members.given_flag? auto none apart.1 removed) ?_
  refine .told (Members.given_text? auto (some _) apart.2 added) ?_
  simp only [Option.some.injEq]
  exact .done _

theorem carries_mutability {word : String} {isConstant isPayable : Option Bool}
    (spelled : MutabilityWord word (isConstant.getD false) (isPayable.getD false))
    (rewritten : before.Rewritten
      [⟨"constant", isConstant.map .bool, none⟩, ⟨"payable", isPayable.map .bool, none⟩,
        ⟨"stateMutability", none, some (.str word)⟩] after) :
    Carries (before.Given settings depth kind) (after.Given settings depth kind)
      mutability mutability := by
  rcases rewritten.changed (.head _) with ⟨constant, noConstant⟩
  rcases rewritten.changed (.tail _ (.head _)) with ⟨payable, noPayable⟩
  rcases rewritten.changed (.tail _ (.tail _ (.head _))) with ⟨noWord, added⟩
  refine .given (Members.given_text? auto none (by decide) noWord) ?_
  refine .given (Members.given_flag? auto isConstant (by decide) constant) ?_
  refine .given (Members.given_flag? auto isPayable (by decide) payable) ?_
  refine .told (Members.given_text? auto (some _) (by decide) added) ?_
  refine .told (Members.given_flag? auto none (by decide) noConstant) ?_
  refine .told (Members.given_flag? auto none (by decide) noPayable) ?_
  rw [Option.getD_none, Option.getD_none, spelled.isConstant_eq, spelled.isPayable_eq]
  exact .done _

/-- A word is read under an older key as under the newer one. -/
theorem carries_movedWord {α : Type} {key name : String}
    (apart : key ≠ "nodeType" ∧ name ≠ "nodeType") {value : Json}
    (rewritten : before.Rewritten
      [⟨key, some value, none⟩, ⟨name, none, some value⟩] after)
    {next : String → Form α} {missing : Form α}
    (rest : ∀ word, Carries (before.Given settings depth kind) (after.Given settings depth kind)
      (next word) (next word)) :
    let part : Form α := do
      match ← text? key with
      | some word => next word
      | none =>
        match ← text? name with
        | some word => next word
        | none => missing
    Carries (before.Given settings depth kind) (after.Given settings depth kind) part part := by
  rcases rewritten.changed (.head _) with ⟨found, removed⟩
  rcases rewritten.changed (.tail _ (.head _)) with ⟨_, added⟩
  refine .text auto apart.1 found fun word same => ?_
  subst same
  refine .told (Members.given_text? auto none apart.1 removed) ?_
  refine .told (Members.given_text? auto (some _) apart.2 added) ?_
  exact rest word

theorem carries_typeWord {word : String} {members : Members} {given : Option Json}
    (named : members.find? "typeString" = some (.str word))
    (rewritten : before.Rewritten
      [⟨"name", some (.str word), none⟩, ⟨"typeDescriptions", given, some (.obj members)⟩] after) :
    Carries (before.Given settings depth kind) (after.Given settings depth kind)
      typeWord typeWord := by
  rcases rewritten.changed (.head _) with ⟨found, removed⟩
  rcases rewritten.changed (.tail _ (.head _)) with ⟨_, added⟩
  refine .given (Members.given_text? auto (some _) (by decide) found) ?_
  refine .told (Members.given_text? auto none (by decide) removed) ?_
  refine .told (Members.given_typeString auto added named) ?_
  exact .done _

omit auto in
theorem carries_unitMembers {value : Json}
    (rewritten : before.Rewritten
      [⟨"nodes", some value, none⟩, ⟨"children", none, some value⟩] after) :
    Carries (before.Given settings depth kind) (after.Given settings depth kind)
      unitMembers unitMembers := by
  rcases rewritten.changed (.head _) with ⟨found, removed⟩
  rcases rewritten.changed (.tail _ (.head _)) with ⟨_, added⟩
  refine .given (Members.given_holds found) ?_
  refine .told (Members.given_holds removed) ?_
  change Carries _ _ (children "nodes" .anyNode) (children "children" .anyNode)
  refine .children (Field.carries_children (related_of_field? found added ?_))
  exact Json.ListsAs.refl Json.ConvertsAs.refl value

omit auto in
theorem Members.NamesType.given_id {word : String} {members : Members}
    (names : members.NamesType word) : ∃ id, members.Given settings depth kind .id id := by
  rcases names.id with ⟨number, id, found, integral⟩
  refine ⟨id, Field.given_of_checked .id ?_ rfl⟩
  have stands : (DocumentNode.mk members kind .nodeType).structural? "id" = some (.int number) :=
    found
  rw [DocumentNode.readId, stands]
  simp only [Json.asInt?, Option.bind_some, integral]

omit auto in
theorem Members.NamesType.given_location {word : String} {members : Members}
    (names : members.NamesType word) :
    ∃ location, members.Given settings depth kind .location location := by
  rcases names.src with ⟨marker, span, found, ordered⟩
  refine ⟨⟨settings.source, span⟩, Field.given_of_checked .location ?_ rfl⟩
  have stands : (DocumentNode.mk members kind .nodeType).structural? "src" = some (.str marker) :=
    found
  have marked : (DocumentNode.mk members kind .nodeType).readMarker? = .ok (some marker) := by
    rw [DocumentNode.readMarker?, stands]
  have placed : readPlace settings.source marker = .ok ⟨settings.source, span⟩ := by
    rw [readPlace, SourceLocation.ofMarker?, ordered]
    rfl
  have read : (DocumentNode.mk members kind .nodeType).readLocation? settings.source =
      .ok (some ⟨settings.source, span⟩) := by
    rw [DocumentNode.readLocation?, marked]
    change (readPlace settings.source marker >>= fun location => pure (some location)) = _
    rw [placed]
    rfl
  rw [DocumentNode.readLocation, read]
  rfl

/-- A node for an elementary type converts to the type that its word names. -/
theorem Members.NamesType.converts (unbounded : settings.maxDepth = none) {word : String}
    {members : Members} (names : members.NamesType word) {type : ElementaryType}
    (resolved : Token.resolveElementary word = .ok type) :
    ∃ node, (journal settings depth (.obj members)).result = .ok node ∧
      node.elementaryType? = some type := by
  have shallow : settings.maxDepth.filter (· ≤ depth) = none := by
    rw [unbounded]
    rfl
  have read := DocumentNode.ofJson?_of_kind? names.tag
  rcases names.given_id with ⟨id, identified⟩
  rcases names.given_location with ⟨location, located⟩
  refine ⟨nameType id location (.elementary type), ?_, rfl⟩
  rw [journal_result_eq_fill read shallow]
  refine Yields.fill (fun _ _ given => given) (?_ : elementaryTypeName.Yields
    (members.Given settings (depth + 1) .elementaryTypeName) _)
  apply Yields.read located
  apply Yields.read (Members.given_text? auto (some word) (by decide) names.name)
  apply Yields.read identified
  apply Yields.bind (.lift resolved)
  rfl

omit auto in
theorem carries_forStatement {value : Json}
    (alike : AlikeBut ["initializationExpression", "initExpression"]
      (before.Given settings depth kind) (after.Given settings depth kind))
    (rewritten : before.Rewritten
      [⟨"initializationExpression", some value, none⟩, ⟨"initExpression", none, some value⟩]
      after) :
    Carries (before.Given settings depth kind) (after.Given settings depth kind)
      forStatement forStatement := by
  rcases rewritten.changed (.head _) with ⟨found, removed⟩
  rcases rewritten.changed (.tail _ (.head _)) with ⟨_, added⟩
  refine alike.carries_forStatement (Members.only_given (Members.given_holds found))
    (Members.given_holds removed) ?_
  exact .child? (Field.carries_child? (related_of_field? found added (Json.ConvertsAs.refl value)))

/-- A documentation is read the same as a text and as an object that holds it. -/
theorem carries_documentation {text : String} {members : Members}
    (alike : AlikeBut ["documentation"] (before.Given settings depth kind)
      (after.Given settings depth kind))
    (named : members.find? "text" = some (.str text))
    (rewritten : before.Rewritten
      [⟨"documentation", some (.str text), some (.obj members)⟩] after) :
    Carries (before.Given settings depth kind) (after.Given settings depth kind)
      kind.form kind.form := by
  rcases rewritten.changed (.head _) with ⟨found, added⟩
  refine .of_asks (fun field about answer given => ?_) (asks_documentation kind)
  rcases about with rfl | avoids
  · have same : answer = some text :=
      Members.only_given (Members.given_documentation auto found (.inl rfl)) answer given
    rw [same]
    exact Members.given_documentation auto added (.inr ⟨members, rfl, named⟩)
  · exact alike field avoids answer given

/-- A word for a type and a node for it give the same type. -/
theorem carries_expressedType (unbounded : settings.maxDepth = none) {word : String}
    {members : Members} (names : members.NamesType word)
    (rewritten : before.Rewritten
      [⟨"typeName", some (.str word), some (.obj members)⟩] after) :
    Carries (before.Given settings depth kind) (after.Given settings depth kind)
      expressedType expressedType := by
  rcases rewritten.changed (.head _) with ⟨found, added⟩
  refine .given (Members.given_holdsObject found) ?_
  refine .given (Members.given_typeText auto found) ?_
  refine .told (Members.given_holdsObject added) ?_
  cases resolved : Token.resolveElementary word with
  | error defect => exact fun _ impossible => impossible.elim
  | ok type =>
    rcases names.converts auto unbounded resolved with ⟨node, converted, named⟩
    have answered : after.Given settings depth kind (.elementaryChild "typeName") type := by
      have stands : (DocumentNode.mk after kind .nodeType).structural? "typeName" =
          some (.obj members) := added
      rw [Members.Given, Field.Given, Field.answer_elementaryChild, stands]
      dsimp only
      rw [Journal.narrowed_of_converted rfl converted, named]
      rfl
    rintro _ rfl
    exact ⟨type, answered, rfl⟩

end Parts

/-! ## Rewritten nodes -/

namespace Members.Rewritten

variable {kind : NodeKind} {changes : List FieldChange} {before after : Members}
  (rewritten : before.Rewritten changes after)

include rewritten

/-- A rewritten node is named in errors as before. -/
theorem context_eq (kept : "id" ∉ changes.map FieldChange.key) :
    (DocumentNode.mk after kind .nodeType).context =
      (DocumentNode.mk before kind .nodeType).context := by
  have same : (DocumentNode.mk after kind .nodeType).structural? "id" =
      (DocumentNode.mk before kind .nodeType).structural? "id" :=
    rewritten.field?_eq kept (by decide)
  rw [DocumentNode.context, DocumentNode.id?, same]
  rfl

/-- What is not about the spelling is answered as before. -/
theorem answer_eq {settings : Settings} {depth : Nat} (auto : settings.layout = .auto)
    (kept : "id" ∉ changes.map FieldChange.key) {field : Field}
    (avoids : field.Avoids (changes.map FieldChange.key)) :
    field.answer settings depth (DocumentNode.mk after kind .nodeType) =
      field.answer settings depth (DocumentNode.mk before kind .nodeType) := by
  have same : ∀ key ∈ field.structuralKeys ++ field.scalarKeys,
      key ≠ "nodeType" ∧ after.field? key = before.field? key := by
    intro key member
    have apart := avoids key member
    rw [List.mem_cons, List.mem_cons, not_or, not_or] at apart
    exact ⟨apart.1, rewritten.field?_eq apart.2.2 apart.2.1⟩
  refine field.answer_congr (rewritten.context_eq kept) (fun key member => ?_) fun key member => ?_
  · exact (same key (List.mem_append_left _ member)).2
  · rcases same key (List.mem_append_right _ member) with ⟨other, found⟩
    rw [auto, DocumentNode.scalar?_auto _ _ other, DocumentNode.scalar?_auto _ _ other, found]

/-- What is not about the spelling is answered as before. -/
theorem alikeBut {settings : Settings} {depth : Nat} (auto : settings.layout = .auto)
    (kept : "id" ∉ changes.map FieldChange.key) :
    Form.AlikeBut (changes.map FieldChange.key) (before.Given settings depth kind)
      (after.Given settings depth kind) := by
  intro field avoids answer given
  rw [Members.Given, Field.Given, rewritten.answer_eq auto kept avoids]
  exact given

end Members.Rewritten

/-- Whatever a node has been rewritten from, its form is carried over to the node. -/
theorem Spelling.carries {settings : Settings} (auto : settings.layout = .auto)
    (unbounded : settings.maxDepth = none) {depth : Nat} {kind : NodeKind}
    {changes : List FieldChange} {before after : Members} (spelling : Spelling kind changes)
    (rewritten : before.Rewritten changes after) :
    Form.Carries (before.Given settings depth kind) (after.Given settings depth kind)
      kind.form kind.form := by
  have untouched := spelling.disjoint_unspelledKeys "id" (by decide)
  have alike : Form.AlikeBut (changes.map FieldChange.key) (before.Given settings depth kind)
      (after.Given settings depth kind) := rewritten.alikeBut auto untouched
  cases spelling with
  | unitMembers value => exact alike.carries_sourceUnit (carries_unitMembers rewritten)
  | initialization value => exact carries_forStatement alike rewritten
  | literalKind value =>
    have literalKind : Form.Carries (before.Given settings depth .literal)
        (after.Given settings depth .literal) Form.literalKind Form.literalKind :=
      carries_movedWord auto (by decide) rewritten fun _ => .done _
    exact alike.carries_literal literalKind
  | storageLocation value =>
    have storageLocation : Form.Carries (before.Given settings depth .variableDeclaration)
        (after.Given settings depth .variableDeclaration) Form.storageLocation
        Form.storageLocation :=
      carries_movedWord auto (by decide) rewritten fun _ => .lift _
    exact (alike.mono (by simp)).carries_variableDeclaration alike.carries_isConstant
      storageLocation
  | constant word =>
    have isConstant : Form.Carries (before.Given settings depth .variableDeclaration)
        (after.Given settings depth .variableDeclaration) Form.isConstant Form.isConstant :=
      carries_flagOrWord auto (by decide) rewritten
    exact (alike.mono (by simp)).carries_variableDeclaration isConstant
      alike.carries_storageLocation
  | isConstructor word =>
    have isConstructor : Form.Carries (before.Given settings depth .functionDefinition)
        (after.Given settings depth .functionDefinition) Form.isConstructor Form.isConstructor :=
      carries_flagOrWord auto (by decide) rewritten
    exact (alike.mono (by simp)).carries_functionDefinition isConstructor
      alike.carries_mutability
  | stateMutability function spelled =>
    have mutability : Form.Carries (before.Given settings depth kind)
        (after.Given settings depth kind) Form.mutability Form.mutability :=
      carries_mutability auto spelled rewritten
    rcases function with rfl | rfl
    · exact (alike.mono (by simp)).carries_functionDefinition alike.carries_isConstructor mutability
    · exact alike.carries_functionTypeName mutability
  | documentation kind found => exact carries_documentation auto alike found rewritten
  | elementaryType given found =>
    exact alike.carries_elementaryTypeName (carries_typeWord auto found rewritten)
  | expressedType names =>
    exact alike.carries_elementaryTypeNameExpression
      (carries_expressedType auto unbounded names rewritten)

end ContractTree
