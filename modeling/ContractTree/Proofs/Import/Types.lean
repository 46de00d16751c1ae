import ContractTree.Proofs.Document.Types
import ContractTree.Proofs.Form.Questions
import ContractTree.Proofs.Import.Written

namespace ContractTree

/-!
# The types of what is imported

An import with a result has found all fields that it asked for missing or of their
types, with two exceptions.  The identifier of a source unit is zero if no identifier
stands there, whatever else does.  And if the type of an expression is not given by an
object, then it is given by a text, even where children are looked up in another place
than scalars and neither an object nor a text stands in the former.
-/

namespace DocumentNode

/-- The questions that are asked of a document node when it is converted, up to the
first one without an answer. -/
def asked (document : DocumentNode) (settings : Settings) (depth : Nat) : List Field :=
  document.kind.form.asked fun field => (field.answer settings (depth + 1) document).result

end DocumentNode

/-- A question is answered although it may have found a value of a wrong type. -/
def Field.Overlooks (document : DocumentNode) (layout : FieldLayout) : Field → Prop
  | idOrZero => document.kind = .sourceUnit ∧ document.id? = none
  | holdsObject key => document.kind = .elementaryTypeNameExpression ∧
      ∃ text, document.scalar? layout key = some (.str text)
  | _ => False

/-! ## The questions that do not check what they find -/

/-- A name is the type of a description only if the description has one. -/
theorem Form.elementaryTypeName_describes (possible : (field : Field) → field.Answer → Prop) :
    elementaryTypeName.Ensures possible fun _ reads =>
      ∀ description, ⟨.typeString, description⟩ ∈ reads → description.isSome := by
  intro location _ name _
  cases name with
  | some word =>
    intro id _
    refine Ensures.lift_bind fun type _ => ?_
    intro description member
    simp at member
  | none =>
    intro given _
    cases given with
    | none => trivial
    | some word =>
      intro id _
      refine Ensures.lift_bind fun type _ => ?_
      intro description member
      simp at member
      subst member
      rfl

/-- A type that is not given by an object is given by a text. -/
theorem Form.elementaryTypeNameExpression_describes
    (possible : (field : Field) → field.Answer → Prop) :
    elementaryTypeNameExpression.Ensures possible fun _ reads =>
      ∀ isObject, ⟨.holdsObject "typeName", isObject⟩ ∈ reads →
        isObject = true ∨ ∃ text, ⟨.typeText, text⟩ ∈ reads := by
  intro location _ given _
  cases given with
  | true =>
    intro type _ id _ isObject member
    simp at member
    exact .inl member
  | false =>
    intro text _
    refine Ensures.lift_bind fun type _ => ?_
    intro id _ isObject member
    exact .inr ⟨text, by simp⟩

section Filled

variable {settings : Settings} {depth : Nat} {document : DocumentNode} {node : Node}

/-- A form that is filled in has an answer to each of its questions, and its reads have
the property that it ensures. -/
theorem DocumentNode.reads_of_fill {property : Node → List Answered → Prop}
    (filled : (document.kind.form.fill document
      (Field.answer settings (depth + 1) document)).result = .ok node)
    (ensured : document.kind.form.Ensures
      (fun field answer => (field.answer settings (depth + 1) document).result = .ok answer)
      property) :
    ∃ reads, property node reads ∧
      (∀ field ∈ document.asked settings depth, ∃ answer, ⟨field, answer⟩ ∈ reads) ∧
      ∀ field answer, ⟨field, answer⟩ ∈ reads →
        (field.answer settings (depth + 1) document).result = .ok answer := by
  rcases ensured.of_fill (fun _ _ answered => answered) filled with
    ⟨reads, holds, each, _, asked⟩
  refine ⟨reads, holds, fun field member => ?_, fun field answer listed => each _ listed⟩
  have listed : field ∈ reads.map Answered.field := asked ▸ member
  rcases List.mem_map.1 listed with ⟨read, known, rfl⟩
  exact ⟨read.answer, known⟩

/-- A source unit is asked for its identifier, and whether it has one is not checked. -/
theorem DocumentNode.typed_or_overlooks_id (kind : document.kind = .sourceUnit) :
    Field.idOrZero.Typed document settings.layout ∨
      Field.idOrZero.Overlooks document settings.layout := by
  cases written : document.id? with
  | none => exact .inr ⟨kind, written⟩
  | some id =>
    refine .inl fun value found => ?_
    have stands : document.structural? "id" = some value := found
    rw [DocumentNode.id?, stands] at written
    exact Option.isSome_iff_exists.2 ⟨id, written⟩

variable (filled : (document.kind.form.fill document
  (Field.answer settings (depth + 1) document)).result = .ok node)

include filled

theorem DocumentNode.typed_of_strict {field : Field} (strict : field.isStrict = true)
    (member : field ∈ document.asked settings depth) :
    field.Typed document settings.layout := by
  rcases reads_of_fill filled (Form.ensures_trivial _) with ⟨reads, _, asked, each⟩
  rcases asked field member with ⟨answer, listed⟩
  exact field.typed_of_answer strict (each field answer listed)

/-- A type description that has been asked for has a type. -/
theorem DocumentNode.typed_typeString (kind : document.kind = .elementaryTypeName)
    (member : .typeString ∈ document.asked settings depth) :
    Field.typeString.Typed document settings.layout := by
  have form : document.kind.form = Form.elementaryTypeName := congrArg NodeKind.form kind
  have ensured := Form.elementaryTypeName_describes
    fun field answer => (field.answer settings (depth + 1) document).result = .ok answer
  rw [← form] at ensured
  rcases reads_of_fill filled ensured with ⟨reads, described, asked, each⟩
  rcases asked _ member with ⟨answer, listed⟩
  have read : document.readTypeString? settings.layout = answer :=
    Except.ok.inj (each _ answer listed)
  have given : (document.readTypeString? settings.layout).isSome := by
    rw [read]
    exact described answer listed
  exact fun value found => isTypeDescription_of_readTypeString? given found

/-- If no object gives the type of an expression, a text does. -/
theorem DocumentNode.typed_or_overlooks_typeName
    (kind : document.kind = .elementaryTypeNameExpression)
    (member : .holdsObject "typeName" ∈ document.asked settings depth) :
    (Field.holdsObject "typeName").Typed document settings.layout ∨
      (Field.holdsObject "typeName").Overlooks document settings.layout := by
  have form : document.kind.form = Form.elementaryTypeNameExpression :=
    congrArg NodeKind.form kind
  have ensured := Form.elementaryTypeNameExpression_describes
    fun field answer => (field.answer settings (depth + 1) document).result = .ok answer
  rw [← form] at ensured
  rcases reads_of_fill filled ensured with ⟨reads, described, asked, each⟩
  rcases asked _ member with ⟨answer, listed⟩
  rcases described answer listed with rfl | ⟨text, spelled⟩
  · have answered := each (.holdsObject "typeName") true listed
    have object : (document.structural? "typeName").any Json.isObject = true :=
      Except.ok.inj answered
    refine .inl fun value found => ?_
    have stands : document.structural? "typeName" = some value := found
    rw [stands] at object
    exact Bool.or_eq_true_iff.2 (.inr object)
  · have read : document.readTypeText settings.layout = .ok text :=
      Field.checked_of_answer rfl (each .typeText text spelled)
    exact .inr ⟨kind, text, scalar?_of_readTypeText read⟩

/-- What is asked of a document node that is converted is missing, of its type, or
overlooked. -/
theorem DocumentNode.typed_or_overlooks {field : Field}
    (member : field ∈ document.asked settings depth) :
    field.Typed document settings.layout ∨ field.Overlooks document settings.layout := by
  have fits : field.Fits document.kind := (Form.asks_form document.kind).of_asked field member
  cases field with
  | idOrZero => exact typed_or_overlooks_id fits
  | typeString => exact .inl (typed_typeString filled fits member)
  | holdsObject key =>
    rcases fits with ⟨kind, rfl⟩
    exact typed_or_overlooks_typeName filled kind member
  | _ => exact .inl (typed_of_strict filled rfl member)

end Filled

/-- An import with a result has read every field that it asked for as what stands in the
document: a value that is not of the type of its field has been refused, unless it is the
identifier of a source unit, or stands where an object would give the type of an
expression that a text gives. -/
theorem typed_of_importUnit {settings : Settings} {document : Json} {unit : Node}
    (imported : importUnit settings document = .ok unit) :
    ∀ depth value, .attempt depth value ∈ importEvents settings document →
      ∃ node, DocumentNode.ofJson? value = .ok node ∧
        ∀ field ∈ node.asked settings depth,
          field.Typed node settings.layout ∨ field.Overlooks node settings.layout := by
  intro depth value happened
  rw [importEvents_of_ok imported] at happened
  have finished := (journal_of_importUnit imported).1
  rcases journal_attempted finished happened with ⟨below, made, _, converted, _⟩
  rcases fill_of_journal converted with ⟨node, read, _, filled⟩
  exact ⟨node, read, fun field member => node.typed_or_overlooks filled member⟩

/-- Nothing is overlooked in a contract. -/
theorem typed_plainContract :
    ∃ node, DocumentNode.ofJson? plainContract = .ok node ∧
      .text "name" ∈ node.asked unitSettings 1 ∧
      ∀ field ∈ node.asked unitSettings 1, field.Typed node .auto := by
  have imported : importUnit unitSettings unmarkedUnit = .ok unmarkedUnitTree := by
    decide +kernel
  have happened : .attempt 1 plainContract ∈ importEvents unitSettings unmarkedUnit :=
    attempt_mem_importEvents imported rfl (List.mem_singleton_self _)
  rcases typed_of_importUnit imported 1 plainContract happened with ⟨node, read, typed⟩
  refine ⟨node, read, ?_, fun field member => ?_⟩
  · cases read
    decide +kernel
  · rcases typed field member with here | overlooked
    · exact here
    · cases read
      cases field with
      | idOrZero => cases overlooked.1
      | holdsObject key => cases overlooked.1
      | _ => exact overlooked.elim

def misnumberedUnit : Json :=
  .obj [("nodeType", .str "SourceUnit"), ("id", .str "x"), ("src", .str "0:1")]

def misnumberedUnitTree : Node :=
  ⟨0, ⟨"a.sol", ⟨0, 1⟩⟩, .declaration (.sourceUnit none [])⟩

/-- A source unit with a text for an identifier is imported with the identifier zero. -/
theorem importUnit_misnumberedUnit :
    importUnit unitSettings misnumberedUnit = .ok misnumberedUnitTree ∧
      ∃ node, DocumentNode.ofJson? misnumberedUnit = .ok node ∧
        .idOrZero ∈ node.asked unitSettings 0 ∧
        Field.idOrZero.lookup? node .auto = some (.str "x") ∧
        Field.idOrZero.admits (.str "x") = false := by
  refine ⟨by decide +kernel, _, rfl, ?_, rfl, rfl⟩
  decide +kernel

end ContractTree
