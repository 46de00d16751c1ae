import ContractTree.Form.Kind
import ContractTree.Proofs.Document.Lookups
import ContractTree.Proofs.Form.Leaves

namespace ContractTree

/-!
# Type paths are read exactly

A type that a document names by a text is a path of segments, and nothing is lost between
the text and the path.  Each text without an empty segment is the name of one path, which is
the path that the node gets; any other text is refused.
-/

namespace TypePath

theorem read_of_spells {name : String} (spells : Spells name) :
    TypePath.read name = .ok (ofName name) :=
  if_neg (not_mem_ofName_iff.2 spells)

theorem read_of_not_spells {name : String} (wrong : ¬ Spells name) :
    TypePath.read name = .error (.violation (.malformedPath name)) :=
  if_pos (not_not.1 (mt not_mem_ofName_iff.1 wrong))

/-- A name spells one path at most. -/
theorem eq_ofName {path : List String} {name : String} (valid : Valid path)
    (named : TypePath.name path = name) : path = ofName name := by
  rw [← named, ofName_name valid]

/-- The path of a name tells which name it was. -/
theorem ofName_inj {first second : String} : ofName first = ofName second ↔ first = second := by
  constructor
  · intro same
    rw [← name_ofName first, same, name_ofName]
  · rintro rfl
    rfl

end TypePath

/-- A document node for a type that is given by a name, with all but the name in order. -/
structure DocumentNode.NamesType (document : DocumentNode) (settings : Settings) (id : NodeId)
    (location : SourceLocation) (name : String) : Prop where
  kind : document.kind = .userDefinedTypeName
  headed : document.Headed settings.source id location
  name : document.scalar? settings.layout "name" = some (.str name)

section Named

variable {settings : Settings} {document : DocumentNode} {id : NodeId} {location : SourceLocation}
  {name : String} (names : document.NamesType settings id location name)

include names

/-- The form of such a document node is the form of its name. -/
theorem DocumentNode.NamesType.plan_form :
    document.kind.form.plan settings document =
      (liftM (TypePath.read name) >>= fun path => Form.id >>= fun id =>
        pure (Form.nameType id location (.userDefined path)) : Form Node).plan
          settings document := by
  have named : document.readText settings.layout "name" = .ok name :=
    DocumentNode.readText_of_scalar? names.name
  rw [names.kind, NodeKind.form, Form.userDefinedTypeName, Form.location,
    Form.plan_ask_of_ok rfl names.headed.readLocation, Form.text, Form.plan_ask_of_ok rfl named]

theorem DocumentNode.NamesType.plan_of_spells (spells : TypePath.Spells name) :
    document.kind.form.plan settings document =
      .done ⟨id, location, .typeName (.userDefined (TypePath.ofName name))⟩ := by
  rw [names.plan_form, TypePath.read_of_spells spells]
  change (Form.ask .id >>= _ : Form Node).plan settings document = _
  rw [Form.plan_ask_of_ok rfl names.headed.readId]
  rfl

theorem DocumentNode.NamesType.plan_of_not_spells (wrong : ¬ TypePath.Spells name) :
    document.kind.form.plan settings document =
      .fail (.invariantViolation document.context (.malformedPath name)) := by
  rw [names.plan_form, TypePath.read_of_not_spells wrong]
  rfl

end Named

/-- The form of a type that is given by a name has a result just if the name is not empty,
neither starts nor ends with a dot and has no two dots in a row.  The result then has the one
path that is spelt by the name, so two such nodes have the same path just if they have the
same name.  Any other name is a defect of the document node, whose wording repeats the
name. -/
theorem typePath_exact {settings : Settings} {document : DocumentNode} {id : NodeId}
    {location : SourceLocation} {name : String}
    (names : document.NamesType settings id location name) :
    ((∃ made, document.kind.form.plan settings document = .done made) ↔
      TypePath.Spells name) ∧
    (∀ made, document.kind.form.plan settings document = .done made →
      ∃ path, made = ⟨id, location, .typeName (.userDefined path)⟩ ∧
        TypePath.Valid path ∧ TypePath.name path = name ∧
        (∀ other, TypePath.Valid other → TypePath.name other = name → other = path) ∧
        ∀ (other : DocumentNode) id' location' name' path',
          other.NamesType settings id' location' name' →
          other.kind.form.plan settings other =
            .done ⟨id', location', .typeName (.userDefined path')⟩ →
          (path' = path ↔ name' = name)) ∧
    (¬ TypePath.Spells name →
      document.kind.form.plan settings document =
          .fail (.invariantViolation document.context (.malformedPath name)) ∧
        (Violation.malformedPath name).message = "malformed type path `" ++ name ++ "`") := by
  refine ⟨⟨?_, fun spells => ⟨_, names.plan_of_spells spells⟩⟩, ?_,
    fun wrong => ⟨names.plan_of_not_spells wrong, rfl⟩⟩
  · rintro ⟨made, planned⟩
    by_contra wrong
    cases planned.symm.trans (names.plan_of_not_spells wrong)
  · intro made planned
    by_cases spells : TypePath.Spells name
    · cases planned.symm.trans (names.plan_of_spells spells)
      have valid : TypePath.Valid (TypePath.ofName name) :=
        TypePath.valid_ofName (TypePath.not_mem_ofName_iff.2 spells)
      refine ⟨TypePath.ofName name, rfl, valid, TypePath.name_ofName name,
        fun other valid named => TypePath.eq_ofName valid named, ?_⟩
      intro other id' location' name' path' otherNames otherPlanned
      by_cases otherSpells : TypePath.Spells name'
      · cases otherPlanned.symm.trans (otherNames.plan_of_spells otherSpells)
        exact TypePath.ofName_inj
      · cases otherPlanned.symm.trans (otherNames.plan_of_not_spells otherSpells)
    · cases planned.symm.trans (names.plan_of_not_spells spells)

/-! ## Two names -/

/-- A document node for a type, given by a name. -/
def namedType (name : String) : DocumentNode :=
  ⟨[("nodeType", .str "UserDefinedTypeName"), ("id", .int 4), ("src", .str "5:16"),
    ("name", .str name)], .userDefinedTypeName, .nodeType⟩

theorem namesType_namedType (name : String) :
    (namedType name).NamesType { source := "a.sol" } 4 ⟨"a.sol", ⟨5, 16⟩⟩ name where
  kind := rfl
  headed := by
    refine ⟨rfl, rfl, "5:16", rfl, Span.ofMarker?_eq_some_iff.1 ?_⟩
    decide +kernel
  name := rfl

/-- A name of two segments is read, and one with a segment missing is refused. -/
theorem typePath_exact_point :
    (namedType "Lib.Point").kind.form.plan { source := "a.sol" } (namedType "Lib.Point") =
        .done ⟨4, ⟨"a.sol", ⟨5, 16⟩⟩, .typeName (.userDefined ["Lib", "Point"])⟩ ∧
      (namedType "Lib..Point").kind.form.plan { source := "a.sol" } (namedType "Lib..Point") =
        .fail (.invariantViolation ⟨some .userDefinedTypeName, some 4⟩
          (.malformedPath "Lib..Point")) := by
  constructor
  · have known := typePath_exact (namesType_namedType "Lib.Point")
    rcases known.1.2 (by decide +kernel) with ⟨made, planned⟩
    rcases known.2.1 made planned with ⟨path, rfl, _, _, unique, _⟩
    rw [planned, unique ["Lib", "Point"] (by decide) (by decide +kernel)]
  · exact ((typePath_exact (namesType_namedType "Lib..Point")).2.2 (by decide +kernel)).1

end ContractTree
