import ContractTree.Proofs.Form.Relocated
import ContractTree.Proofs.Import.Corresponding
import ContractTree.Proofs.Import.Grammar
import ContractTree.Tree.Equality

namespace ContractTree

/-!
# What the name of a source is for

An import puts the name of its source into locations and does nothing else with it.
Under two names a document fails with the same error, or it has two trees of which the
one is the other with the source renamed.

Locations are made in several places: from the range of a node, for a root without
one, for names that become identifiers, and for references of inline assembly.  In each
the two imports make locations that differ by the name, and forms pass them on.
-/

/-- What is related to an answer by a function is its image. -/
theorem Option.eq_map_of_rel {α β : Type} {f : α → β} {answer : Option α} {image : Option β}
    (related : Option.Rel (fun answer image => image = f answer) answer image) :
    image = answer.map f := by
  cases related with
  | none => rfl
  | some same => exact congrArg some same

/-- A list that is related to another by a function is its image. -/
theorem List.eq_map_of_forall₂ {α β : Type} {f : α → β} {items : List α} {images : List β}
    (each : List.Forall₂ (fun item image => image = f item) items images) :
    images = items.map f := by
  induction each with
  | nil => rfl
  | cons here _ ih => rw [here, ih, List.map_cons]

/-! ## Locations that are read under two names -/

section Readers

variable (old new : SourceName)

theorem readPlace_rename (marker : String) :
    readPlace new marker = (readPlace old marker).map (SourceLocation.rename old new) := by
  unfold readPlace SourceLocation.ofMarker?
  cases Span.ofMarker? marker with
  | none => rfl
  | some span =>
    have renamed := SourceLocation.rename_self old new span
    exact congrArg Except.ok renamed.symm

namespace DocumentNode

theorem readLocation?_rename (document : DocumentNode) :
    document.readLocation? new =
      (document.readLocation? old).map (Option.map (SourceLocation.rename old new)) := by
  unfold readLocation?
  cases document.readMarker? with
  | error defect => rfl
  | ok found =>
    cases found with
    | none => rfl
    | some marker =>
      change (readPlace new marker >>= fun location => pure (some location)) =
        Except.map _ (readPlace old marker >>= fun location => pure (some location))
      rw [readPlace_rename old new]
      cases readPlace old marker <;> rfl

theorem readLocation_rename (document : DocumentNode) :
    document.readLocation new =
      (document.readLocation old).map (SourceLocation.rename old new) := by
  unfold readLocation
  rw [readLocation?_rename old new]
  cases document.readLocation? old with
  | error defect => rfl
  | ok found => cases found <;> rfl

end DocumentNode

theorem ExternalReference.readLocation?_rename (info : Members) :
    readLocation? new info =
      (readLocation? old info).map (Option.map (SourceLocation.rename old new)) := by
  unfold readLocation?
  cases info.find? "src" with
  | none => rfl
  | some value =>
    cases value with
    | str marker =>
      change (readPlace new marker).map some = ((readPlace old marker).map some).map _
      rw [readPlace_rename old new]
      cases readPlace old marker <;> rfl
    | _ => rfl

/-- The fields of a reference are read in the same order, and so fail alike. -/
theorem ExternalReference.read_corresponds (value : Json) :
    Corresponding (fun first second => second = relocate (SourceLocation.rename old new) first)
      (read old value) (read new value) := by
  have same : ∀ {α : Type} (checked : Checked α), Corresponding Eq checked checked :=
    fun checked => .refl (fun _ => rfl) checked
  unfold read
  split
  · next name info =>
    refine (same (readDeclaration? info)).bind fun declaration _ declared => ?_
    refine (same (readValueSize info)).bind fun size _ sized => ?_
    refine (Corresponding.of_map (readLocation?_rename old new info)).bind
      fun location _ located => ?_
    refine (same (readFlag info "isOffset")).bind fun isOffset _ offset => ?_
    refine (same (readFlag info "isSlot")).bind fun isSlot _ slot => ?_
    subst declared sized located offset slot
    exact .ok rfl
  · exact .error _

theorem DocumentNode.readReferences_rename (document : DocumentNode) :
    document.readReferences new = (document.readReferences old).map
      (List.map (ExternalReference.relocate (SourceLocation.rename old new))) := by
  refine Corresponding.eq_map ?_
  refine (Corresponding.refl (fun _ => rfl) (document.readItems "externalReferences")).bind
    fun items _ same => ?_
  subst same
  have each : List.Forall₂ (fun item other => Corresponding
      (fun first second => second = first.relocate (SourceLocation.rename old new))
      (ExternalReference.read old item) (ExternalReference.read new other)) items items :=
    List.forall₂_same.2 fun item _ => ExternalReference.read_corresponds old new item
  exact (Corresponding.mapM each).imp fun _ _ references => List.eq_map_of_forall₂ references

end Readers

/-! ## Answers under two names -/

/-- The settings of an import under another name. -/
def Settings.naming (settings : Settings) (name : SourceName) : Settings :=
  { settings with source := name }

section Answers

variable (settings : Settings) (name : SourceName)

/-- What becomes of the locations of an import. -/
def Settings.renaming : SourceLocation → SourceLocation :=
  SourceLocation.rename settings.source name

theorem Settings.wholeSource_naming :
    (settings.naming name).wholeSource = settings.renaming name settings.wholeSource :=
  (SourceLocation.rename_self ..).symm

theorem Node.keeping_relocate (change : SourceLocation → SourceLocation) :
    Node.Keeping fun first second => second = first.relocate change :=
  ⟨fun first _ same => by rw [same, kind_relocate],
    fun first _ same => by rw [same, elementaryType?_relocate]⟩

/-- Two journals that end with a node and with the same node under the other name. -/
abbrev Journal.Renames : Journal Node → Journal Node → Prop :=
  Journal.Corresponds fun first second => second = first.relocate (settings.renaming name)

variable {settings name} {depth : Nat} {document : DocumentNode}

theorem SymbolAlias.eq_map_of_like {change : SourceLocation → SourceLocation}
    {first second : SymbolAlias (String ⊕ Node)}
    (like : SymbolAlias.Like (fun node other => other = node.relocate change) first second) :
    second = first.map (Sum.map (fun name => name) (Node.relocate change)) := by
  rcases first with ⟨foreign, localName⟩
  rcases second with ⟨other, otherName⟩
  rcases like with ⟨related, same⟩
  cases same
  cases related with
  | inl same => rw [same]; rfl
  | inr same => rw [same]; rfl

/-- A question whose answer holds no locations is answered alike. -/
theorem Field.corresponds_of_kept (field : Field) (checked : Checked field.Answer)
    (kept : ∀ answer, field.relocate (settings.renaming name) answer = answer)
    (planned : field.plan settings document = .ofChecked document checked)
    (following : field.plan (settings.naming name) document = .ofChecked document checked) :
    Journal.Corresponds (field.Relocated (settings.renaming name))
      (field.answer settings depth document)
      (field.answer (settings.naming name) depth document) :=
  corresponds_of_checked rfl field (.refl (fun answer => (kept answer).symm) checked) planned
    following

section Below

variable (converts : ∀ value : Json, value.height < document.height →
  Journal.Renames settings name (journal settings depth value)
    (journal (settings.naming name) depth value))

include converts

/-- A value below a document node is converted alike under both names. -/
theorem Json.convertsLike_naming {value : Json} (smaller : value.height < document.height) :
    Json.ConvertsLike (fun first second => second = first.relocate (settings.renaming name))
      settings (settings.naming name) depth value value :=
  ⟨rfl, rfl, rfl, converts value smaller⟩

theorem DocumentNode.structural?_naming (key : String) :
    Option.Rel (Json.ConvertsLike (fun first second =>
        second = first.relocate (settings.renaming name)) settings (settings.naming name) depth)
      (document.structural? key) (document.structural? key) := by
  cases stands : document.structural? key with
  | none => exact .none
  | some value =>
    exact .some (Json.convertsLike_naming converts (DocumentNode.height_structural_lt stands))

omit converts in
/-- The items of a list are related to themselves if each is. -/
theorem DocumentNode.readItems_naming {similar : Json → Json → Prop} (key : String)
    (each : ∀ item : Json, item.height < document.height → similar item item) :
    Corresponding (List.Forall₂ similar) (document.readItems key) (document.readItems key) := by
  cases read : document.readItems key with
  | error defect => exact .error defect
  | ok items =>
    exact .ok (List.forall₂_same.2 fun item member =>
      each item (DocumentNode.height_item_lt read member))

theorem Json.aliasLike_naming {item : Json} (smaller : item.height < document.height) :
    Option.Rel (Members.AliasLike (Json.ConvertsLike (fun first second =>
        second = first.relocate (settings.renaming name)) settings (settings.naming name) depth))
      item.asObject? item.asObject? := by
  cases item with
  | obj members =>
    refine .some ⟨rfl, ?_⟩
    cases found : Members.find? members "foreign" with
    | none => exact .none
    | some value =>
      have inside := Nat.lt_trans (Members.height_lt_of_find? found) smaller
      exact .some (Json.convertsLike_naming converts inside)
  | _ => exact .none

/-- The answers of a document node are renamed if the nodes below it are. -/
theorem Field.corresponds_naming (field : Field) :
    Journal.Corresponds (field.Relocated (settings.renaming name))
      (field.answer settings depth document)
      (field.answer (settings.naming name) depth document) := by
  have keeping := Node.keeping_relocate (settings.renaming name)
  have one := DocumentNode.structural?_naming converts
  have many := fun key => document.readItems_naming key fun _ => Json.convertsLike_naming converts
  cases field with
  | child key category => exact corresponds_child keeping rfl (one key)
  | child? key category =>
    exact (corresponds_child? keeping rfl (one key)).imp fun _ _ => Option.eq_map_of_rel
  | elementaryChild key =>
    exact (corresponds_elementaryChild keeping rfl (one key)).imp fun _ _ => Eq.symm
  | children key category =>
    exact (corresponds_children keeping rfl (many key)).imp fun _ _ => List.eq_map_of_forall₂
  | gappedChildren key category =>
    refine (corresponds_gappedChildren keeping rfl (many key)).imp fun _ _ related => ?_
    exact List.eq_map_of_forall₂ (related.imp fun _ _ => Option.eq_map_of_rel)
  | aliases =>
    refine (corresponds_aliases keeping rfl (document.readItems_naming "symbolAliases"
      fun _ => Json.aliasLike_naming converts)).imp fun _ _ related => ?_
    exact List.eq_map_of_forall₂ (related.imp fun _ _ => SymbolAlias.eq_map_of_like)
  | location =>
    exact corresponds_of_checked rfl .location
      (.of_map (document.readLocation_rename settings.source name)) rfl rfl
  | locationOrWhole =>
    refine corresponds_of_checked rfl .locationOrWhole (.of_map ?_) rfl rfl
    change (document.readLocation? name).map (·.getD (settings.naming name).wholeSource) = _
    rw [document.readLocation?_rename settings.source name, settings.wholeSource_naming]
    cases document.readLocation? settings.source with
    | error defect => rfl
    | ok found => cases found <;> rfl
  | references =>
    exact corresponds_of_checked rfl .references
      (.of_map (document.readReferences_rename settings.source name)) rfl rfl
  | idOrZero | typeString | holds _ | holdsObject _ =>
    exact corresponds_of_kept _ (.ok _) (fun _ => rfl) rfl rfl
  | _ => exact corresponds_of_kept _ _ (fun _ => rfl) rfl rfl

end Below

variable (settings name) in
/-- The conversions of a value under both names. -/
theorem journal_naming (depth : Nat) (value : Json) :
    Journal.Renames settings name (journal settings depth value)
      (journal (settings.naming name) depth value) := by
  refine journal_corresponds rfl ?_
  cases read : DocumentNode.ofJson? value with
  | error cause => exact .error cause
  | ok document =>
    refine .ok ⟨rfl, fun _ => ?_⟩
    exact Form.Parallel.corresponds rfl
      (fun field _ => Field.corresponds_naming
        (fun child smaller => journal_naming (depth + 1) child) field)
      (Form.parallel_relocated (settings.renaming name) document.kind)
      ((Form.asks_true document.kind.form).2 trivial)
termination_by value.height
decreasing_by
  rw [DocumentNode.ofJson?_eq_ok read]
  exact smaller

end Answers

/-! ## Imports under two names -/

/-- The imports of a document under two names. -/
theorem importUnit_naming (settings : Settings) (name : SourceName) (document : Json) :
    Corresponding (fun first second => second = first.relocate (settings.renaming name))
      (importUnit settings document) (importUnit (settings.naming name) document) :=
  importUnit_corresponds rfl (Node.keeping_relocate _) rfl (journal_naming settings name 0 document)

/-- All locations of an imported tree name its source. -/
theorem names_of_importUnit {settings : Settings} {document : Json} {unit : Node}
    (imported : importUnit settings document = .ok unit) :
    unit.Everywhere (Node.Names settings.source) :=
  (grammatical_of_importUnit imported).imp fun _ grammatical => grammatical.names

/-- The name of a source only labels locations.  Under two names a document fails with
the same errors, and if it has trees, all locations of each name its own source, and
renaming the source in the one tree makes the other. -/
theorem importUnit_renamed (options : ImportOptions) (document : Json) (old new : SourceName) :
    (∀ cause, importUnit { options with source := old } document = .error cause ↔
      importUnit { options with source := new } document = .error cause) ∧
    ∀ first second, importUnit { options with source := old } document = .ok first →
      importUnit { options with source := new } document = .ok second →
        first.Everywhere (Node.Names old) ∧ second.Everywhere (Node.Names new) ∧
          second = first.relocate (SourceLocation.rename old new) := by
  have imports := importUnit_naming { options with source := old } new document
  constructor
  · intro cause
    change _ ↔ importUnit (Settings.naming { options with source := old } new) document = _
    generalize importUnit { options with source := old } document = first,
      importUnit (Settings.naming { options with source := old } new) document = second at imports
    cases imports with
    | error cause => rfl
    | ok _ => exact iff_of_false nofun nofun
  · intro first second imported importedAlso
    refine ⟨names_of_importUnit imported, names_of_importUnit importedAlso, ?_⟩
    change importUnit (Settings.naming { options with source := old } new) document = _
      at importedAlso
    rw [imported, importedAlso] at imports
    cases imports with
    | ok same => exact same

/-! ## A unit with locations of all sorts -/

/-- A unit without a range of its own, an alias that is a bare name, a modifier that is a
bare name, and a reference with a range. -/
def locatedUnit : Json :=
  .obj [("nodeType", .str "SourceUnit"), ("id", .int 1), ("nodes", .arr [
    .obj [("nodeType", .str "ImportDirective"), ("id", .int 2), ("src", .str "0:20"),
      ("file", .str "b.sol"), ("unitAlias", .str ""),
      ("symbolAliases", .arr [.obj [("foreign", .str "A"), ("local", .null)]])],
    .obj [("nodeType", .str "InlineAssembly"), ("id", .int 3), ("src", .str "20:60"),
      ("operations", .str "{ x := 1 }"), ("externalReferences", .arr [
        .obj [("x", .obj [("declaration", .int 9), ("src", .str "30:31"),
          ("isOffset", .bool false), ("isSlot", .bool false), ("valueSize", .int 1)])]])]])]

/-- The tree of the unit in a source. -/
def locatedTree (source : SourceName) : Node :=
  ⟨1, ⟨source, ⟨0, 80⟩⟩, .declaration (.sourceUnit none [
    ⟨2, ⟨source, ⟨0, 20⟩⟩, .declaration (.importDirective "b.sol" "" [
      ⟨⟨2, ⟨source, ⟨0, 20⟩⟩, .expression (.identifier "A")⟩, none⟩])⟩,
    ⟨3, ⟨source, ⟨20, 60⟩⟩, .statement (.inlineAssembly "{ x := 1 }" [
      ⟨"x", some 9, false, false, 1, some ⟨source, ⟨30, 31⟩⟩⟩])⟩])⟩

theorem importUnit_renamed_locatedUnit :
    importUnit { rootLength := some 80, source := "a.sol" } locatedUnit =
        .ok (locatedTree "a.sol") ∧
      importUnit { rootLength := some 80, source := "b.sol" } locatedUnit =
        .ok (locatedTree "b.sol") ∧
      (locatedTree "a.sol").Everywhere (Node.Names "a.sol") ∧
      (locatedTree "b.sol").Everywhere (Node.Names "b.sol") ∧
      locatedTree "b.sol" =
        (locatedTree "a.sol").relocate (SourceLocation.rename "a.sol" "b.sol") := by
  have first : importUnit { rootLength := some 80, source := "a.sol" } locatedUnit =
      .ok (locatedTree "a.sol") := by decide +kernel
  have second : importUnit { rootLength := some 80, source := "b.sol" } locatedUnit =
      .ok (locatedTree "b.sol") := by decide +kernel
  refine ⟨first, second, ?_⟩
  exact (importUnit_renamed { rootLength := some 80 } locatedUnit "a.sol" "b.sol").2 _ _ first
    second

end ContractTree
