import ContractTree.Proofs.Conversion.Swapped
import ContractTree.Proofs.Document.Routes
import ContractTree.Proofs.Import.Blame

namespace ContractTree

/-!
# Documents with one node replaced

When a node of a document is replaced, the import of the document changes just as the
conversion of that node on its own does: it fails with the same error, it fails because
the place admits no such node, or its tree has the new node in place of the old one.
Routes lead to all nodes of a document that are converted, and to nothing else.
-/

/-! ## Routes lead to what is converted -/

/-- What is attempted in the conversion of a value is what routes lead to. -/
theorem attempted_iff_siteAt? {settings : Settings} {depth : Nat} {value inner : Json}
    {node : Node} (finished : (journal settings depth value).result = .ok node) :
    (∃ level, .attempt level inner ∈ (journal settings depth value).events.tail) ↔
      ∃ route parent site, value.siteAt? settings.layout route = some (parent, site) ∧
        site.place.value? = some inner := by
  rcases journal_account finished with ⟨document, account⟩
  -- What is attempted in the value of one place stands there or is attempted below.
  have below : ∀ {place : Place} {child : Json}, place ∈ document.places settings.layout →
      place.value? = some child → ((∃ level,
        .attempt level inner ∈ (journal settings (depth + 1) child).events) ↔
          inner = child ∨ ∃ route parent site,
            child.siteAt? settings.layout route = some (parent, site) ∧
              site.place.value? = some inner) := by
    intro place child listed stands
    have smaller := DocumentNode.height_lt_of_mem_places listed stands
    rcases account.converts place listed child stands with ⟨made, converted⟩
    rw [← attempted_iff_siteAt? converted]
    rcases journal_account converted with ⟨other, accountChild⟩
    simp only [accountChild.attempt_iff, exists_or, exists_and_right, exists_eq, true_and]
  simp only [account.attempt_tail_iff]
  constructor
  · rintro ⟨level, place, listed, child, stands, happened⟩
    rcases DocumentNode.exists_site listed with ⟨index, site, found, rfl⟩
    rcases (below listed stands).1 ⟨level, happened⟩ with rfl | ⟨route, parent, last, at', given⟩
    · exact ⟨[index], document, site, Json.siteAt?_here account.read found, stands⟩
    · exact ⟨index :: route, parent, last,
        Json.siteAt?_below account.read found stands at', given⟩
  · rintro ⟨route, parent, site, position, stands⟩
    cases route with
    | nil => cases position
    | cons index route =>
      rcases Json.siteAt?_cons position with ⟨other, here, read, found, last | more⟩
      all_goals
        cases read.symm.trans account.read
        have listed := DocumentNode.mem_places_of_site (List.mem_of_getElem? found)
      · rcases last with ⟨rfl, rfl, rfl⟩
        rcases (below listed stands).2 (.inl rfl) with ⟨level, happened⟩
        exact ⟨level, _, listed, _, stands, happened⟩
      · rcases more with ⟨_, child, standsChild, at'⟩
        rcases (below listed standsChild).2 (.inr ⟨route, parent, site, at', stands⟩) with
          ⟨level, happened⟩
        exact ⟨level, _, listed, _, standsChild, happened⟩
termination_by value.height
decreasing_by
  rw [DocumentNode.ofJson?_eq_ok account.read]
  exact smaller

section Composed

variable {settings : Settings} (lenient : settings.rejectDuplicateIds = false)
  (unbounded : settings.maxDepth = none)

include lenient unbounded

theorem isObject_of_convertAlone {value : Json} {node : Node}
    (converted : convertAlone settings value = .ok node) : value.isObject = true := by
  rw [← result_eq_convertAlone lenient unbounded 0] at converted
  rcases fill_of_journal converted with ⟨document, read, _, _⟩
  rw [DocumentNode.ofJson?_eq_ok read]
  rfl

/-! ## One node with another object in a place -/

section Step

variable {value old new : Json} {node : Node} {document : DocumentNode} {index : Nat}
  {seat : Seat} {place : Place} (converted : convertAlone settings value = .ok node)
  (read : DocumentNode.ofJson? value = .ok document)
  (found : (document.sites settings.layout)[index]? = some ⟨seat, place⟩)
  (stands : place.value? = some old)

include converted read found stands

theorem swap_of_site (object : new.isObject = true) :
    Swap settings.layout document seat place old new := by
  have listed := List.mem_of_getElem? found
  refine ⟨listed, stands, ?_, object⟩
  rw [← result_eq_convertAlone lenient unbounded 0] at converted
  rcases journal_account converted with ⟨other, account⟩
  cases read.symm.trans account.read
  have member : place ∈ document.places settings.layout := DocumentNode.mem_places_of_site listed
  rcases account.converts place member old stands with ⟨was, convertedOld⟩
  rw [result_eq_convertAlone lenient unbounded] at convertedOld
  exact isObject_of_convertAlone lenient unbounded convertedOld

/-- What stands in a place of a node that can be converted can be converted, to a node
of the category that is expected there. -/
theorem convertAlone_of_site :
    ∃ was, convertAlone settings old = .ok was ∧
      (document.kind.expected seat.key).accepts was.kind = true := by
  have alone := result_eq_convertAlone lenient unbounded
  have swap : Swap settings.layout document seat place old (.obj []) :=
    swap_of_site lenient unbounded converted read found stands rfl
  rcases swap.admitted read ((alone 0 value).trans converted) with ⟨was, admitted⟩
  rcases Seat.converted_of_outcome admitted with ⟨convertedOld, accepted⟩
  exact ⟨was, (alone 1 old).symm.trans convertedOld, accepted⟩

variable (object : new.isObject = true)

include object

/-- A node fails as the value in one of its places does. -/
theorem convertAlone_put_of_error {cause : ImportError}
    (failed : convertAlone settings new = .error cause) :
    convertAlone settings (document.put seat new).toJson = .error cause := by
  have alone := result_eq_convertAlone lenient unbounded
  have swap := swap_of_site lenient unbounded converted read found stands object
  rw [← alone 0]
  refine swap.journal_put_of_error read ((alone 0 value).trans converted) ?_
  exact Seat.outcome_of_error object ((alone 1 new).trans failed)

/-- A node of a category that is not expected in a place is an error of the node that has
the place. -/
theorem convertAlone_put_of_refused {made : Node}
    (convertedNew : convertAlone settings new = .ok made)
    (refused : (document.kind.expected seat.key).accepts made.kind = false) :
    convertAlone settings (document.put seat new).toJson =
      .error (.invariantViolation document.context
        (.unexpectedChild seat.key (document.kind.expected seat.key) made.kind)) := by
  have alone := result_eq_convertAlone lenient unbounded
  have swap := swap_of_site lenient unbounded converted read found stands object
  rw [← alone 0]
  refine swap.journal_put_of_error read ((alone 0 value).trans converted) ?_
  exact Seat.outcome_of_refused object ((alone 1 new).trans convertedNew) refused

variable {made : Node} (convertedNew : convertAlone settings new = .ok made)
  (accepted : (document.kind.expected seat.key).accepts made.kind = true)

include convertedNew accepted

/-- A node with another node in one of its places differs in that child only. -/
theorem convertAlone_put_of_accepted (other : document.kind ≠ .elementaryTypeNameExpression)
    {was : Node} (convertedOld : convertAlone settings old = .ok was) :
    ∃ after, convertAlone settings (document.put seat new).toJson = .ok after ∧
      node.Parallel after ∧ node.children[index]? = some was ∧
      after.children = node.children.set index made := by
  have alone := result_eq_convertAlone lenient unbounded
  have swap := swap_of_site lenient unbounded converted read found stands object
  have finished := (alone 0 value).trans converted
  have admitted := Seat.outcome_of_accepted object ((alone 1 new).trans convertedNew) accepted
  rcases swap.journal_put_of_ok read finished other admitted with ⟨after, finishedPut, parallel⟩
  rcases swap.children_put read finished other found finishedPut parallel
    ((alone 1 old).trans convertedOld) ((alone 1 new).trans convertedNew) with ⟨child, children⟩
  exact ⟨after, (alone 0 _).symm.trans finishedPut, parallel, child, children⟩

/-- An expression whose type is given by another node has the type of that node. -/
theorem convertAlone_put_of_type (kind : document.kind = .elementaryTypeNameExpression)
    {was : Node} (convertedOld : convertAlone settings old = .ok was) :
    ∃ after, convertAlone settings (document.put seat new).toJson = .ok after ∧
      was.Replaced made [index] node after := by
  have alone := result_eq_convertAlone lenient unbounded
  have swap := swap_of_site lenient unbounded converted read found stands object
  have finished := (alone 0 value).trans converted
  have admitted : seat.outcome settings 1 document new = .ok made :=
    Seat.outcome_of_accepted object ((alone 1 new).trans convertedNew) accepted
  rcases swap.admitted read finished with ⟨child, admittedOld⟩
  have same := (alone 1 old).symm.trans (Seat.converted_of_outcome admittedOld).1
  cases convertedOld.symm.trans same
  -- An expression has at most one place.
  have sites : document.sites settings.layout = document.typeOnlySites := by
    rw [DocumentNode.sites, kind]
  have listed := swap.listed
  rw [sites] at found listed
  have first : index = 0 := by
    have inside := (List.getElem?_eq_some_iff.1 found).1
    have short := document.length_typeOnlyPlaces_le "typeName"
    rw [DocumentNode.typeOnlySites, List.length_map] at inside
    omega
  subst first
  rcases DocumentNode.holds_of_mem_typeOnlySites listed stands with ⟨_, rfl, _⟩
  rcases swap.journal_put_of_type kind read finished admittedOld admitted with
    ⟨id, location, before, after, typeOld, typeNew, rfl, finishedPut⟩
  exact ⟨_, (alone 0 _).symm.trans finishedPut, .type typeOld typeNew⟩

end Step

/-- A route does not go on from the name of the type of an expression. -/
theorem not_below_type {inner : Json} {document parent : DocumentNode} {site : Site}
    {index : Nat} {seat : Seat} {place : Place} {route : List Nat} {child : Node}
    (found : (document.sites settings.layout)[index]? = some ⟨seat, place⟩)
    (stands : place.value? = some inner) (kind : document.kind = .elementaryTypeNameExpression)
    (converted : convertAlone settings inner = .ok child)
    (accepted : (document.kind.expected seat.key).accepts child.kind = true) :
    inner.siteAt? settings.layout route ≠ some (parent, site) := by
  intro position
  have listed := List.mem_of_getElem? found
  rw [DocumentNode.sites, kind] at listed
  rcases DocumentNode.holds_of_mem_typeOnlySites listed stands with ⟨_, rfl, _⟩
  have childKind : child.kind = .elementaryTypeName := by
    have only : ∀ kind : NodeKind, (NodeKind.elementaryTypeNameExpression.expected
        "typeName").accepts kind = true → kind = .elementaryTypeName := by
      intro kind
      cases kind <;> decide
    rw [kind] at accepted
    exact only child.kind accepted
  cases route with
  | nil => cases position
  | cons index route =>
    rcases Json.siteAt?_cons position with ⟨name, here, readName, foundHere, _⟩
    rw [← result_eq_convertAlone lenient unbounded 0] at converted
    rcases journal_account converted with ⟨other, account⟩
    cases readName.symm.trans account.read
    have none : name.sites settings.layout = [] := by
      rw [DocumentNode.sites, DocumentNode.childKeys, ← account.kind_eq, childKind]
      rfl
    rw [none] at foundHere
    cases foundHere

/-! ## A document with another object at the end of a route -/

/-- What becomes of the conversion of a value when an object is put in the place at the
end of a route. -/
theorem convertAlone_putAt {route : List Nat} {value old new : Json} {node : Node}
    {parent : DocumentNode} {site : Site} (converted : convertAlone settings value = .ok node)
    (position : value.siteAt? settings.layout route = some (parent, site))
    (stands : site.place.value? = some old) (object : new.isObject = true) :
    (∀ cause, convertAlone settings new = .error cause →
      convertAlone settings (value.putAt settings.layout route new) = .error cause) ∧
    ∀ made, convertAlone settings new = .ok made →
      let expected := parent.kind.expected site.seat.key
      (expected.accepts made.kind = false →
        convertAlone settings (value.putAt settings.layout route new) =
          .error (.invariantViolation parent.context
            (.unexpectedChild site.seat.key expected made.kind))) ∧
      (expected.accepts made.kind = true →
        ∃ was after, convertAlone settings old = .ok was ∧
          convertAlone settings (value.putAt settings.layout route new) = .ok after ∧
          was.Replaced made route node after) := by
  induction route generalizing value node with
  | nil => cases position
  | cons index route ih =>
    rcases Json.siteAt?_cons position with ⟨document, ⟨seat, place⟩, read, found, last | more⟩
    · rcases last with ⟨rfl, rfl, rfl⟩
      have put : value.putAt settings.layout [index] new = (parent.put seat new).toJson :=
        Json.putAt_cons read found stands
      rw [put]
      refine ⟨fun cause failed => convertAlone_put_of_error lenient unbounded converted read found
        stands object failed, fun made convertedNew => ⟨fun refused => convertAlone_put_of_refused
          lenient unbounded converted read found stands object convertedNew refused,
            fun accepted => ?_⟩⟩
      rcases convertAlone_of_site lenient unbounded converted read found stands with
        ⟨was, convertedOld, _⟩
      by_cases kind : parent.kind = .elementaryTypeNameExpression
      · rcases convertAlone_put_of_type lenient unbounded converted read found stands object
          convertedNew accepted kind convertedOld with ⟨after, convertedPut, replaced⟩
        exact ⟨was, after, convertedOld, convertedPut, replaced⟩
      · rcases convertAlone_put_of_accepted lenient unbounded converted read found stands object
          convertedNew accepted kind convertedOld with
            ⟨after, convertedPut, parallel, child, children⟩
        exact ⟨was, after, convertedOld, convertedPut, .child parallel child .here children⟩
    · rcases more with ⟨more, inner, standsInner, positionInner⟩
      rcases convertAlone_of_site lenient unbounded converted read found standsInner with
        ⟨child, convertedInner, accepted⟩
      have objectPut : (inner.putAt settings.layout route new).isObject = true :=
        Json.isObject_putAt object (isObject_of_convertAlone lenient unbounded convertedInner)
      have put : value.putAt settings.layout (index :: route) new =
          (document.put seat (inner.putAt settings.layout route new)).toJson :=
        Json.putAt_cons read found standsInner
      rcases ih convertedInner positionInner with ⟨fails, converts⟩
      rw [put]
      have failing : ∀ cause,
          convertAlone settings (inner.putAt settings.layout route new) = .error cause →
            convertAlone settings
              (document.put seat (inner.putAt settings.layout route new)).toJson = .error cause :=
        fun cause failed => convertAlone_put_of_error lenient unbounded converted read found
          standsInner objectPut failed
      refine ⟨fun cause failed => failing cause (fails cause failed),
        fun made convertedNew => ⟨fun refused => failing _ ((converts made convertedNew).1 refused),
          fun acceptedNew => ?_⟩⟩
      rcases (converts made convertedNew).2 acceptedNew with
        ⟨was, after, convertedOld, convertedAfter, replaced⟩
      have acceptedAfter : (document.kind.expected seat.key).accepts after.kind = true := by
        rw [replaced.kind_eq more]
        exact accepted
      have other : document.kind ≠ .elementaryTypeNameExpression := fun kind =>
        not_below_type lenient unbounded found standsInner kind convertedInner accepted
          positionInner
      rcases convertAlone_put_of_accepted lenient unbounded converted read found standsInner
        objectPut convertedAfter acceptedAfter other convertedInner with
          ⟨whole, convertedPut, parallel, listed, children⟩
      exact ⟨was, whole, convertedOld, convertedPut, .child parallel listed replaced children⟩

/-! ## Documents -/

omit lenient unbounded in
theorem convertAlone_of_unknownKind {members : Members} {tag : String}
    (tagged : TagKey.nodeType.string? members = some tag) (unknown : NodeKind.ofTag? tag = none) :
    convertAlone settings (.obj members) = .error (.unknownKind tag) := by
  have resolved : TagKey.resolve members = .error (.unknownKind tag) := by
    rw [TagKey.resolve, tagged]
    simp only [unknown]
  have read : DocumentNode.ofJson? (.obj members) = .error (.unknownKind tag) := by
    rw [DocumentNode.ofJson?, resolved]
  rw [convertAlone, convert_eq_carryOut, Journal.carryOut_apply, journal_of_error read]
  rfl

omit unbounded in
theorem importUnit_of_error {document : Json} {cause : ImportError}
    (failed : convertAlone settings document = .error cause) :
    importUnit settings document = .error cause := by
  rw [importUnit_of_lenient lenient, failed]
  rfl

omit unbounded in
theorem importUnit_of_ok {document : Json} {unit : Node}
    (converted : convertAlone settings document = .ok unit) (isUnit : unit.kind = .sourceUnit) :
    importUnit settings document = .ok unit := by
  rw [importUnit_of_lenient lenient, converted]
  exact if_pos isUnit

/-- When an object takes the place of a node below the root of a document that can be
imported, the import fails with the error that the object fails with on its own.  If the
object is converted to a node that its place does not admit, the import fails with an
error of the node that has the place.  Otherwise the import has the new node in place of
the old one, and nothing else is changed.  So an object with an unknown tag fails the
import, wherever it is put. -/
theorem importUnit_putAt {document old : Json} {unit : Node} {route : List Nat}
    {parent : DocumentNode} {site : Site} (imported : importUnit settings document = .ok unit)
    (position : document.siteAt? settings.layout route = some (parent, site))
    (stands : site.place.value? = some old) (members : Members) :
    let changed := document.putAt settings.layout route (.obj members)
    let expected := parent.kind.expected site.seat.key
    (∀ cause, convertAlone settings (.obj members) = .error cause →
      importUnit settings changed = .error cause) ∧
    (∀ node, convertAlone settings (.obj members) = .ok node →
      expected.accepts node.kind = false →
        importUnit settings changed = .error (.invariantViolation ⟨some parent.kind, parent.id?⟩
          (.unexpectedChild site.seat.key expected node.kind))) ∧
    (∀ node, convertAlone settings (.obj members) = .ok node →
      expected.accepts node.kind = true →
        ∃ was unit', convertAlone settings old = .ok was ∧
          importUnit settings changed = .ok unit' ∧ was.Replaced node route unit unit') ∧
    ∀ tag, TagKey.nodeType.string? members = some tag → NodeKind.ofTag? tag = none →
      importUnit settings changed = .error (.unknownKind tag) := by
  intro changed expected
  rcases journal_of_importUnit imported with ⟨converted, isUnit⟩
  rw [result_eq_convertAlone lenient unbounded] at converted
  rcases convertAlone_putAt lenient unbounded converted position stands
    (show (Json.obj members).isObject = true from rfl) with ⟨fails, converts⟩
  have failing : ∀ cause, convertAlone settings (.obj members) = .error cause →
      importUnit settings changed = .error cause :=
    fun cause failed => importUnit_of_error lenient (fails cause failed)
  refine ⟨failing, fun node convertedNew refused => ?_, fun node convertedNew accepted => ?_,
    fun tag tagged unknown => failing _ (convertAlone_of_unknownKind tagged unknown)⟩
  · exact importUnit_of_error lenient ((converts node convertedNew).1 refused)
  · rcases (converts node convertedNew).2 accepted with
      ⟨was, after, convertedOld, convertedAfter, replaced⟩
    have below : route ≠ [] := by
      rintro rfl
      cases position
    have isUnitAfter : after.kind = .sourceUnit := (replaced.kind_eq below).trans isUnit
    exact ⟨was, after, convertedOld, importUnit_of_ok lenient convertedAfter isUnitAfter,
      replaced⟩

end Composed

/-! ## A unit with another type in an array -/

def arrayMembers : Members :=
  [("nodeType", .str "ArrayTypeName"), ("id", .int 3), ("src", .str "20:40"),
    ("baseType", .obj [("nodeType", .str "ElementaryTypeName"), ("id", .int 4),
      ("src", .str "20:30"), ("name", .str "uint8")])]

def arrayUnit : Json :=
  .obj [("nodeType", .str "SourceUnit"), ("id", .int 1), ("src", .str "0:40"), ("nodes", .arr [
    .obj [("nodeType", .str "EnumValue"), ("id", .int 2), ("src", .str "0:20"), ("name", .str "A")],
    .obj arrayMembers])]

def arraySettings : Settings := { source := "a.sol" }

/-- The tree of the unit, with the node of a type in the array. -/
def arrayUnitTree (type : Node) : Node :=
  ⟨1, ⟨"a.sol", ⟨0, 40⟩⟩, .declaration (.sourceUnit none [
    ⟨2, ⟨"a.sol", ⟨0, 20⟩⟩, .declaration (.enumValue "A")⟩,
    ⟨3, ⟨"a.sol", ⟨20, 40⟩⟩, .typeName (.array type none)⟩])⟩

def structMembers : Members :=
  [("nodeType", .str "UserDefinedTypeName"), ("id", .int 9), ("src", .str "20:31"),
    ("name", .str "A.B")]

def structNode : Node := ⟨9, ⟨"a.sol", ⟨20, 31⟩⟩, .typeName (.userDefined ["A", "B"])⟩

def elementaryNode : Node :=
  ⟨4, ⟨"a.sol", ⟨20, 30⟩⟩, .typeName (.elementary (.sizedUint 8))⟩

/-- With another type in the array the tree has that type there, with a node that is no
type the array is to blame, and with an unknown one this is the error. -/
theorem importUnit_putAt_arrayUnit :
    (importUnit arraySettings arrayUnit = .ok (arrayUnitTree elementaryNode) ∧
      importUnit arraySettings (arrayUnit.putAt .auto [1, 0] (.obj structMembers)) =
        .ok (arrayUnitTree structNode) ∧
      elementaryNode.Replaced structNode [1, 0] (arrayUnitTree elementaryNode)
        (arrayUnitTree structNode)) ∧
    importUnit arraySettings (arrayUnit.putAt .auto [1, 0] (.obj [("nodeType", .str "EnumValue"),
      ("id", .int 9), ("src", .str "20:30"), ("name", .str "B")])) =
        .error (.invariantViolation ⟨some .arrayTypeName, some 3⟩
          (.unexpectedChild "baseType" .typeName .enumValue)) ∧
    importUnit arraySettings (arrayUnit.putAt .auto [1, 0] (.obj [("nodeType", .str "Tuple")])) =
      .error (.unknownKind "Tuple") := by
  have imported : importUnit arraySettings arrayUnit = .ok (arrayUnitTree elementaryNode) := by
    decide +kernel
  have position : arrayUnit.siteAt? arraySettings.layout [1, 0] =
      some (⟨arrayMembers, .arrayTypeName, .nodeType⟩, ⟨.field "baseType", .node (.obj
        [("nodeType", .str "ElementaryTypeName"), ("id", .int 4), ("src", .str "20:30"),
          ("name", .str "uint8")])⟩) := by
    rfl
  have put := importUnit_putAt rfl rfl imported position rfl
  refine ⟨?_, ?_, ?_⟩
  · have converted : convertAlone arraySettings (.obj structMembers) = .ok structNode := by
      decide +kernel
    have changed : importUnit arraySettings (arrayUnit.putAt .auto [1, 0] (.obj structMembers)) =
        .ok (arrayUnitTree structNode) := by
      decide +kernel
    rcases (put structMembers).2.2.1 structNode converted (by decide) with
      ⟨was, unit', convertedOld, changed', replaced⟩
    have old : convertAlone arraySettings (.obj [("nodeType", .str "ElementaryTypeName"),
        ("id", .int 4), ("src", .str "20:30"), ("name", .str "uint8")]) = .ok elementaryNode := by
      decide +kernel
    cases old.symm.trans convertedOld
    cases changed.symm.trans changed'
    exact ⟨imported, changed, replaced⟩
  · refine (put _).2.1 ⟨9, ⟨"a.sol", ⟨20, 30⟩⟩, .declaration (.enumValue "B")⟩ ?_ (by decide)
    decide +kernel
  · exact (put _).2.2.2 "Tuple" (by decide) (by decide)

end ContractTree
