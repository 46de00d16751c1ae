import ContractTree.Document.Text
import ContractTree.Proofs.Document.Entries
import ContractTree.Proofs.Token.Legal
import ContractTree.Proofs.Tree.Grammar
import ContractTree.Proofs.Tree.Path

namespace ContractTree

/-!
# What readers find

A reader that succeeds has found what it reads in the document.  The identifier and
the location that a node is read to have are those of its entry in the listing, and
the location lies in the source of the import.
-/

section Checks

variable {ε α β : Type}

theorem bind_eq_ok_iff {checked : Except ε α} {next : α → Except ε β} {answer : β} :
    (checked >>= next) = .ok answer ↔
      ∃ middle, checked = .ok middle ∧ next middle = .ok answer := by
  cases checked with
  | ok middle =>
    constructor
    · intro rest
      exact ⟨middle, rfl, rest⟩
    · rintro ⟨_, same, rest⟩
      cases same
      exact rest
  | error cause =>
    constructor
    · intro impossible
      cases impossible
    · rintro ⟨_, impossible, _⟩
      cases impossible

/-- A list is checked item by item. -/
theorem mapM_eq_ok_iff {check : α → Except ε β} {items : List α} {answers : List β} :
    items.mapM check = .ok answers ↔ items.map check = answers.map .ok := by
  induction items generalizing answers with
  | nil =>
    rw [List.mapM_nil, List.map_nil, eq_comm (a := []), List.map_eq_nil_iff]
    constructor
    · rintro ⟨⟩
      rfl
    · rintro rfl
      rfl
  | cons item rest ih =>
    rw [List.mapM_cons, bind_eq_ok_iff]
    constructor
    · rintro ⟨answer, here, behind⟩
      rcases bind_eq_ok_iff.1 behind with ⟨later, there, same⟩
      cases same
      rw [List.map_cons, List.map_cons, here, ih.1 there]
    · intro each
      cases answers with
      | nil => cases each
      | cons answer later =>
        have first := List.cons.inj each
        exact ⟨answer, first.1, bind_eq_ok_iff.2 ⟨later, ih.2 first.2, rfl⟩⟩

variable {check : α → Except ε β} {items : List α}

/-- A list passes a check if each item does. -/
theorem exists_mapM_eq_ok_iff :
    (∃ answers, items.mapM check = .ok answers) ↔
      ∀ item ∈ items, ∃ answer, check item = .ok answer := by
  induction items with
  | nil => exact iff_of_true ⟨[], rfl⟩ fun _ member => (List.not_mem_nil member).elim
  | cons item rest ih =>
    rw [List.forall_mem_cons, ← ih]
    constructor
    · rintro ⟨answers, checked⟩
      rw [List.mapM_cons] at checked
      rcases bind_eq_ok_iff.1 checked with ⟨answer, here, behind⟩
      rcases bind_eq_ok_iff.1 behind with ⟨later, there, _⟩
      exact ⟨⟨answer, here⟩, later, there⟩
    · rintro ⟨⟨answer, here⟩, later, there⟩
      refine ⟨answer :: later, ?_⟩
      rw [List.mapM_cons, here, there]
      rfl

/-- A list fails a check at the first item that does. -/
theorem mapM_eq_error_iff {cause : ε} :
    items.mapM check = .error cause ↔ ∃ before item after, items = before ++ item :: after ∧
      (∀ earlier ∈ before, ∃ answer, check earlier = .ok answer) ∧ check item = .error cause := by
  induction items with
  | nil =>
    refine iff_of_false nofun ?_
    rintro ⟨before, item, after, split, _⟩
    exact List.append_ne_nil_of_right_ne_nil before (List.cons_ne_nil item after) split.symm
  | cons first rest ih =>
    rw [List.mapM_cons]
    cases here : check first with
    | error failure =>
      constructor
      · rintro ⟨⟩
        exact ⟨[], first, rest, rfl, fun _ member => (List.not_mem_nil member).elim, here⟩
      · rintro ⟨before, item, after, split, passed, failed⟩
        cases before with
        | nil =>
          cases split
          rw [here] at failed
          cases failed
          rfl
        | cons earlier later =>
          cases split
          rcases passed first (List.mem_cons_self ..) with ⟨answer, checked⟩
          cases here.symm.trans checked
    | ok answer =>
      have behind : (List.mapM check rest >>= fun later => pure (answer :: later)) =
          .error cause ↔ rest.mapM check = .error cause := by
        cases rest.mapM check with
        | ok later => exact iff_of_false nofun nofun
        | error failure => exact Iff.rfl
      change (List.mapM check rest >>= fun later => pure (answer :: later)) = .error cause ↔ _
      rw [behind, ih]
      constructor
      · rintro ⟨before, item, after, rfl, passed, failed⟩
        refine ⟨first :: before, item, after, rfl, ?_, failed⟩
        exact List.forall_mem_cons.2 ⟨⟨answer, here⟩, passed⟩
      · rintro ⟨before, item, after, split, passed, failed⟩
        cases before with
        | nil =>
          cases split
          cases here.symm.trans failed
        | cons earlier later =>
          cases split
          exact ⟨later, item, after, rfl, (List.forall_mem_cons.1 passed).2, failed⟩

end Checks

/-! ## Texts -/

theorem Token.resolveIn_eq_ok {expected : TokenClass} {text : String} {token : Token}
    (resolved : resolveIn expected text = .ok token) :
    expected.accepts token = true ∧ scan text = .ok token := by
  rcases bind_eq_ok_iff.1 resolved with ⟨found, scanned, checked⟩
  split at checked
  · next accepted =>
    cases checked
    exact ⟨accepted, resolve_eq_ok_iff.1 scanned⟩
  · cases checked

/-- Texts are resolved if they are texts of one token each. -/
theorem Token.map_resolve_eq_iff {texts : List String} {tokens : List Token} :
    texts.map resolve = tokens.map .ok ↔ texts.map scan = tokens.map .ok := by
  induction texts generalizing tokens with
  | nil =>
    cases tokens with
    | nil => exact iff_of_true rfl rfl
    | cons token later => exact iff_of_false (List.cons_ne_nil _ _).symm (List.cons_ne_nil _ _).symm
  | cons text rest ih =>
    cases tokens with
    | nil => exact iff_of_false (List.cons_ne_nil _ _) (List.cons_ne_nil _ _)
    | cons token later =>
      simp only [List.map_cons, List.cons.injEq, resolve_eq_ok_iff, ih]

theorem Token.grammatical_of_resolveElementary {text : String} {type : ElementaryType}
    (resolved : resolveElementary text = .ok type) : type.Grammatical := by
  rcases bind_eq_ok_iff.1 resolved with ⟨token, scanned, checked⟩
  cases token with
  | elementary found =>
    cases checked
    exact ⟨rfl, legal_of_scan (resolve_eq_ok_iff.1 scanned)⟩
  | _ => cases checked

/-- A path that is read off a name has no segment that is empty or has a dot. -/
theorem TypePath.valid_of_read {name : String} {path : List String}
    (read : TypePath.read name = .ok path) : Valid path := by
  unfold TypePath.read at read
  split at read
  · cases read
  · next complete =>
    cases read
    exact valid_ofName complete

/-! ## Locations and identifiers -/

theorem within_of_ofMarker? {source : SourceName} {marker : String} {location : SourceLocation}
    (read : SourceLocation.ofMarker? source marker = some location) : location.Within source := by
  rcases Option.map_eq_some_iff.1 read with ⟨span, found, rfl⟩
  exact ⟨rfl, Span.ordered_of_ofMarker? found⟩

theorem within_of_readPlace {source : SourceName} {marker : String} {location : SourceLocation}
    (read : readPlace source marker = .ok location) : location.Within source := by
  unfold readPlace at read
  split at read
  · next found =>
    cases read
    exact within_of_ofMarker? found
  · cases read

namespace DocumentNode

variable {document : DocumentNode} {settings : Settings}

/-- The location of a listed node lies in the source of the import. -/
theorem within_of_location? {location : SourceLocation}
    (listed : document.location? settings = some location) : location.Within settings.source := by
  unfold location? at listed
  split at listed
  · exact within_of_ofMarker? listed
  · cases listed
  · split at listed
    · cases listed
      exact ⟨rfl, UInt32.zero_le⟩
    · cases listed

theorem nodeId?_of_readId {id : NodeId} (read : document.readId = .ok id) :
    document.nodeId? = some id := by
  have written : document.id? = some id := by
    unfold readId at read
    unfold id?
    split at read
    · cases read
    · next value found =>
      rw [found, Option.bind_some]
      split at read
      · next integral =>
        cases read
        exact integral
      · cases read
  unfold nodeId?
  rw [written]
  split <;> rfl

/-- Reading a location finds no marker, or one that names a location. -/
theorem readLocation?_cases {source : SourceName} {found : Option SourceLocation}
    (read : document.readLocation? source = .ok found) :
    (document.structural? "src" = none ∧ found = none) ∨
    ∃ marker location, document.structural? "src" = some (.str marker) ∧
      SourceLocation.ofMarker? source marker = some location ∧ found = some location := by
  unfold readLocation? readMarker? at read
  cases stands : document.structural? "src" with
  | none =>
    rw [stands] at read
    cases read
    exact .inl ⟨rfl, rfl⟩
  | some value =>
    cases value with
    | str marker =>
      rw [stands] at read
      change (readPlace source marker >>= fun location => pure (some location)) = _ at read
      unfold readPlace at read
      cases place : SourceLocation.ofMarker? source marker with
      | none =>
        rw [place] at read
        cases read
      | some location =>
        rw [place] at read
        cases read
        exact .inr ⟨marker, location, rfl, place, rfl⟩
    | _ =>
      rw [stands] at read
      cases read

theorem location?_of_readLocation {location : SourceLocation}
    (read : document.readLocation settings.source = .ok location) :
    document.location? settings = some location := by
  unfold readLocation at read
  cases marked : document.readLocation? settings.source with
  | error defect =>
    rw [marked] at read
    cases read
  | ok found =>
    rw [marked] at read
    rcases readLocation?_cases marked with ⟨_, rfl⟩ | ⟨marker, other, stands, place, rfl⟩
    · cases read
    · cases read
      unfold location?
      rw [stands]
      exact place

theorem location?_of_whole {location : SourceLocation} (root : document.kind = .sourceUnit)
    (read : (document.readLocation? settings.source).map (·.getD settings.wholeSource) =
      .ok location) :
    document.location? settings = some location := by
  unfold location?
  cases marked : document.readLocation? settings.source with
  | error defect =>
    rw [marked] at read
    cases read
  | ok found =>
    rw [marked] at read
    rcases readLocation?_cases marked with ⟨stands, rfl⟩ | ⟨marker, other, stands, place, rfl⟩
    · cases read
      rw [stands]
      exact if_pos root
    · cases read
      rw [stands]
      exact place

/-! ## Scalars, lists and children -/

theorem scalar?_of_readText {layout : FieldLayout} {key text : String}
    (read : document.readText layout key = .ok text) :
    document.scalar? layout key = some (.str text) := by
  unfold readText readText? at read
  cases found : document.scalar? layout key with
  | none =>
    rw [found] at read
    cases read
  | some value =>
    cases value with
    | str other =>
      rw [found] at read
      cases read
      rfl
    | _ =>
      rw [found] at read
      cases read

theorem scalar?_of_readFlag? {layout : FieldLayout} {key : String} {flag : Option Bool}
    (read : document.readFlag? layout key = .ok flag) :
    document.scalar? layout key = flag.map .bool := by
  unfold readFlag? at read
  split at read
  · next found =>
    cases read
    exact found
  · next other found =>
    cases read
    exact found
  · cases read

theorem readItems_cases {key : String} {items : List Json}
    (read : document.readItems key = .ok items) :
    (document.structural? key = none ∧ items = []) ∨
      document.structural? key = some (.arr items) := by
  unfold readItems at read
  split at read
  · next found =>
    cases read
    exact .inl ⟨found, rfl⟩
  · next found =>
    cases read
    exact .inr found
  · cases read

/-- The places under the key of a list are those of its items. -/
theorem under_of_readItems {key : String} {items : List Json}
    (read : document.readItems key = .ok items) :
    document.under key = items.flatMap itemPlaces := by
  unfold under
  rcases readItems_cases read with ⟨found, rfl⟩ | found
  · rw [found]
    rfl
  · rw [found]

theorem aliasPlaces_of_readItems {items : List Json}
    (read : document.readItems "symbolAliases" = .ok items) :
    document.aliasPlaces = items.flatMap foreignPlaces := by
  unfold aliasPlaces
  rcases readItems_cases read with ⟨found, rfl⟩ | found
  · rw [found]
    rfl
  · rw [found]

/-- The only place under the key of an object is that of the object. -/
theorem under_of_object {key : String} {value : Json}
    (found : document.structural? key = some value) (object : value.isObject = true) :
    document.under key = [.node value] := by
  cases value with
  | obj members =>
    unfold under
    rw [found]
  | _ => cases object

theorem under_of_none {key : String} (missing : document.structural? key = none) :
    document.under key = [] := by
  unfold under
  rw [missing]

theorem typeOnlyPlaces_of_object {key : String} {value : Json}
    (found : document.structural? key = some value) (object : value.isObject = true) :
    document.typeOnlyPlaces key = [.typeOnly value] := by
  cases value with
  | obj members =>
    unfold typeOnlyPlaces
    rw [found]
  | _ => cases object

/-- Nothing but an object gives a type by a node. -/
theorem typeOnlyPlaces_of_text {key : String}
    (text : (document.structural? key).any Json.isObject = false) :
    document.typeOnlyPlaces key = [] := by
  unfold typeOnlyPlaces
  split
  · next members found =>
    rw [found] at text
    cases text
  · rfl

end DocumentNode

/-! ## References of inline assembly -/

namespace ExternalReference

theorem within_of_readLocation? {source : SourceName} {info : Members} {location : SourceLocation}
    (read : readLocation? source info = .ok (some location)) : location.Within source := by
  unfold readLocation? at read
  split at read
  · cases read
  · next marker _ =>
    cases place : readPlace source marker with
    | error defect =>
      rw [place] at read
      cases read
    | ok other =>
      rw [place] at read
      cases read
      exact within_of_readPlace place
  · cases read

/-- A reference that is read lies in the source of the import, if it has a place. -/
theorem within_of_read {source : SourceName} {item : Json} {reference : ExternalReference}
    (read : ExternalReference.read source item = .ok reference) {location : SourceLocation}
    (placed : reference.location = some location) : location.Within source := by
  unfold ExternalReference.read at read
  split at read
  · rcases bind_eq_ok_iff.1 read with ⟨declaration, _, read⟩
    rcases bind_eq_ok_iff.1 read with ⟨valueSize, _, read⟩
    rcases bind_eq_ok_iff.1 read with ⟨found, marked, read⟩
    rcases bind_eq_ok_iff.1 read with ⟨isOffset, _, read⟩
    rcases bind_eq_ok_iff.1 read with ⟨isSlot, _, read⟩
    cases read
    change found = some location at placed
    subst placed
    exact within_of_readLocation? marked
  · cases read

end ExternalReference

theorem DocumentNode.within_of_readReferences {document : DocumentNode} {source : SourceName}
    {references : List ExternalReference} (read : document.readReferences source = .ok references) :
    ∀ reference ∈ references, ∀ location, reference.location = some location →
      location.Within source := by
  intro reference member location placed
  rcases bind_eq_ok_iff.1 read with ⟨items, _, checked⟩
  have results := mapM_eq_ok_iff.1 checked
  have listed : Except.ok reference ∈ items.map (ExternalReference.read source) := by
    rw [results]
    exact List.mem_map.2 ⟨reference, member, rfl⟩
  rcases List.mem_map.1 listed with ⟨item, _, here⟩
  exact ExternalReference.within_of_read here placed

end ContractTree
