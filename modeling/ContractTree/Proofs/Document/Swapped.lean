import ContractTree.Proofs.Document.Readers
import ContractTree.Proofs.Document.Sites

namespace ContractTree

/-!
# A node with another object in a seat

When an object in a seat of a node is replaced by another one, only what is read from
the key of the seat may change, and what is read from there changes in the seat only.
The sites of the node are then the same but for the one whose seat it is.
-/

/-- Changing the items with a key changes one item, if no two items have the same key. -/
theorem map_put_eq_set {sites : List Site} {index : Nat} {seat : Seat} {place : Place}
    {new : Json} (distinct : (sites.map Site.seat).Nodup)
    (found : sites[index]? = some ⟨seat, place⟩) :
    sites.map (Site.put seat new) = sites.set index ⟨seat, place.put new⟩ := by
  induction sites generalizing index with
  | nil => cases found
  | cons first rest ih =>
    rcases List.nodup_cons.1 distinct with ⟨fresh, distinct⟩
    cases index with
    | zero =>
      cases found
      have later : ∀ site ∈ rest, site.seat ≠ seat := fun site member same =>
        fresh (List.mem_map.2 ⟨site, member, same⟩)
      have here : Site.put seat new ⟨seat, place⟩ = ⟨seat, place.put new⟩ := if_pos rfl
      rw [List.map_cons, DocumentNode.put_of_other_seats later, here, List.set_cons_zero]
    | succ index =>
      have found : rest[index]? = some ⟨seat, place⟩ := found
      have different : first.seat ≠ seat := fun same =>
        fresh (List.mem_map.2 ⟨_, List.mem_of_getElem? found, same.symm⟩)
      have here : first.put seat new = first := if_neg different
      rw [List.map_cons, here, ih distinct found, List.set_cons_succ]

/-- An object stands in a place of a node, and another object is put there. -/
structure Swap (layout : FieldLayout) (document : DocumentNode) (seat : Seat) (place : Place)
    (old new : Json) : Prop where
  listed : ⟨seat, place⟩ ∈ document.sites layout
  stands : place.value? = some old
  wasObject : old.isObject = true
  isObject : new.isObject = true

theorem Json.isNull_of_isObject {value : Json} (object : value.isObject = true) :
    value.isNull = false := by
  cases value <;> first | rfl | cases object

theorem DocumentNode.itemPlaces_of_object {item : Json} (object : item.isObject = true) :
    itemPlaces item = [.node item] := by
  rw [itemPlaces, Json.isNull_of_isObject object]
  rfl

/-- Under a key with an object there is one site. -/
theorem DocumentNode.underSites_of_object {document : DocumentNode} {key : String} {value : Json}
    (found : document.structural? key = some value) (object : value.isObject = true) :
    document.underSites key = [⟨.field key, .node value⟩] := by
  rw [underSites, found]
  cases value <;> first | rfl | cases object

theorem DocumentNode.readTypeText_of_object {document : DocumentNode} {layout : FieldLayout}
    {value : Json} (found : document.scalar? layout "typeName" = some value)
    (object : value.isObject = true) :
    document.readTypeText layout = .error (.wrongType "typeName" .typeText) := by
  rw [readTypeText, found]
  cases value <;> first | rfl | cases object

theorem DocumentNode.foreignPlaces_of_object {members : Members} {value : Json}
    (named : members.find? "foreign" = some value) (object : value.isObject = true) :
    foreignPlaces (.obj members) = [.node value] := by
  rw [foreignPlaces, named]
  cases value <;> first | rfl | cases object

namespace Swap

variable {layout : FieldLayout} {document : DocumentNode} {seat : Seat} {place : Place}
  {old new : Json} (swap : Swap layout document seat place old new)

include swap

theorem holds : document.Holds seat old :=
  (DocumentNode.holds_of_mem_sites swap.listed swap.stands).1

theorem fits : seat.Fits document.kind :=
  (DocumentNode.holds_of_mem_sites swap.listed swap.stands).2

theorem mem_places : place ∈ document.places layout :=
  DocumentNode.mem_places_of_site swap.listed

theorem editable : document.Editable seat.key (seat.put new) where
  free := NodeKind.not_mem_reservedKeys swap.fits.position_ne_plain
  solid value found := by
    have present : value.isNull = false := by
      rcases found with own | nested
      · exact Members.isNull_of_find? own
      · exact Members.isNull_of_find? nested
    cases seat with
    | field key => exact Json.isNull_of_isObject swap.isObject
    | item key index => cases value <;> exact present
    | foreign index => cases value <;> exact present

theorem ne_of_plain {key : String} (plain : document.kind.position key = .plain) :
    key ≠ seat.key := by
  rintro rfl
  exact swap.fits.position_ne_plain plain

/-! ## What is read of the node -/

theorem structural?_of_ne {key : String} (different : key ≠ seat.key)
    (plain : key ≠ "attributes") :
    (document.put seat new).structural? key = document.structural? key :=
  swap.editable.structural?_edited_of_ne different plain

theorem structural? :
    (document.put seat new).structural? seat.key =
      (document.structural? seat.key).map (seat.put new) :=
  swap.editable.structural?_edited

theorem isSome_structural? {key : String} (plain : key ≠ "attributes") :
    ((document.put seat new).structural? key).isSome = (document.structural? key).isSome := by
  by_cases same : key = seat.key
  · subst same
    rw [swap.structural?, Option.isSome_map]
  · rw [swap.structural?_of_ne same plain]

theorem isObject_put {value : Json} (stands : document.structural? seat.key = some value) :
    (seat.put new value).isObject = value.isObject := by
  cases seat with
  | item key index => cases value <;> rfl
  | foreign index => cases value <;> rfl
  | field key =>
    rcases swap.holds with ⟨found⟩
    cases stands.symm.trans found
    exact swap.isObject.trans swap.wasObject.symm

theorem any_isObject_structural? {key : String} (plain : key ≠ "attributes") :
    ((document.put seat new).structural? key).any Json.isObject =
      (document.structural? key).any Json.isObject := by
  by_cases same : key = seat.key
  · subst same
    rw [swap.structural?]
    cases found : document.structural? seat.key with
    | none => rfl
    | some value => exact swap.isObject_put found
  · rw [swap.structural?_of_ne same plain]

theorem scalar?_of_ne {key : String} (different : key ≠ seat.key) (plain : key ≠ "attributes") :
    (document.put seat new).scalar? layout key = document.scalar? layout key :=
  swap.editable.scalar?_edited_of_ne layout different plain

theorem id?_put : (document.put seat new).id? = document.id? := by
  have different : "id" ≠ seat.key :=
    swap.ne_of_plain (document.kind.position_common "id" (by decide))
  rw [DocumentNode.id?, swap.structural?_of_ne different (by decide), DocumentNode.id?]

theorem context_put : (document.put seat new).context = document.context := by
  rw [DocumentNode.context, swap.id?_put]
  rfl

/-- Where a type is written as a node, it is not read as a text. -/
theorem readTypeText_put (kind : document.kind = .elementaryTypeNameExpression) :
    (document.put seat new).readTypeText layout = document.readTypeText layout := by
  have wasObject := swap.wasObject
  have isObject := swap.isObject
  have listed := swap.listed
  rw [DocumentNode.sites, kind] at listed
  rcases DocumentNode.holds_of_mem_typeOnlySites listed swap.stands with ⟨holds, rfl, _⟩
  rcases holds with ⟨found⟩
  have scalar := swap.editable.scalar?_edited layout
  change (document.put _ new).scalar? layout "typeName" = document.scalar? layout "typeName" ∨
    document.scalar? layout "typeName" = document.structural? "typeName" ∧
      (document.put _ new).scalar? layout "typeName" =
        (document.structural? "typeName").map fun _ => new at scalar
  rcases scalar with same | ⟨before, after⟩
  · rw [DocumentNode.readTypeText, same, DocumentNode.readTypeText]
  · rw [found] at before after
    rw [DocumentNode.readTypeText_of_object after isObject,
      DocumentNode.readTypeText_of_object before wasObject]

/-! ## The sites of the node -/

theorem underSites_of_ne {key : String} (different : key ≠ seat.key)
    (plain : key ≠ "attributes") :
    (document.put seat new).underSites key =
      (document.underSites key).map (Site.put seat new) := by
  have others : ∀ site ∈ document.underSites key, site.seat ≠ seat := fun site member same =>
    different ((DocumentNode.key_of_mem_underSites member).symm.trans (congrArg Seat.key same))
  rw [DocumentNode.put_of_other_seats others, DocumentNode.underSites,
    swap.structural?_of_ne different plain]
  rfl

theorem underSites_seat (other : document.kind.position seat.key ≠ .symbolAliases) :
    (document.put seat new).underSites seat.key =
      (document.underSites seat.key).map (Site.put seat new) := by
  have wasObject := swap.wasObject
  have isObject := swap.isObject
  cases swap.holds with
  | @field key _ stands =>
    have after : (document.put (.field key) new).structural? key = some new :=
      swap.structural?.trans (congrArg (Option.map fun _ => new) stands)
    have here : Site.put (.field key) new ⟨.field key, .node old⟩ = ⟨.field key, .node new⟩ :=
      if_pos rfl
    change DocumentNode.underSites _ key = (DocumentNode.underSites _ key).map _
    rw [DocumentNode.underSites_of_object after isObject,
      DocumentNode.underSites_of_object stands wasObject, List.map_singleton, here]
  | @item key items index _ stands found =>
    have after : (document.put (.item key index) new).structural? key =
        some (.arr (items.modify index fun _ => new)) := by
      rw [List.modify_eq_set]
      exact swap.structural?.trans (congrArg (Option.map ((Seat.item key index).put new)) stands)
    have injective : ∀ first second, Seat.item key first = Seat.item key second →
        first = second := by
      rintro _ _ ⟨⟩
      rfl
    have changed : DocumentNode.itemPlaces new =
        (DocumentNode.itemPlaces old).map (Place.put new) := by
      rw [DocumentNode.itemPlaces_of_object wasObject, DocumentNode.itemPlaces_of_object isObject]
      rfl
    have listed : DocumentNode.listSites (.item key) DocumentNode.itemPlaces 0
        (items.modify index fun _ => new) = _ :=
      DocumentNode.listSites_modify injective found changed 0
    rw [Nat.zero_add] at listed
    change DocumentNode.underSites _ key = (DocumentNode.underSites _ key).map _
    rw [DocumentNode.underSites, after, DocumentNode.underSites, stands]
    exact listed
  | foreign stands => exact absurd swap.fits other

theorem underSites_put {key : String} (plain : key ≠ "attributes")
    (other : document.kind.position key ≠ .symbolAliases) :
    (document.put seat new).underSites key =
      (document.underSites key).map (Site.put seat new) := by
  by_cases same : key = seat.key
  · subst same
    exact swap.underSites_seat other
  · exact swap.underSites_of_ne same plain

theorem aliasSites_put (expected : document.kind.position "symbolAliases" = .symbolAliases) :
    (document.put seat new).aliasSites = document.aliasSites.map (Site.put seat new) := by
  have wasObject := swap.wasObject
  have isObject := swap.isObject
  by_cases same : "symbolAliases" = seat.key
  · cases swap.holds with
    | @foreign items index members _ stands found named =>
      have after : (document.put (.foreign index) new).structural? "symbolAliases" =
          some (.arr (items.modify index
            (Json.mapObject (Members.change (fun _ => new) "foreign")))) :=
        swap.structural?.trans (congrArg (Option.map ((Seat.foreign index).put new)) stands)
      have injective : ∀ first second, Seat.foreign first = Seat.foreign second →
          first = second := by
        rintro _ _ ⟨⟩
        rfl
      have renamed : Members.find? (members.change (fun _ => new) "foreign") "foreign" =
          some new := by
        rw [Members.find?_change fun _ _ => Json.isNull_of_isObject isObject, named]
        rfl
      have changed : DocumentNode.foreignPlaces
          ((Json.obj members).mapObject (Members.change (fun _ => new) "foreign")) =
            (DocumentNode.foreignPlaces (.obj members)).map (Place.put new) := by
        change DocumentNode.foreignPlaces (.obj (members.change (fun _ => new) "foreign")) = _
        rw [DocumentNode.foreignPlaces_of_object renamed isObject,
          DocumentNode.foreignPlaces_of_object named wasObject]
        rfl
      have listed := DocumentNode.listSites_modify injective found changed 0
      rw [Nat.zero_add] at listed
      rw [DocumentNode.aliasSites, after, DocumentNode.aliasSites, stands]
      exact listed
    | field stands =>
      subst same
      rcases swap.fits with fits | fits
      · cases expected.symm.trans fits
      · cases expected.symm.trans fits
    | item stands found =>
      subst same
      rcases swap.fits with fits | fits
      · cases expected.symm.trans fits
      · cases expected.symm.trans fits
  · have others : ∀ site ∈ document.aliasSites, site.seat ≠ seat := by
      intro site member equal
      refine same ?_
      rw [← equal, DocumentNode.key_of_mem_aliasSites member]
    rw [DocumentNode.put_of_other_seats others, DocumentNode.aliasSites,
      swap.structural?_of_ne same (by decide), DocumentNode.aliasSites]

/-- A modifier that stands in a seat stands directly under its key. -/
theorem modifierSites_put (kind : document.kind = .modifierInvocation) :
    (document.put seat new).modifierSites layout =
      (document.modifierSites layout).map (Site.put seat new) := by
  have listed := swap.listed
  rw [DocumentNode.sites, kind] at listed
  rcases List.mem_append.1 listed with modifier | arguments
  · rcases DocumentNode.holds_of_mem_modifierSites modifier swap.stands with ⟨holds, rfl⟩
    rcases holds with ⟨found⟩
    have after : (document.put (.field "modifierName") new).structural? "modifierName" =
        some new :=
      swap.structural?.trans (congrArg (Option.map fun _ => new) found)
    unfold DocumentNode.modifierSites DocumentNode.modifierPlaces
    rw [after, found, DocumentNode.put_of_seat]
    rfl
  · have key : "modifierName" ≠ seat.key := by
      rw [DocumentNode.key_of_mem_underSites arguments]
      decide
    have name : (document.put seat new).scalar? layout "name" = document.scalar? layout "name" :=
      swap.scalar?_of_ne (swap.ne_of_plain (document.kind.position_common "name" (by decide)))
        (by decide)
    have others : ∀ site ∈ document.modifierSites layout, site.seat ≠ seat := by
      intro site member equal
      rcases List.mem_map.1 member with ⟨_, _, rfl⟩
      exact key (congrArg Seat.key equal)
    rw [DocumentNode.put_of_other_seats others, DocumentNode.modifierSites,
      DocumentNode.modifierPlaces, swap.structural?_of_ne key (by decide), name]
    rfl

theorem typeOnlySites_put (kind : document.kind = .elementaryTypeNameExpression) :
    (document.put seat new).typeOnlySites =
      document.typeOnlySites.map (Site.put seat new) := by
  have listed := swap.listed
  have isObject := swap.isObject
  have wasObject := swap.wasObject
  rw [DocumentNode.sites, kind] at listed
  rcases DocumentNode.holds_of_mem_typeOnlySites listed swap.stands with ⟨holds, rfl, _⟩
  rcases holds with ⟨found⟩
  have after : (document.put (.field "typeName") new).structural? "typeName" = some new :=
    swap.structural?.trans (congrArg (Option.map fun _ => new) found)
  unfold DocumentNode.typeOnlySites
  rw [DocumentNode.put_of_seat, DocumentNode.typeOnlyPlaces_of_object after isObject,
    DocumentNode.typeOnlyPlaces_of_object found wasObject]
  rfl

theorem childKeys_put : (document.put seat new).childKeys layout = document.childKeys layout := by
  have kept : (document.put seat new).kind = document.kind := rfl
  unfold DocumentNode.childKeys
  rw [kept]
  cases kind : document.kind with
  | sourceUnit =>
    dsimp only
    rw [DocumentNode.membersKey, swap.isSome_structural? (by decide), DocumentNode.membersKey]
  | functionDefinition =>
    have plain : document.kind.position "implemented" = .plain := by
      rw [kind]
      decide
    dsimp only
    rw [DocumentNode.isUnimplemented, swap.scalar?_of_ne (swap.ne_of_plain plain) (by decide),
      DocumentNode.isUnimplemented]
  | forStatement =>
    dsimp only
    rw [DocumentNode.initializationKey, swap.isSome_structural? (by decide),
      DocumentNode.initializationKey]
  | elementaryTypeNameExpression =>
    dsimp only
    rw [swap.any_isObject_structural? (by decide)]
  | _ => rfl

/-- The sites of the node are the same, but for the one that another object is put in. -/
theorem sites_put :
    (document.put seat new).sites layout = (document.sites layout).map (Site.put seat new) := by
  have kept : (document.put seat new).kind = document.kind := rfl
  have under : document.kind ≠ .importDirective → ∀ key ∈ document.childKeys layout,
      (document.put seat new).underSites key =
        (document.underSites key).map (Site.put seat new) := by
    intro other key member
    have expected := DocumentNode.position_of_mem_childKeys other member
    have free : key ∉ reservedKeys := NodeKind.not_mem_reservedKeys fun plain => by
      rcases expected with expected | expected
      · cases plain.symm.trans expected
      · cases plain.symm.trans expected
    refine swap.underSites_put ?_ fun aliases => ?_
    · rintro rfl
      exact free (by decide)
    · rcases expected with expected | expected
      · cases aliases.symm.trans expected
      · cases aliases.symm.trans expected
  unfold DocumentNode.sites
  rw [kept, swap.childKeys_put]
  split
  · next kind => exact swap.aliasSites_put (by rw [kind]; decide)
  · next kind =>
    have other : document.kind ≠ .importDirective := fun same => nomatch kind.symm.trans same
    have listed : "arguments" ∈ document.childKeys layout := by
      rw [DocumentNode.childKeys, kind]
      dsimp only
      decide
    rw [swap.modifierSites_put kind, under other _ listed, List.map_append]
  · next kind => exact swap.typeOnlySites_put kind
  · next noImport _ _ =>
    rw [List.map_flatMap]
    exact List.flatMap_congr (under noImport)

theorem sites_put_set {index : Nat}
    (found : (document.sites layout)[index]? = some ⟨seat, place⟩) :
    (document.put seat new).sites layout =
      (document.sites layout).set index ⟨seat, place.put new⟩ :=
  swap.sites_put.trans (map_put_eq_set DocumentNode.nodup_sites found)

theorem places_put {index : Nat}
    (found : (document.sites layout)[index]? = some ⟨seat, place⟩) :
    (document.put seat new).places layout =
      (document.places layout).set index (place.put new) := by
  rw [← DocumentNode.place_sites, swap.sites_put_set found, List.map_set,
    DocumentNode.place_sites]

end Swap
end ContractTree
