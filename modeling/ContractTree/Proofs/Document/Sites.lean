import ContractTree.Proofs.Document.Edited
import ContractTree.Proofs.Document.Places
import Mathlib.Data.List.Nodup

namespace ContractTree

/-!
# Where the places of a node are

A place is somewhere in the fields of its node: under a key, in the list under a key,
or in an alias.  A seat says where.  No two places of a node have the same seat, so
another object can be put into one place, and then the other places are what they
were.
-/

/-- Where a value stands in a node. -/
inductive Seat where
  | field (key : String)
  | item (key : String) (index : Nat)
  /-- What the alias with an index in the list of aliases is for. -/
  | foreign (index : Nat)
  deriving DecidableEq, Repr

namespace Seat

/-- The key of the field that a seat is in. -/
def key : Seat → String
  | field key => key
  | item key _ => key
  | foreign _ => "symbolAliases"

/-- The value of a field with another value put into a seat. -/
def put (new : Json) : Seat → Json → Json
  | field _, _ => new
  | item _ index, .arr items => .arr (items.set index new)
  | foreign index, .arr items =>
    .arr (items.modify index (Json.mapObject (Members.change (fun _ => new) "foreign")))
  | _, value => value

/-- A seat where nodes of a kind have children. -/
def Fits (kind : NodeKind) : Seat → Prop
  | field key => kind.position key = .node ∨ kind.position key = .nodes
  | item key _ => kind.position key = .node ∨ kind.position key = .nodes
  | foreign _ => kind.position "symbolAliases" = .symbolAliases

theorem Fits.position_ne_plain {kind : NodeKind} {seat : Seat} (fits : seat.Fits kind) :
    kind.position seat.key ≠ .plain := by
  intro plain
  cases seat with
  | foreign index => cases plain.symm.trans fits
  | field key =>
    rcases fits with expected | expected
    · cases plain.symm.trans expected
    · cases plain.symm.trans expected
  | item key index =>
    rcases fits with expected | expected
    · cases plain.symm.trans expected
    · cases plain.symm.trans expected

end Seat

/-- A place with its seat. -/
structure Site where
  seat : Seat
  place : Place

/-- A place with another value in it. -/
def Place.put (new : Json) : Place → Place
  | node _ => node new
  | typeOnly _ => typeOnly new
  | bareName name => bareName name

/-- A site after another value has been put into a seat. -/
def Site.put (seat : Seat) (new : Json) (site : Site) : Site :=
  if site.seat = seat then ⟨seat, site.place.put new⟩ else site

namespace DocumentNode

/-- The keys of a node that its places are found under, in order. -/
def childKeys (document : DocumentNode) (layout : FieldLayout) : List String :=
  match document.kind with
  | .sourceUnit => [document.membersKey]
  | .importDirective => ["symbolAliases"]
  | .functionDefinition =>
    ["parameters", "returnParameters", "modifiers"] ++
      if document.isUnimplemented layout then [] else ["body"]
  | .modifierInvocation => ["modifierName", "arguments"]
  | .forStatement => [document.initializationKey, "condition", "loopExpression", "body"]
  | .elementaryTypeNameExpression =>
    if (document.structural? "typeName").any Json.isObject then ["typeName"] else []
  | kind => kind.placeKeys

/-- The sites of the places in a list. -/
def listSites (seat : Nat → Seat) (places : Json → List Place) : Nat → List Json → List Site
  | _, [] => []
  | index, item :: rest =>
    (places item).map (Site.mk (seat index)) ++ listSites seat places (index + 1) rest

variable (document : DocumentNode) (layout : FieldLayout)

/-- The sites under a key. -/
def underSites (key : String) : List Site :=
  match document.structural? key with
  | none => []
  | some (.arr items) => listSites (.item key) itemPlaces 0 items
  | some value => [⟨.field key, .node value⟩]

def aliasSites : List Site :=
  match document.structural? "symbolAliases" with
  | some (.arr items) => listSites .foreign foreignPlaces 0 items
  | _ => []

/-- A modifier stands under its key, or its name stands for it. -/
def modifierSites : List Site :=
  (document.modifierPlaces layout).map (Site.mk (.field "modifierName"))

def typeOnlySites : List Site :=
  (document.typeOnlyPlaces "typeName").map (Site.mk (.field "typeName"))

/-- The sites of a node in the order of traversal. -/
def sites : List Site :=
  match document.kind with
  | .importDirective => document.aliasSites
  | .modifierInvocation => document.modifierSites layout ++ document.underSites "arguments"
  | .elementaryTypeNameExpression => document.typeOnlySites
  | _ => (document.childKeys layout).flatMap document.underSites

/-- The node with another value put into a seat. -/
def put (seat : Seat) (new : Json) : DocumentNode := document.edited seat.key (seat.put new)

/-! ## The places of the sites -/

theorem place_listSites (seat : Nat → Seat) (places : Json → List Place) (index : Nat)
    (items : List Json) :
    (listSites seat places index items).map Site.place = items.flatMap places := by
  induction items generalizing index with
  | nil => rfl
  | cons item rest ih =>
    have here : ((places item).map (Site.mk (seat index))).map Site.place = places item := by
      rw [List.map_map]
      exact List.map_id _
    rw [listSites, List.map_append, here, ih, List.flatMap_cons]

theorem place_underSites (key : String) :
    (document.underSites key).map Site.place = document.under key := by
  unfold underSites under
  cases document.structural? key with
  | none => rfl
  | some value =>
    cases value with
    | arr items => exact place_listSites ..
    | _ => rfl

theorem place_flatMap_underSites (keys : List String) :
    (keys.flatMap document.underSites).map Site.place = keys.flatMap document.under := by
  rw [List.map_flatMap]
  exact List.flatMap_congr fun key _ => document.place_underSites key

theorem place_mk (seat : Seat) (places : List Place) :
    (places.map (Site.mk seat)).map Site.place = places := by
  rw [List.map_map]
  exact List.map_id _

/-- The sites are those of the places, in the same order. -/
theorem place_sites : (document.sites layout).map Site.place = document.places layout := by
  unfold sites places
  cases kind : document.kind with
  | importDirective =>
    dsimp only
    unfold aliasSites aliasPlaces
    cases document.structural? "symbolAliases" with
    | none => rfl
    | some value =>
      cases value with
      | arr items => exact place_listSites ..
      | _ => rfl
  | modifierInvocation =>
    dsimp only
    rw [List.map_append, place_underSites, modifierSites, place_mk]
  | elementaryTypeNameExpression => exact place_mk ..
  | sourceUnit =>
    dsimp only
    rw [place_flatMap_underSites, childKeys, kind]
    exact List.append_nil _
  | functionDefinition =>
    dsimp only
    rw [place_flatMap_underSites, childKeys, kind]
    cases document.isUnimplemented layout <;> simp
  | forStatement =>
    dsimp only
    rw [place_flatMap_underSites, childKeys, kind]
    simp
  | _ =>
    dsimp only
    rw [place_flatMap_underSites, childKeys, kind]

/-! ## No two sites have the same seat -/

theorem length_itemPlaces_le (item : Json) : (itemPlaces item).length ≤ 1 := by
  unfold itemPlaces
  split
  · exact Nat.zero_le _
  · exact Nat.le_refl _

theorem length_foreignPlaces_le (item : Json) : (foreignPlaces item).length ≤ 1 := by
  unfold foreignPlaces
  split
  · split
    · exact Nat.le_refl _
    · exact Nat.le_refl _
    · exact Nat.zero_le _
  · exact Nat.zero_le _

theorem put_of_other_seats {sites : List Site} {seat : Seat} {new : Json}
    (others : ∀ site ∈ sites, site.seat ≠ seat) : sites.map (Site.put seat new) = sites := by
  have each : ∀ site ∈ sites, site.put seat new = id site := fun site member =>
    if_neg (others site member)
  rw [List.map_congr_left each, List.map_id]

theorem put_of_seat {places : List Place} {seat : Seat} {new : Json} :
    (places.map (Site.mk seat)).map (Site.put seat new) =
      (places.map (Place.put new)).map (Site.mk seat) := by
  rw [List.map_map, List.map_map]
  exact List.map_congr_left fun place _ => if_pos rfl

section Lists

variable {seat : Nat → Seat} {places : Json → List Place}

theorem mem_listSites {index : Nat} {items : List Json} {site : Site}
    (member : site ∈ listSites seat places index items) :
    ∃ offset item, items[offset]? = some item ∧ site.seat = seat (index + offset) ∧
      site.place ∈ places item := by
  induction items generalizing index with
  | nil => cases member
  | cons item rest ih =>
    rcases List.mem_append.1 member with here | later
    · rcases List.mem_map.1 here with ⟨place, stands, rfl⟩
      exact ⟨0, item, rfl, rfl, stands⟩
    · rcases ih later with ⟨offset, other, found, seats, stands⟩
      refine ⟨offset + 1, other, found, ?_, stands⟩
      rw [seats]
      congr 1
      omega

variable (injective : ∀ first second, seat first = seat second → first = second)

include injective

theorem nodup_listSites (single : ∀ item, (places item).length ≤ 1) (index : Nat)
    (items : List Json) : ((listSites seat places index items).map Site.seat).Nodup := by
  induction items generalizing index with
  | nil => exact List.nodup_nil
  | cons item rest ih =>
    rw [listSites, List.map_append]
    refine List.Nodup.append ?_ (ih (index + 1)) ?_
    · have short := single item
      match places item, short with
      | [], _ => exact List.nodup_nil
      | [place], _ => exact List.nodup_singleton _
    · intro other here later
      rcases List.mem_map.1 here with ⟨site, member, rfl⟩
      rcases List.mem_map.1 member with ⟨place, _, rfl⟩
      rcases List.mem_map.1 later with ⟨site, member, same⟩
      rcases mem_listSites member with ⟨offset, _, _, seats, _⟩
      have equal := injective _ _ (seats.symm.trans same)
      omega

/-- With one item of a list changed, the sites of the others are what they were. -/
theorem listSites_modify {new : Json} {change : Json → Json} {offset : Nat} {items : List Json}
    {item : Json} (found : items[offset]? = some item)
    (changed : places (change item) = (places item).map (Place.put new)) (index : Nat) :
    listSites seat places index (items.modify offset change) =
      (listSites seat places index items).map (Site.put (seat (index + offset)) new) := by
  induction items generalizing offset index with
  | nil => cases found
  | cons first rest ih =>
    rw [listSites, List.map_append]
    cases offset with
    | zero =>
      cases found
      have later : ∀ site ∈ listSites seat places (index + 1) rest, site.seat ≠ seat index := by
        intro site member same
        rcases mem_listSites member with ⟨offset, _, _, seats, _⟩
        have equal := injective _ _ (seats.symm.trans same)
        omega
      have here : index + 0 = index := rfl
      rw [List.modify_zero_cons, listSites, changed, here, put_of_seat, put_of_other_seats later]
    | succ offset =>
      have before : ∀ site ∈ (places first).map (Site.mk (seat index)),
          site.seat ≠ seat (index + (offset + 1)) := by
        intro site member same
        rcases List.mem_map.1 member with ⟨place, _, rfl⟩
        have equal := injective _ _ same
        omega
      have moved : index + 1 + offset = index + (offset + 1) := by omega
      rw [List.modify_succ_cons, listSites, ih found, moved, put_of_other_seats before]

end Lists

variable {document} {layout}

/-! ## Each site has its place -/

theorem mem_places_of_site {site : Site} (listed : site ∈ document.sites layout) :
    site.place ∈ document.places layout := by
  rw [← place_sites]
  exact List.mem_map.2 ⟨site, listed, rfl⟩

theorem exists_site {place : Place} (listed : place ∈ document.places layout) :
    ∃ (index : Nat) (site : Site), (document.sites layout)[index]? = some site ∧
      site.place = place := by
  rw [← place_sites] at listed
  rcases List.mem_map.1 listed with ⟨site, member, same⟩
  rcases List.getElem?_of_mem member with ⟨index, found⟩
  exact ⟨index, site, found, same⟩

/-! ## Keys of sites -/

theorem key_of_mem_underSites {key : String} {site : Site}
    (member : site ∈ document.underSites key) : site.seat.key = key := by
  unfold underSites at member
  split at member
  · cases member
  · rcases mem_listSites member with ⟨_, _, _, seats, _⟩
    rw [seats]
    rfl
  · cases List.mem_singleton.1 member
    rfl

theorem key_of_mem_aliasSites {site : Site} (member : site ∈ document.aliasSites) :
    site.seat.key = "symbolAliases" := by
  unfold aliasSites at member
  split at member
  · rcases mem_listSites member with ⟨_, _, _, seats, _⟩
    rw [seats]
    rfl
  · cases member

theorem nodup_underSites (key : String) : ((document.underSites key).map Site.seat).Nodup := by
  have injective : ∀ first second, Seat.item key first = Seat.item key second →
      first = second := by
    rintro _ _ ⟨⟩
    rfl
  unfold underSites
  split
  · exact List.nodup_nil
  · exact nodup_listSites injective length_itemPlaces_le 0 _
  · exact List.nodup_singleton _

theorem nodup_childKeys : (document.childKeys layout).Nodup := by
  unfold childKeys
  cases document.kind with
  | sourceUnit => exact List.nodup_singleton _
  | importDirective => exact List.nodup_singleton _
  | functionDefinition =>
    dsimp only
    cases document.isUnimplemented layout <;> decide
  | forStatement =>
    dsimp only
    unfold initializationKey
    split <;> decide
  | elementaryTypeNameExpression =>
    dsimp only
    split <;> decide
  | _ =>
    dsimp only
    decide

theorem nodup_flatMap_underSites {keys : List String} (distinct : keys.Nodup) :
    ((keys.flatMap document.underSites).map Site.seat).Nodup := by
  rw [List.map_flatMap, List.nodup_flatMap]
  refine ⟨fun key _ => nodup_underSites key, distinct.imp fun {first second} different => ?_⟩
  intro seat here there
  rcases List.mem_map.1 here with ⟨site, member, rfl⟩
  rcases List.mem_map.1 there with ⟨other, member', same⟩
  refine different ?_
  rw [← key_of_mem_underSites member, ← key_of_mem_underSites member', same]

theorem length_modifierPlaces_le : (document.modifierPlaces layout).length ≤ 1 := by
  unfold modifierPlaces
  split
  · exact Nat.le_refl _
  · split
    · exact Nat.le_refl _
    · exact Nat.zero_le _

theorem length_typeOnlyPlaces_le (key : String) : (document.typeOnlyPlaces key).length ≤ 1 := by
  unfold typeOnlyPlaces
  split
  · exact Nat.le_refl _
  · exact Nat.zero_le _

theorem nodup_mk {places : List Place} {seat : Seat} (short : places.length ≤ 1) :
    ((places.map (Site.mk seat)).map Site.seat).Nodup := by
  match places, short with
  | [], _ => exact List.nodup_nil
  | [place], _ => exact List.nodup_singleton _

/-- No two sites of a node have the same seat. -/
theorem nodup_sites : ((document.sites layout).map Site.seat).Nodup := by
  unfold sites
  split
  · have injective : ∀ first second, Seat.foreign first = Seat.foreign second →
        first = second := by
      rintro _ _ ⟨⟩
      rfl
    unfold aliasSites
    split
    · exact nodup_listSites injective length_foreignPlaces_le 0 _
    · exact List.nodup_nil
  · rw [List.map_append]
    refine List.Nodup.append (nodup_mk length_modifierPlaces_le) (nodup_underSites _) ?_
    intro seat here there
    rcases List.mem_map.1 here with ⟨site, member, rfl⟩
    rcases List.mem_map.1 member with ⟨place, _, rfl⟩
    rcases List.mem_map.1 there with ⟨other, member', same⟩
    have keys : "modifierName" = "arguments" :=
      (congrArg Seat.key same).symm.trans (key_of_mem_underSites member')
    exact absurd keys (by decide)
  · exact nodup_mk (length_typeOnlyPlaces_le _)
  · exact nodup_flatMap_underSites nodup_childKeys

/-! ## What stands in a seat -/

/-- A value stands in a seat of a node. -/
inductive Holds (document : DocumentNode) : Seat → Json → Prop where
  | field {key : String} {value : Json} (stands : document.structural? key = some value) :
    Holds document (.field key) value
  | item {key : String} {items : List Json} {index : Nat} {value : Json}
    (stands : document.structural? key = some (.arr items)) (found : items[index]? = some value) :
    Holds document (.item key index) value
  | foreign {items : List Json} {index : Nat} {members : Members} {value : Json}
    (stands : document.structural? "symbolAliases" = some (.arr items))
    (found : items[index]? = some (.obj members))
    (named : members.find? "foreign" = some value) : Holds document (.foreign index) value

theorem holds_of_mem_underSites {key : String} {site : Site} {value : Json}
    (member : site ∈ document.underSites key) (stands : site.place.value? = some value) :
    document.Holds site.seat value := by
  unfold underSites at member
  split at member
  · cases member
  · next items found =>
    rcases mem_listSites member with ⟨offset, item, listed, seats, place⟩
    unfold itemPlaces at place
    split at place
    · cases place
    · rw [List.mem_singleton.1 place] at stands
      cases stands
      rw [seats, Nat.zero_add]
      exact .item found listed
  · next found =>
    cases List.mem_singleton.1 member
    cases stands
    exact .field found

theorem holds_of_mem_aliasSites {site : Site} {value : Json}
    (member : site ∈ document.aliasSites) (stands : site.place.value? = some value) :
    document.Holds site.seat value ∧ ∃ index, site.seat = .foreign index := by
  unfold aliasSites at member
  split at member
  · next items found =>
    rcases mem_listSites member with ⟨offset, item, listed, seats, place⟩
    rw [Nat.zero_add] at seats
    unfold foreignPlaces at place
    split at place
    · next members =>
      split at place
      · rw [List.mem_singleton.1 place] at stands
        cases stands
      · next foreign =>
        rw [List.mem_singleton.1 place] at stands
        cases stands
        rw [seats]
        exact ⟨.foreign found listed foreign, offset, rfl⟩
      · cases place
    · cases place
  · cases member

theorem holds_of_mem_modifierSites {site : Site} {value : Json}
    (member : site ∈ document.modifierSites layout) (stands : site.place.value? = some value) :
    document.Holds site.seat value ∧ site.seat = .field "modifierName" := by
  rcases List.mem_map.1 member with ⟨place, listed, rfl⟩
  unfold modifierPlaces at listed
  split at listed
  · next found =>
    rw [List.mem_singleton.1 listed] at stands
    cases stands
    exact ⟨.field found, rfl⟩
  · split at listed
    · rw [List.mem_singleton.1 listed] at stands
      cases stands
    · cases listed

theorem holds_of_mem_typeOnlySites {site : Site} {value : Json}
    (member : site ∈ document.typeOnlySites) (stands : site.place.value? = some value) :
    document.Holds site.seat value ∧ site.seat = .field "typeName" ∧ value.isObject = true := by
  rcases List.mem_map.1 member with ⟨place, listed, rfl⟩
  unfold typeOnlyPlaces at listed
  split at listed
  · next found =>
    rw [List.mem_singleton.1 listed] at stands
    cases stands
    exact ⟨.field found, rfl, rfl⟩
  · cases listed

theorem position_of_mem_childKeys (other : document.kind ≠ .importDirective) {key : String}
    (member : key ∈ document.childKeys layout) :
    document.kind.position key = .node ∨ document.kind.position key = .nodes := by
  unfold childKeys at member
  cases kind : document.kind with
  | importDirective => exact absurd kind other
  | sourceUnit =>
    rw [kind] at member
    rw [List.mem_singleton.1 member, membersKey]
    split <;> decide
  | functionDefinition =>
    have all : ∀ key ∈ ["parameters", "returnParameters", "modifiers", "body"],
        NodeKind.functionDefinition.position key = .node ∨
          NodeKind.functionDefinition.position key = .nodes := by
      decide
    rw [kind] at member
    refine all key ?_
    rcases List.mem_append.1 member with first | last
    · exact List.mem_append_left ["body"] first
    · split at last
      · cases last
      · exact List.mem_append_right ["parameters", "returnParameters", "modifiers"] last
  | forStatement =>
    rw [kind] at member
    dsimp only at member
    unfold initializationKey at member
    revert member key
    split <;> decide
  | elementaryTypeNameExpression =>
    rw [kind] at member
    dsimp only at member
    revert member key
    split <;> decide
  | _ =>
    rw [kind] at member
    dsimp only at member
    revert member key
    decide

theorem fits_of_mem_underSites {key : String} {site : Site}
    (expected : document.kind.position key = .node ∨ document.kind.position key = .nodes)
    (member : site ∈ document.underSites key) : site.seat.Fits document.kind := by
  unfold underSites at member
  split at member
  · cases member
  · rcases mem_listSites member with ⟨_, _, _, seats, _⟩
    rw [seats]
    exact expected
  · cases List.mem_singleton.1 member
    exact expected

/-- What is converted for a site stands in its seat, and the seat is one for children. -/
theorem holds_of_mem_sites {site : Site} {value : Json} (member : site ∈ document.sites layout)
    (stands : site.place.value? = some value) :
    document.Holds site.seat value ∧ site.seat.Fits document.kind := by
  have under : document.kind ≠ .importDirective → ∀ key ∈ document.childKeys layout,
      site ∈ document.underSites key →
        document.Holds site.seat value ∧ site.seat.Fits document.kind :=
    fun other key listed inside => ⟨holds_of_mem_underSites inside stands,
      fits_of_mem_underSites (position_of_mem_childKeys other listed) inside⟩
  unfold sites at member
  split at member
  · next kind =>
    rcases holds_of_mem_aliasSites member stands with ⟨holds, index, seat⟩
    rw [seat] at holds ⊢
    have expected : NodeKind.importDirective.position "symbolAliases" = .symbolAliases := by
      decide
    rw [kind]
    exact ⟨holds, expected⟩
  · next kind =>
    have other : document.kind ≠ .importDirective := fun same => nomatch kind.symm.trans same
    rcases List.mem_append.1 member with modifier | arguments
    · rcases holds_of_mem_modifierSites modifier stands with ⟨holds, seat⟩
      rw [seat] at holds ⊢
      rw [kind]
      exact ⟨holds, .inl (by decide)⟩
    · refine under other "arguments" ?_ arguments
      rw [childKeys, kind]
      dsimp only
      decide
  · next kind =>
    rcases holds_of_mem_typeOnlySites member stands with ⟨holds, seat, _⟩
    rw [seat] at holds ⊢
    rw [kind]
    exact ⟨holds, .inl (by decide)⟩
  · next noImport _ _ =>
    rcases List.mem_flatMap.1 member with ⟨key, listed, inside⟩
    exact under noImport key listed inside

end DocumentNode
end ContractTree
