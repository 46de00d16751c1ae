import ContractTree.Proofs.Document.Lookups
import Mathlib.Algebra.Group.Int.Defs
import Mathlib.Data.List.Forall2

namespace ContractTree

/-!
# References of assembly are read exactly

An assembly block names what it refers to in a list of entries.  It is said here which values
are entries, which reference an entry stands for, and which defect a value is that is no
entry.  The reader takes the entries in turn, so the first value that is no entry decides what
is wrong with the list, and without one there is a reference for each entry.
-/

/-- Nothing stands under a key, or a value of a sort does. -/
def Members.Admits (members : Members) (key : String) (sort : Json → Prop) : Prop :=
  ∀ value, members.find? key = some value → sort value

namespace ExternalReference

/-- An identifier of a declaration is an integer of 64 bits. -/
def IsDeclaration (value : Json) : Prop :=
  ∃ number, value = .int number ∧ -2 ^ 63 ≤ number ∧ number ≤ 2 ^ 63 - 1

/-- A number of slots is an integer of 32 bits without a sign. -/
def IsValueSize (value : Json) : Prop :=
  ∃ number, value = .int number ∧ 0 ≤ number ∧ number ≤ 2 ^ 32 - 1

def IsPlace (value : Json) : Prop :=
  ∃ marker start stop, value = .str marker ∧ Span.IsMarker marker start stop

def IsFlag (value : Json) : Prop := ∃ flag, value = .bool flag

/-- The fields of an entry are missing or of their sorts. -/
structure Fields (info : Members) : Prop where
  declaration : info.Admits "declaration" IsDeclaration
  valueSize : info.Admits "valueSize" IsValueSize
  place : info.Admits "src" IsPlace
  isOffset : info.Admits "isOffset" IsFlag
  isSlot : info.Admits "isSlot" IsFlag

/-- An entry is an object with one member, which holds the fields of the entry. -/
def IsEntry (item : Json) : Prop :=
  ∃ name info, item = .obj [(name, .obj info)] ∧ Fields info

/-- A flag is false if it is missing. -/
def SaysFlag (info : Members) (key : String) (flag : Bool) : Prop :=
  info.find? key = some (.bool flag) ∨ (info.find? key = none ∧ flag = false)

/-- The fields of an entry say what a reference says, and what is missing has its default. -/
structure Says (source : SourceName) (info : Members) (reference : ExternalReference) : Prop where
  declaration : info.find? "declaration" = reference.declaration.map fun id => .int id.toInt
  valueSize : info.find? "valueSize" = some (.int reference.valueSize.toNat) ∨
    (info.find? "valueSize" = none ∧ reference.valueSize = 1)
  location : (∃ marker span, info.find? "src" = some (.str marker) ∧
      Span.IsMarker marker span.start.toNat span.stop.toNat ∧
      reference.location = some ⟨source, span⟩) ∨
    (info.find? "src" = none ∧ reference.location = none)
  isOffset : SaysFlag info "isOffset" reference.isOffset
  isSlot : SaysFlag info "isSlot" reference.isSlot

/-- An entry stands for a reference, whose name is the key of the entry. -/
def Encodes (source : SourceName) (item : Json) (reference : ExternalReference) : Prop :=
  ∃ info, item = .obj [(reference.name, .obj info)] ∧ Says source info reference

/-- The fields up to the place are of their sorts, but the place is given by a text that is
no marker. -/
structure Mismarked (info : Members) (marker : String) : Prop where
  declaration : info.Admits "declaration" IsDeclaration
  valueSize : info.Admits "valueSize" IsValueSize
  place : info.find? "src" = some (.str marker)
  noMarker : ∀ start stop, ¬ Span.IsMarker marker start stop

/-- What is wrong with a value that is no entry. -/
inductive Fault : Json → Defect → Prop where
  | shape {item : Json} (other : ∀ name info, item ≠ .obj [(name, .obj info)]) :
    Fault item (.wrongType "externalReferences" .referenceList)
  | place {name : String} {info : Members} {marker : String} (mismarked : Mismarked info marker) :
    Fault (.obj [(name, .obj info)]) (.schema (.invalidSourceRange marker))
  | fields {name : String} {info : Members} (incomplete : ¬ Fields info)
    (marked : ∀ marker, ¬ Mismarked info marker) :
    Fault (.obj [(name, .obj info)]) (.wrongType "externalReferences" .referenceFields)

end ExternalReference

/-! ## Reading the fields of an entry

Each field is read to what it says or refused, and it is refused just if it is there and not
of its sort. -/

theorem Members.admits_of_none {members : Members} {key : String} {sort : Json → Prop}
    (missing : members.find? key = none) : members.Admits key sort := by
  intro value found
  cases missing.symm.trans found

theorem Members.admits_iff {members : Members} {key : String} {sort : Json → Prop} {value : Json}
    (found : members.find? key = some value) : members.Admits key sort ↔ sort value := by
  constructor
  · intro admits
    exact admits value found
  · intro isSort other found'
    cases found.symm.trans found'
    exact isSort

theorem NodeId.ofInt?_eq_some_iff {number : Int} {id : NodeId} :
    ofInt? number = some id ↔ id.toInt = number := by
  constructor
  · intro read
    unfold ofInt? at read
    split at read
    · next within =>
      cases read
      exact Int64.toInt_ofInt_of_le within.1 (Int.lt_add_one_of_le within.2)
    · cases read
  · rintro rfl
    exact ofInt?_toInt id

theorem NodeId.ofInt?_eq_none_iff {number : Int} :
    ofInt? number = none ↔ ¬ (-2 ^ 63 ≤ number ∧ number ≤ 2 ^ 63 - 1) := by
  unfold ofInt?
  split
  · next within => exact iff_of_false (Option.some_ne_none _) (not_not_intro within)
  · next beyond => exact iff_of_true rfl beyond

namespace ExternalReference

variable (info : Members)

theorem readDeclaration?_cases :
    (∃ declaration, readDeclaration? info = .ok declaration ∧
      info.Admits "declaration" IsDeclaration ∧
      info.find? "declaration" = declaration.map fun id => .int id.toInt) ∨
    (readDeclaration? info = .error malformed ∧ ¬ info.Admits "declaration" IsDeclaration) := by
  unfold readDeclaration?
  cases found : info.find? "declaration" with
  | none => exact .inl ⟨none, rfl, Members.admits_of_none found, rfl⟩
  | some value =>
    rw [Members.admits_iff found]
    cases value with
    | int number =>
      dsimp only [Json.asInt?, Option.bind_some]
      cases integral : NodeId.ofInt? number with
      | none =>
        refine .inr ⟨rfl, ?_⟩
        rintro ⟨_, ⟨⟩, within⟩
        exact NodeId.ofInt?_eq_none_iff.1 integral within
      | some id =>
        have same : id.toInt = number := NodeId.ofInt?_eq_some_iff.1 integral
        subst same
        exact .inl ⟨some id, rfl,
          ⟨id.toInt, rfl, Int64.minValue_le_toInt id, Int64.toInt_le id⟩, rfl⟩
    | _ => exact .inr ⟨rfl, fun ⟨_, impossible, _⟩ => nomatch impossible⟩

theorem readValueSize_cases :
    (∃ size, readValueSize info = .ok size ∧ info.Admits "valueSize" IsValueSize ∧
      (info.find? "valueSize" = some (.int size.toNat) ∨
        (info.find? "valueSize" = none ∧ size = 1))) ∨
    (readValueSize info = .error malformed ∧ ¬ info.Admits "valueSize" IsValueSize) := by
  unfold readValueSize
  cases found : info.find? "valueSize" with
  | none => exact .inl ⟨1, rfl, Members.admits_of_none found, .inr ⟨rfl, rfl⟩⟩
  | some value =>
    rw [Members.admits_iff found]
    cases value with
    | int number =>
      by_cases within : 0 ≤ number ∧ number < UInt32.size
      · have small : number.toNat < UInt32.size := by omega
        have same : ((UInt32.ofNat number.toNat).toNat : Int) = number := by
          rw [UInt32.toNat_ofNat_of_lt' small, Int.toNat_of_nonneg within.1]
        refine .inl ⟨_, if_pos within, ⟨number, rfl, within.1, ?_⟩, .inl ?_⟩
        · exact Int.le_sub_one_of_lt within.2
        · rw [same]
      · refine .inr ⟨if_neg within, ?_⟩
        rintro ⟨_, ⟨⟩, nonneg, bounded⟩
        exact within ⟨nonneg, Int.lt_of_le_sub_one bounded⟩
    | _ => exact .inr ⟨rfl, fun ⟨_, impossible, _⟩ => nomatch impossible⟩

theorem readLocation?_cases (source : SourceName) :
    (∃ location, readLocation? source info = .ok location ∧ info.Admits "src" IsPlace ∧
      ((∃ marker span, info.find? "src" = some (.str marker) ∧
          Span.IsMarker marker span.start.toNat span.stop.toNat ∧
          location = some ⟨source, span⟩) ∨
        (info.find? "src" = none ∧ location = none))) ∨
    (∃ marker, readLocation? source info = .error (.schema (.invalidSourceRange marker)) ∧
      info.find? "src" = some (.str marker) ∧ ∀ start stop, ¬ Span.IsMarker marker start stop) ∨
    (readLocation? source info = .error malformed ∧ ¬ info.Admits "src" IsPlace ∧
      ∀ marker, info.find? "src" ≠ some (.str marker)) := by
  unfold readLocation?
  cases found : info.find? "src" with
  | none => exact .inl ⟨none, rfl, Members.admits_of_none found, .inr ⟨rfl, rfl⟩⟩
  | some value =>
    rw [Members.admits_iff found]
    cases value with
    | str marker =>
      rcases readPlace_cases source marker with ⟨span, read, isMarker⟩ | ⟨read, noMarker⟩
      · exact .inl ⟨some ⟨source, span⟩, congrArg (Except.map some) read,
          ⟨marker, _, _, rfl, isMarker⟩, .inl ⟨marker, span, rfl, isMarker, rfl⟩⟩
      · exact .inr (.inl ⟨marker, congrArg (Except.map some) read, rfl, noMarker⟩)
    | _ =>
      exact .inr (.inr ⟨rfl, fun ⟨_, _, _, impossible, _⟩ => (nomatch impossible),
        fun _ impossible => nomatch impossible⟩)

theorem readFlag_cases (key : String) :
    (∃ flag, readFlag info key = .ok flag ∧ info.Admits key IsFlag ∧ SaysFlag info key flag) ∨
    (readFlag info key = .error malformed ∧ ¬ info.Admits key IsFlag) := by
  unfold readFlag SaysFlag
  cases found : info.find? key with
  | none => exact .inl ⟨false, rfl, Members.admits_of_none found, .inr ⟨rfl, rfl⟩⟩
  | some value =>
    rw [Members.admits_iff found]
    cases value with
    | bool flag => exact .inl ⟨flag, rfl, ⟨flag, rfl⟩, .inl rfl⟩
    | _ => exact .inr ⟨rfl, fun ⟨_, impossible⟩ => nomatch impossible⟩

/-! ## Reading entries -/

theorem read_entry (source : SourceName) (name : String) :
    read source (.obj [(name, .obj info)]) =
      readDeclaration? info >>= fun declaration => readValueSize info >>= fun valueSize =>
        readLocation? source info >>= fun location => readFlag info "isOffset" >>= fun isOffset =>
          readFlag info "isSlot" >>= fun isSlot =>
            .ok ⟨name, declaration, isOffset, isSlot, valueSize, location⟩ := rfl

variable {info}

/-- A place that is a marker is not misplaced. -/
theorem not_mismarked_of_place (place : info.Admits "src" IsPlace) (marker : String) :
    ¬ Mismarked info marker := by
  intro mismarked
  rcases place _ mismarked.place with ⟨_, start, stop, ⟨⟩, isMarker⟩
  exact mismarked.noMarker start stop isMarker

theorem isEntry_iff {name : String} : IsEntry (.obj [(name, .obj info)]) ↔ Fields info := by
  constructor
  · rintro ⟨_, _, ⟨⟩, fields⟩
    exact fields
  · intro fields
    exact ⟨name, info, rfl, fields⟩

/-- The fields of an entry are read in the order in which they can be wrong. -/
theorem read_entry_cases (source : SourceName) (name : String) :
    (∃ reference, read source (.obj [(name, .obj info)]) = .ok reference ∧ Fields info ∧
      reference.name = name ∧ Says source info reference) ∨
    (∃ defect, read source (.obj [(name, .obj info)]) = .error defect ∧ ¬ Fields info ∧
      Fault (.obj [(name, .obj info)]) defect) := by
  rw [read_entry]
  rcases readDeclaration?_cases info with ⟨declaration, read, isDeclaration, saysDeclaration⟩ |
    ⟨read, wrong⟩
  case inr =>
    have incomplete : ¬ Fields info := fun fields => wrong fields.declaration
    rw [read]
    exact .inr ⟨malformed, rfl, incomplete, .fields incomplete fun _ mismarked =>
      wrong mismarked.declaration⟩
  rw [read]
  rcases readValueSize_cases info with ⟨valueSize, read, isValueSize, saysValueSize⟩ |
    ⟨read, wrong⟩
  case inr =>
    have incomplete : ¬ Fields info := fun fields => wrong fields.valueSize
    rw [read]
    exact .inr ⟨malformed, rfl, incomplete, .fields incomplete fun _ mismarked =>
      wrong mismarked.valueSize⟩
  rw [read]
  rcases readLocation?_cases info source with ⟨location, read, isPlace, saysLocation⟩ |
    ⟨marker, read, found, noMarker⟩ | ⟨read, wrong, noText⟩
  case inr.inl =>
    have mismarked : Mismarked info marker := ⟨isDeclaration, isValueSize, found, noMarker⟩
    rw [read]
    exact .inr ⟨_, rfl, fun fields => not_mismarked_of_place fields.place marker mismarked,
      .place mismarked⟩
  case inr.inr =>
    have incomplete : ¬ Fields info := fun fields => wrong fields.place
    rw [read]
    exact .inr ⟨malformed, rfl, incomplete, .fields incomplete fun marker mismarked =>
      noText marker mismarked.place⟩
  rw [read]
  rcases readFlag_cases info "isOffset" with ⟨isOffset, read, offsetFlag, saysOffset⟩ |
    ⟨read, wrong⟩
  case inr =>
    have incomplete : ¬ Fields info := fun fields => wrong fields.isOffset
    rw [read]
    exact .inr ⟨malformed, rfl, incomplete, .fields incomplete (not_mismarked_of_place isPlace)⟩
  rw [read]
  rcases readFlag_cases info "isSlot" with ⟨isSlot, read, slotFlag, saysSlot⟩ | ⟨read, wrong⟩
  case inr =>
    have incomplete : ¬ Fields info := fun fields => wrong fields.isSlot
    rw [read]
    exact .inr ⟨malformed, rfl, incomplete, .fields incomplete (not_mismarked_of_place isPlace)⟩
  rw [read]
  exact .inl ⟨_, rfl, ⟨isDeclaration, isValueSize, isPlace, offsetFlag, slotFlag⟩, rfl,
    ⟨saysDeclaration, saysValueSize, saysLocation, saysOffset, saysSlot⟩⟩

/-- A value is an entry and read to the reference that it encodes, or it is refused for what
is wrong with it. -/
theorem read_cases (source : SourceName) (item : Json) :
    (∃ reference, read source item = .ok reference ∧ IsEntry item ∧
      Encodes source item reference) ∨
    (∃ defect, read source item = .error defect ∧ ¬ IsEntry item ∧ Fault item defect) := by
  by_cases shape : ∃ name info, item = .obj [(name, .obj info)]
  · rcases shape with ⟨name, info, rfl⟩
    rw [isEntry_iff]
    rcases read_entry_cases source name with ⟨reference, read, fields, rfl, described⟩ | refused
    · exact .inl ⟨reference, read, fields, info, rfl, described⟩
    · exact .inr refused
  · have other : ∀ name info, item ≠ .obj [(name, .obj info)] := fun name info same =>
      shape ⟨name, info, same⟩
    refine .inr ⟨_, ?_, fun ⟨name, info, same, _⟩ => other name info same, .shape other⟩
    unfold read
    split
    · next name info => exact absurd rfl (other name info)
    · rfl

/-- Entries are just the values that are read. -/
theorem exists_read_iff (source : SourceName) {item : Json} :
    (∃ reference, read source item = .ok reference) ↔ IsEntry item := by
  rcases read_cases source item with ⟨reference, found, isEntry, _⟩ | ⟨defect, refused, wrong, _⟩
  · exact iff_of_true ⟨reference, found⟩ isEntry
  · refine iff_of_false ?_ wrong
    rintro ⟨reference, found⟩
    cases found.symm.trans refused

theorem encodes_of_read {source : SourceName} {item : Json} {reference : ExternalReference}
    (found : read source item = .ok reference) : Encodes source item reference := by
  rcases read_cases source item with ⟨other, also, _, encodes⟩ | ⟨_, refused, _⟩
  · cases found.symm.trans also
    exact encodes
  · cases found.symm.trans refused

theorem fault_of_read {source : SourceName} {item : Json} {defect : Defect}
    (refused : read source item = .error defect) : Fault item defect := by
  rcases read_cases source item with ⟨_, found, _⟩ | ⟨other, also, _, fault⟩
  · cases refused.symm.trans found
  · cases refused.symm.trans also
    exact fault

/-- One thing only is wrong with a value. -/
theorem Fault.unique {item : Json} {first second : Defect} (fault : Fault item first)
    (other : Fault item second) : second = first := by
  cases fault with
  | shape noEntry =>
    cases other with
    | shape _ => rfl
    | place _ => exact absurd rfl (noEntry _ _)
    | fields _ _ => exact absurd rfl (noEntry _ _)
  | place mismarked =>
    cases other with
    | shape noEntry => exact absurd rfl (noEntry _ _)
    | place also =>
      cases mismarked.place.symm.trans also.place
      rfl
    | fields _ marked => exact absurd mismarked (marked _)
  | fields _ marked =>
    cases other with
    | shape noEntry => exact absurd rfl (noEntry _ _)
    | place mismarked => exact absurd mismarked (marked _)
    | fields _ _ => rfl

end ExternalReference

/-! ## Reading the list -/

/-- The answers of a list that is checked are those of its items, in order. -/
theorem forall₂_of_mapM_eq_ok {ε α β : Type} {check : α → Except ε β} {items : List α}
    {answers : List β} (checked : items.mapM check = .ok answers) :
    List.Forall₂ (fun item answer => check item = .ok answer) items answers := by
  have each : List.Forall₂ Eq (items.map check) (answers.map .ok) := by
    rw [List.forall₂_eq_eq_eq]
    exact mapM_eq_ok_iff.1 checked
  exact List.forall₂_map_right_iff.1 (List.forall₂_map_left_iff.1 each)

namespace DocumentNode

open ExternalReference

variable {document : DocumentNode} {items : List Json}
  (stands : document.Lists "externalReferences" items) {source : SourceName}

include stands

theorem readReferences_of_lists :
    document.readReferences source = items.mapM (ExternalReference.read source) := by
  rw [readReferences, readItems_eq_ok_iff.2 stands]
  rfl

/-- A list is read just if all that stands in it are entries. -/
theorem exists_readReferences_iff :
    (∃ references, document.readReferences source = .ok references) ↔
      ∀ item ∈ items, IsEntry item := by
  rw [readReferences_of_lists stands, exists_mapM_eq_ok_iff]
  exact forall₂_congr fun item _ => exists_read_iff source

/-- A list is read to the references that its entries encode. -/
theorem encode_of_readReferences {references : List ExternalReference}
    (read : document.readReferences source = .ok references) :
    List.Forall₂ (Encodes source) items references := by
  rw [readReferences_of_lists stands] at read
  exact (forall₂_of_mapM_eq_ok read).imp fun _ _ => encodes_of_read

/-- The first value that is no entry decides what is wrong with a list. -/
theorem readReferences_of_not_isEntry {front back : List Json} {item : Json}
    (split : items = front ++ item :: back) (before : ∀ earlier ∈ front, IsEntry earlier)
    (noEntry : ¬ IsEntry item) :
    ∃ defect, Fault item defect ∧ document.readReferences source = .error defect := by
  rw [readReferences_of_lists stands]
  cases read : ExternalReference.read source item with
  | ok reference => exact absurd ((exists_read_iff source).1 ⟨reference, read⟩) noEntry
  | error defect =>
    refine ⟨defect, fault_of_read read, mapM_eq_error_iff.2 ⟨front, item, back, split, ?_, read⟩⟩
    exact fun earlier member => (exists_read_iff source).2 (before earlier member)

end DocumentNode
end ContractTree
