namespace ContractTree

/-!
# JSON values

A document is a JSON value, and only some of what its text says is visible to a
reader of the value.  An integer literal is kept as the integer it denotes.
Every other number is kept as its text, because all that is ever asked of it is
that it is not an integer: this includes `1.0`, `1e0` and `-0`.

An object is a list of members.  Looking a key up passes over members whose
value is `null`, so a null member and a missing one are the same thing wherever
a key is looked up.  The height of a value bounds every recursion into it.
-/

inductive Json where
  | null
  | bool (value : Bool)
  | int (value : Int)
  | decimal (literal : String)
  | str (text : String)
  | arr (items : List Json)
  | obj (members : List (String × Json))
  deriving Inhabited

/-- The members of a JSON object, in the order of its text. -/
abbrev Members := List (String × Json)

namespace Json

def isNull : Json → Bool
  | null => true
  | _ => false

def isObject : Json → Bool
  | obj _ => true
  | _ => false

def asString? : Json → Option String
  | str text => some text
  | _ => none

def asBool? : Json → Option Bool
  | bool value => some value
  | _ => none

def asInt? : Json → Option Int
  | int value => some value
  | _ => none

def asArray? : Json → Option (List Json)
  | arr items => some items
  | _ => none

def asObject? : Json → Option Members
  | obj members => some members
  | _ => none

mutual

/-- How many arrays and objects are nested in a value, itself included. -/
def height : Json → Nat
  | arr items => itemsHeight items + 1
  | obj members => membersHeight members + 1
  | _ => 0

/-- The height of the highest item of a list. -/
def itemsHeight : List Json → Nat
  | [] => 0
  | item :: rest => max item.height (itemsHeight rest)

/-- The height of the highest value of a list of members. -/
def membersHeight : List (String × Json) → Nat
  | [] => 0
  | (_, value) :: rest => max value.height (membersHeight rest)

end

theorem height_le_itemsHeight {item : Json} {items : List Json} (member : item ∈ items) :
    item.height ≤ itemsHeight items := by
  induction items with
  | nil => cases member
  | cons first rest ih =>
    rw [itemsHeight]
    rcases List.mem_cons.1 member with rfl | later
    · exact Nat.le_max_left _ _
    · exact Nat.le_trans (ih later) (Nat.le_max_right _ _)

theorem height_le_membersHeight {key : String} {value : Json} {members : Members}
    (member : (key, value) ∈ members) : value.height ≤ membersHeight members := by
  induction members with
  | nil => cases member
  | cons first rest ih =>
    rw [membersHeight]
    rcases List.mem_cons.1 member with rfl | later
    · exact Nat.le_max_left _ _
    · exact Nat.le_trans (ih later) (Nat.le_max_right _ _)

theorem height_lt_of_mem_arr {item : Json} {items : List Json} (member : item ∈ items) :
    item.height < (arr items).height := by
  rw [height]
  exact Nat.lt_succ_of_le (height_le_itemsHeight member)

theorem height_lt_of_mem_obj {key : String} {value : Json} {members : Members}
    (member : (key, value) ∈ members) : value.height < (obj members).height := by
  rw [height]
  exact Nat.lt_succ_of_le (height_le_membersHeight member)

end Json

namespace Members

/-- The first value under `key` that is not null. -/
def find? : Members → String → Option Json
  | [], _ => none
  | (name, value) :: rest, key =>
    if name = key ∧ value.isNull = false then some value else find? rest key

theorem find?_append (first second : Members) (key : String) :
    Members.find? (first ++ second) key = (first.find? key).or (second.find? key) := by
  induction first with
  | nil => rfl
  | cons entry rest ih =>
    rcases entry with ⟨name, value⟩
    rw [List.cons_append, find?, find?]
    split
    · rfl
    · exact ih

theorem mem_of_find? {members : Members} {key : String} {value : Json}
    (found : members.find? key = some value) : (key, value) ∈ members := by
  fun_induction find? members key with
  | case1 => cases found
  | case2 name first rest key hit =>
    cases found
    simp [hit.1]
  | case3 name first rest key miss ih => exact List.mem_cons_of_mem _ (ih found)

/-- A null value is never found. -/
theorem isNull_of_find? {members : Members} {key : String} {value : Json}
    (found : members.find? key = some value) : value.isNull = false := by
  fun_induction find? members key with
  | case1 => cases found
  | case2 name first rest key hit =>
    cases found
    exact hit.2
  | case3 name first rest key miss ih => exact ih found

theorem height_lt_of_find? {members : Members} {key : String} {value : Json}
    (found : members.find? key = some value) : value.height < (Json.obj members).height :=
  Json.height_lt_of_mem_obj (mem_of_find? found)

end Members

end ContractTree
