import ContractTree.Proofs.Document.Grouping
import Mathlib.Data.List.Forall2

namespace ContractTree

/-!
# What is found after a value is replaced

If a value in an object is replaced, something else may be found under its key, and under
all other keys the same is found as before.  If the two values are related, so is what is
found under each key.

Values are mostly read without a look inside: lists and objects are told from all other
values, and a text, a number or a flag is read as a whole.
-/

/-! ## Values of one sort -/

namespace Json

/-- The same value twice, or two lists, or two objects. -/
inductive Akin : Json → Json → Prop
  | same (value : Json) : Akin value value
  | lists (items others : List Json) : Akin (.arr items) (.arr others)
  | objects (members others : Members) : Akin (.obj members) (.obj others)

namespace Akin

variable {value other : Json} (akin : value.Akin other)

include akin

theorem isNull_eq : other.isNull = value.isNull := by
  cases akin <;> rfl

theorem isObject_eq : other.isObject = value.isObject := by
  cases akin <;> rfl

theorem asString?_eq : other.asString? = value.asString? := by
  cases akin <;> rfl

theorem asInt?_eq : other.asInt? = value.asInt? := by
  cases akin <;> rfl

end Akin
end Json

/-! ## Values that are found or missing -/

namespace Option

variable {α β γ : Type} {related : α → β → Prop} {found : Option α} {image : Option β}

theorem rel_refl {related : α → α → Prop} (reflexive : ∀ value, related value value)
    (found : Option α) : Option.Rel related found found := by
  cases found with
  | none => exact .none
  | some value => exact .some (reflexive value)

theorem rel_or {second : Option α} {another : Option β} (here : Option.Rel related found image)
    (there : Option.Rel related second another) :
    Option.Rel related (found.or second) (image.or another) := by
  cases here with
  | some holds => exact .some holds
  | none => exact there

theorem eq_of_rel {related : α → α → Prop}
    (same : ∀ value other, related value other → other = value) {found image : Option α}
    (rel : Option.Rel related found image) : image = found := by
  cases rel with
  | none => rfl
  | some holds => exact congrArg some (same _ _ holds)

theorem bind_eq_of_rel {f : α → Option γ} {g : β → Option γ}
    (same : ∀ value other, related value other → g other = f value)
    (rel : Option.Rel related found image) : image.bind g = found.bind f := by
  cases rel with
  | none => rfl
  | some holds => exact same _ _ holds

theorem isSome_eq_of_rel (rel : Option.Rel related found image) : image.isSome = found.isSome := by
  cases rel <;> rfl

theorem any_eq_of_rel {f : α → Bool} {g : β → Bool}
    (same : ∀ value other, related value other → g other = f value)
    (rel : Option.Rel related found image) : image.any g = found.any f := by
  cases rel with
  | none => rfl
  | some holds => exact same _ _ holds

end Option

/-! ## Objects with a value replaced -/

namespace Members

/-- Under some keys the same is found. -/
def AgreeOn (keys : List String) (before after : Members) : Prop :=
  ∀ key ∈ keys, after.find? key = before.find? key

variable {front back : Members} {key name : String} {value : Json}

theorem find?_middle_of_ne (different : name ≠ key) :
    Members.find? (front ++ (key, value) :: back) name = Members.find? (front ++ back) name := by
  rw [find?_append, find?_append, find?, if_neg fun both => different both.1.symm]

theorem attributes_middle (field : key ≠ "attributes") :
    Members.attributes (front ++ (key, value) :: back) = Members.attributes (front ++ back) := by
  rw [attributes, find?_middle_of_ne field.symm, attributes]

/-- If one value is put in the place of another, related values are found under each
key, however the relation depends on the key. -/
theorem rel_find?_middle (related : String → Json → Json → Prop)
    (reflexive : ∀ key value, related key value value) (front back : Members) {key : String}
    {value other : Json} (nulls : other.isNull = value.isNull) (here : related key value other)
    (name : String) :
    Option.Rel (related name) (Members.find? (front ++ (key, value) :: back) name)
      (Members.find? (front ++ (key, other) :: back) name) := by
  have same := Option.rel_refl (reflexive name)
  by_cases hit : name = key
  · subst hit
    rw [find?_append, find?_append, find?, find?, nulls]
    refine Option.rel_or (same _) ?_
    split
    · exact .some here
    · exact same _
  · rw [find?_middle_of_ne hit, find?_middle_of_ne hit]
    exact same _

end Members
end ContractTree
