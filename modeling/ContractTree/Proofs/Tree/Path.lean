import ContractTree.Tree.Path
import Mathlib.Data.List.Infix

namespace ContractTree

/-!
# Paths and their names

Cutting a name at its dots gives segments without dots, and cutting the name of a
path whose segments can be told apart gives the path back.  Joining what any name is cut
into gives the name back, but a name is that of a path only if it has no empty segment,
and where its dots stand says whether it has one.
-/

namespace TypePath

theorem cut_ne_nil (text : List Char) : cut text ≠ [] := by
  cases text with
  | nil => exact List.cons_ne_nil _ _
  | cons c rest =>
    unfold cut
    split
    · exact List.cons_ne_nil _ _
    · split <;> exact List.cons_ne_nil _ _

theorem not_dot_mem_of_mem_cut {text segment : List Char} (member : segment ∈ cut text) :
    '.' ∉ segment := by
  induction text generalizing segment with
  | nil =>
    cases List.mem_singleton.1 member
    exact List.not_mem_nil
  | cons c rest ih =>
    unfold cut at member
    split at member
    · rcases List.mem_cons.1 member with rfl | later
      · exact List.not_mem_nil
      · exact ih later
    · next noDot =>
      split at member
      · next nothing => exact absurd nothing (cut_ne_nil rest)
      · next first others found =>
        rw [found] at ih
        rcases List.mem_cons.1 member with rfl | later
        · intro dot
          rcases List.mem_cons.1 dot with same | inside
          · exact noDot same.symm
          · exact ih (List.mem_cons_self ..) inside
        · exact ih (List.mem_cons_of_mem _ later)

/-- The segments of a name make a path unless one of them is empty. -/
theorem valid_ofName {name : String} (complete : "" ∉ ofName name) : Valid (ofName name) := by
  constructor
  · exact fun nothing => cut_ne_nil _ (List.map_eq_nil_iff.1 nothing)
  · intro segment member
    constructor
    · rintro rfl
      exact complete member
    · rcases List.mem_map.1 member with ⟨run, listed, rfl⟩
      rw [String.toList_ofList]
      exact not_dot_mem_of_mem_cut listed

/-! ## Reading a name back -/

/-- A run without dots is one segment. -/
theorem cut_of_not_dot_mem {segment : List Char} (noDot : '.' ∉ segment) :
    cut segment = [segment] := by
  induction segment with
  | nil => rfl
  | cons c rest ih =>
    have different : c ≠ '.' := fun same => noDot (same ▸ List.mem_cons_self ..)
    have later : '.' ∉ rest := fun inside => noDot (List.mem_cons_of_mem _ inside)
    rw [cut, if_neg different, ih later]

/-- The first segment ends at the first dot. -/
theorem cut_append_dot {segment : List Char} (noDot : '.' ∉ segment) (rest : List Char) :
    cut (segment ++ '.' :: rest) = segment :: cut rest := by
  induction segment with
  | nil => rw [List.nil_append, cut, if_pos rfl]
  | cons c behind ih =>
    have different : c ≠ '.' := fun same => noDot (same ▸ List.mem_cons_self ..)
    have later : '.' ∉ behind := fun inside => noDot (List.mem_cons_of_mem _ inside)
    rw [List.cons_append, cut, if_neg different, ih later]

theorem cut_intercalate {segments : List (List Char)} (some : segments ≠ [])
    (noDot : ∀ segment ∈ segments, '.' ∉ segment) :
    cut (['.'].intercalate segments) = segments := by
  induction segments with
  | nil => exact absurd rfl some
  | cons first rest ih =>
    have firstNoDot := noDot first (List.mem_cons_self ..)
    cases rest with
    | nil => rw [List.intercalate_singleton, cut_of_not_dot_mem firstNoDot]
    | cons second others =>
      rw [List.intercalate_cons_cons, List.append_assoc, List.singleton_append,
        cut_append_dot firstNoDot, ih (List.cons_ne_nil _ _)]
      exact fun segment member => noDot segment (List.mem_cons_of_mem _ member)

/-- The name of a path is read back as the path. -/
theorem ofName_name {path : List String} (valid : Valid path) : ofName (name path) = path := by
  unfold ofName name
  rw [String.toList_intercalate]
  have separator : ".".toList = ['.'] := by decide
  rw [separator, cut_intercalate, List.map_map]
  · have same : String.ofList ∘ String.toList = id := funext fun text => String.ofList_toList
    rw [same, List.map_id]
  · exact fun nothing => valid.1 (List.map_eq_nil_iff.1 nothing)
  · intro run member
    rcases List.mem_map.1 member with ⟨segment, listed, rfl⟩
    exact (valid.2 segment listed).2

/-! ## Writing a name again -/

/-- Nothing of a text is lost when it is cut. -/
theorem intercalate_cut (text : List Char) : ['.'].intercalate (cut text) = text := by
  induction text with
  | nil => rfl
  | cons c rest ih =>
    cases segments : cut rest with
    | nil => exact absurd segments (cut_ne_nil rest)
    | cons first others =>
      rw [segments] at ih
      by_cases dot : c = '.'
      · rw [cut, if_pos dot, segments, List.intercalate_cons_cons, ih, dot]
        rfl
      · rw [cut, if_neg dot, segments]
        rw [← ih]
        cases others with
        | nil => simp only [List.intercalate_singleton]
        | cons second later => simp only [List.intercalate_cons_cons, List.cons_append]

/-- The name of the segments of a name is the name. -/
theorem name_ofName (text : String) : name (ofName text) = text := by
  have separator : ".".toList = ['.'] := by decide
  have same : String.toList ∘ String.ofList = id := funext fun run => String.toList_ofList
  rw [← String.toList_inj, name, ofName, String.toList_intercalate, separator, List.map_map, same,
    List.map_id, intercalate_cut]

/-! ## Names that are cut into empty segments -/

/-- The first segment is empty if nothing stands before the first dot. -/
theorem head?_cut_eq_nil_iff {text : List Char} :
    (cut text).head? = some [] ↔ text = [] ∨ text.head? = some '.' := by
  cases text with
  | nil => simp [cut]
  | cons c rest =>
    by_cases dot : c = '.'
    · simp [cut, dot]
    · cases segments : cut rest with
      | nil => exact absurd segments (cut_ne_nil rest)
      | cons first others => simp [cut, dot, segments]

/-- A later segment is empty if a dot ends the text or follows another one. -/
theorem nil_mem_tail_cut_iff {text : List Char} :
    [] ∈ (cut text).tail ↔ text.getLast? = some '.' ∨ ['.', '.'] <:+: text := by
  induction text with
  | nil => simp [cut]
  | cons c rest ih =>
    cases segments : cut rest with
    | nil => exact absurd segments (cut_ne_nil rest)
    | cons first others =>
      have firstEmpty : (cut rest).head? = some [] ↔ rest = [] ∨ rest.head? = some '.' :=
        head?_cut_eq_nil_iff
      simp only [segments, List.head?_cons, Option.some_inj] at firstEmpty
      simp only [segments, List.tail_cons] at ih
      by_cases dot : c = '.'
      · -- Behind a dot the first segment of the rest is a later one too.
        subst dot
        have starts : ['.', '.'] <+: '.' :: rest ↔ rest.head? = some '.' := by
          cases rest <;> simp [eq_comm]
        have ends : ('.' :: rest).getLast? = some '.' ↔ rest = [] ∨ rest.getLast? = some '.' := by
          cases rest <;> simp
        rw [cut, if_pos rfl, segments, List.tail_cons, List.mem_cons, eq_comm, firstEmpty, ih, ends,
          List.infix_cons_iff, starts]
        exact or_or_or_comm ..
      · have starts : ¬ ['.', '.'] <+: c :: rest := by simp [eq_comm, dot]
        have ends : (c :: rest).getLast? = some '.' ↔ rest.getLast? = some '.' := by
          cases rest <;> simp [dot]
        rw [cut, if_neg dot, segments, List.tail_cons, ih, ends, List.infix_cons_iff,
          or_iff_right starts]

/-- A name that spells a path: dots stand between other characters only, one at a time. -/
structure Spells (name : String) : Prop where
  nonempty : name ≠ ""
  first : name.toList.head? ≠ some '.'
  last : name.toList.getLast? ≠ some '.'
  apart : ¬ ['.', '.'] <:+: name.toList

instance (name : String) : Decidable (Spells name) :=
  decidable_of_iff
    (name ≠ "" ∧ name.toList.head? ≠ some '.' ∧ name.toList.getLast? ≠ some '.' ∧
      ¬ ['.', '.'] <:+: name.toList)
    ⟨fun ⟨nonempty, first, last, apart⟩ => ⟨nonempty, first, last, apart⟩,
      fun ⟨nonempty, first, last, apart⟩ => ⟨nonempty, first, last, apart⟩⟩

theorem nil_mem_cut_iff {text : List Char} :
    [] ∈ cut text ↔ text = [] ∨ text.head? = some '.' ∨ text.getLast? = some '.' ∨
      ['.', '.'] <:+: text := by
  rw [← or_assoc, ← head?_cut_eq_nil_iff, ← nil_mem_tail_cut_iff]
  cases cut text with
  | nil => simp
  | cons first others => simp [eq_comm]

/-- The segments of a name are those of a path just if the name spells one. -/
theorem not_mem_ofName_iff {name : String} : "" ∉ ofName name ↔ Spells name := by
  have empty : "" ∈ ofName name ↔ [] ∈ cut name.toList := by
    simp [ofName]
  rw [empty, nil_mem_cut_iff, String.toList_eq_nil_iff]
  constructor
  · intro none
    simp only [not_or] at none
    exact ⟨none.1, none.2.1, none.2.2.1, none.2.2.2⟩
  · rintro ⟨nonempty, first, last, apart⟩ (empty | starts | ends | doubled)
    · exact nonempty empty
    · exact first starts
    · exact last ends
    · exact apart doubled

end TypePath
end ContractTree
