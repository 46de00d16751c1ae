import ContractTree.Tree.Traversal

namespace ContractTree

/-!
# Equality of trees

Two trees are the same if their roots agree in everything but their children and
the children agree one by one.  The test below compares in this way; it decides
equality because a shape is determined by its outline and its children.
-/

namespace Part

/-- Places that agree in what is not a child, and hold the same children, agree. -/
theorem eq_of_map_eq {α β : Type} {f : α → β} {first second : List (Part α)}
    (outline : first.map (map f) = second.map (map f))
    (same : first.flatMap children = second.flatMap children) : first = second := by
  induction first generalizing second with
  | nil =>
    cases second with
    | nil => rfl
    | cons head rest => simp at outline
  | cons head rest ih =>
    cases second with
    | nil => simp at outline
    | cons head' rest' =>
      simp only [List.map_cons, List.cons.injEq] at outline
      simp only [List.flatMap_cons] at same
      obtain ⟨key, category, slot⟩ := head
      obtain ⟨key', category', slot'⟩ := head'
      simp only [map, mk.injEq] at outline
      have lengths : slot.children.length = slot'.children.length := by
        have := congrArg (fun slot => slot.children.length) outline.1.2.2
        simpa only [Slot.children_map, List.length_map] using this
      obtain ⟨here, later⟩ := List.append_inj same lengths
      rw [ih outline.2 later, outline.1.1, outline.1.2.1, Slot.eq_of_map_eq outline.1.2.2 here]

end Part

theorem Shape.eq_of_children_eq {α : Type} {first second : Shape α}
    (outlines : first.outline = second.outline) (same : first.children = second.children) :
    first = second := by
  refine eq_of_outline_eq outlines (Part.eq_of_map_eq (f := fun _ => ()) ?_ same)
  rw [← parts_map, ← parts_map]
  exact congrArg parts outlines

namespace Node

/-- Compares two trees node by node. -/
def same (first second : Node) : Bool :=
  first.id = second.id && first.location = second.location &&
  first.shape.outline = second.shape.outline &&
  first.children.length = second.children.length &&
  (first.children.attach.zip second.children).all fun (⟨child, _⟩, other) => child.same other
termination_by sizeOf first
decreasing_by exact sizeOf_lt_of_mem_children (by assumption)

theorem same_eq (first second : Node) :
    first.same second = (first.id = second.id && first.location = second.location &&
      first.shape.outline = second.shape.outline &&
      first.children.length = second.children.length &&
      (first.children.zip second.children).all fun (child, other) => child.same other) := by
  rw [same]
  congr 1
  generalize second.children = others
  conv => rhs; rw [← List.attach_map_subtype_val first.children]
  generalize first.children.attach = children
  induction children generalizing others with
  | nil => rfl
  | cons child rest ih =>
    cases others with
    | nil => rfl
    | cons other others =>
      simp only [List.zip_cons_cons, List.all_cons, List.map_cons, ih]

/-- Lists that agree in length and one by one agree. -/
theorem eq_of_all_same {first second : List Node} (lengths : first.length = second.length)
    (agree : (first.zip second).all (fun (child, other) => child.same other) = true)
    (sound : ∀ child ∈ first, ∀ other, child.same other = true → child = other) :
    first = second := by
  induction first generalizing second with
  | nil => exact (List.length_eq_zero_iff.1 lengths.symm).symm
  | cons child rest ih =>
    cases second with
    | nil => cases lengths
    | cons other others =>
      simp only [List.zip_cons_cons, List.all_cons, Bool.and_eq_true] at agree
      rw [sound child (List.mem_cons_self ..) other agree.1,
        ih (Nat.succ.inj lengths) agree.2 fun inner member =>
          sound inner (List.mem_cons_of_mem _ member)]

theorem all_same_self {nodes : List Node} (reflexive : ∀ node ∈ nodes, node.same node = true) :
    (nodes.zip nodes).all (fun (child, other) => child.same other) = true := by
  induction nodes with
  | nil => rfl
  | cons node rest ih =>
    simp only [List.zip_cons_cons, List.all_cons, Bool.and_eq_true]
    exact ⟨reflexive node (List.mem_cons_self ..), ih fun inner member =>
      reflexive inner (List.mem_cons_of_mem _ member)⟩

theorem eq_of_same {first second : Node} (agree : first.same second = true) :
    first = second := by
  induction first using Node.induction generalizing second with
  | step first ih =>
    rw [same_eq] at agree
    simp only [Bool.and_eq_true, decide_eq_true_eq] at agree
    obtain ⟨⟨⟨⟨ids, locations⟩, outlines⟩, lengths⟩, inner⟩ := agree
    have children := eq_of_all_same lengths inner fun child member other => ih child member
    have shapes := Shape.eq_of_children_eq outlines children
    cases first
    cases second
    simp_all only

theorem same_self (node : Node) : node.same node = true := by
  induction node using Node.induction with
  | step node ih =>
    rw [same_eq]
    simp only [decide_true, Bool.true_and]
    exact all_same_self ih

theorem same_iff {first second : Node} : first.same second = true ↔ first = second :=
  ⟨eq_of_same, fun equal => equal ▸ same_self first⟩

instance : DecidableEq Node := fun first second =>
  decidable_of_iff (first.same second = true) same_iff

end Node
end ContractTree
