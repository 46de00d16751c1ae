import ContractTree.Proofs.Conversion.Answers

namespace ContractTree

/-!
# How attempts nest

A document node is being converted from the attempt on it to its completion.  In the
events of a conversion attempts and completions match like brackets, so the number of
nodes around a value is the number of nodes that have been begun and not finished.
What was finished before, a sibling or anything in it, does not count.
-/

namespace Event

def isCompletion : Event → Bool
  | attempt _ _ => false
  | completion _ => true

/-- How many nodes have been begun and not finished after some events. -/
def unfinished (events : List Event) : Nat :=
  events.countP isAttempt - events.countP isCompletion

/-- As many nodes have been finished as begun. -/
def Balanced (events : List Event) : Prop :=
  events.countP isCompletion = events.countP isAttempt

/-- Every attempt is made with as many nodes around it as are unfinished, with `depth`
nodes around all of the events.  The equation avoids a subtraction. -/
def Levelled (depth : Nat) (events : List Event) : Prop :=
  ∀ before level value after, events = before ++ .attempt level value :: after →
    level + before.countP isCompletion = depth + before.countP isAttempt

section Levelled

variable {depth : Nat} {events later : List Event}

theorem levelled_nil : Levelled depth [] := by
  intro before level value after split
  exact absurd split.symm (List.append_ne_nil_of_right_ne_nil before (List.cons_ne_nil _ _))

theorem Levelled.of_prefix (levelled : Levelled depth events) (starts : later <+: events) :
    Levelled depth later := by
  rcases starts with ⟨rest, rfl⟩
  rintro before level value after rfl
  refine levelled before level value (after ++ rest) ?_
  rw [List.append_assoc, List.cons_append]

/-- After as many completions as attempts, everything is as it was before. -/
theorem Levelled.append (first : Levelled depth events) (balanced : Balanced events)
    (second : Levelled depth later) : Levelled depth (events ++ later) := by
  intro before level value after split
  rcases List.append_eq_append_iff.1 split with ⟨between, rfl, rest⟩ | ⟨between, rfl, rest⟩
  · have inside := second between level value after rest
    have same : events.countP isCompletion = events.countP isAttempt := balanced
    rw [List.countP_append, List.countP_append]
    omega
  · cases between with
    | nil =>
      have inside := second [] level value after rest.symm
      have same : before.countP isCompletion = before.countP isAttempt := by
        rw [List.append_nil] at balanced
        exact balanced
      rw [List.countP_nil, List.countP_nil] at inside
      omega
    | cons event between =>
      cases rest
      exact first before level value between rfl

/-- An attempt puts one more node around the events that follow. -/
theorem Levelled.attempt {value : Json} (inside : Levelled (depth + 1) events) :
    Levelled depth (.attempt depth value :: events) := by
  intro before level other after split
  cases before with
  | nil =>
    cases split
    rfl
  | cons event between =>
    have parts := List.cons.inj split
    have within := inside between level other after parts.2
    rw [← parts.1, List.countP_cons_of_neg Bool.false_ne_true, List.countP_cons_of_pos rfl]
    omega

theorem Levelled.completion {document : DocumentNode} (levelled : Levelled depth events) :
    Levelled depth (events ++ [.completion document]) := by
  intro before level value after split
  rcases List.append_eq_append_iff.1 split with ⟨between, rfl, rest⟩ | ⟨between, rfl, rest⟩
  · have only : between ++ .attempt level value :: after = [.completion document] := rest.symm
    cases between with
    | nil => cases only
    | cons event behind =>
      have nothing := (List.cons.inj only).2
      exact absurd nothing (List.append_ne_nil_of_right_ne_nil behind (List.cons_ne_nil _ _))
  · cases between with
    | nil => cases rest
    | cons event between =>
      cases rest
      exact levelled before level value between rfl

/-- A levelled attempt with nothing around the events has the unfinished nodes around it. -/
theorem Levelled.unfinished_eq (levelled : Levelled 0 events) {before after : List Event}
    {level : Nat} {value : Json} (split : events = before ++ .attempt level value :: after) :
    unfinished before = level := by
  have count := levelled before level value after split
  unfold unfinished
  omega

end Levelled
end Event

/-! ## The events of a journal -/

/-- The events of a journal are levelled, and balanced if it has a result. -/
structure Journal.Orderly {α : Type} (depth : Nat) (journal : Journal α) : Prop where
  levelled : Event.Levelled depth journal.events
  balanced : ∀ answer, journal.result = .ok answer → Event.Balanced journal.events

namespace Journal.Orderly

variable {depth : Nat} {α β : Type}

theorem pure (answer : α) : Orderly depth (Pure.pure answer : Journal α) :=
  ⟨Event.levelled_nil, fun _ _ => rfl⟩

theorem throw (cause : ImportError) : Orderly depth (throwThe ImportError cause : Journal α) :=
  ⟨Event.levelled_nil, fun _ impossible => nomatch impossible⟩

theorem bind {journal : Journal α} {next : α → Journal β} (first : Orderly depth journal)
    (rest : ∀ answer, Orderly depth (next answer)) : Orderly depth (journal >>= next) := by
  rcases journal with ⟨events, result⟩
  cases result with
  | error cause => exact ⟨first.levelled, fun _ impossible => nomatch impossible⟩
  | ok answer =>
    have here : Event.Balanced events := first.balanced answer rfl
    refine ⟨first.levelled.append here (rest answer).levelled, fun last finished => ?_⟩
    have there : Event.Balanced (next answer).events := (rest answer).balanced last finished
    change (events ++ (next answer).events).countP _ = (events ++ (next answer).events).countP _
    rw [List.countP_append, List.countP_append, here, there]

theorem run {bound : Nat} {convertValue : (value : Json) → value.height < bound → Journal Node}
    (children : ∀ value smaller, Orderly depth (convertValue value smaller)) (plan : Plan bound α) :
    Orderly depth (plan.run convertValue) := by
  induction plan with
  | done result => exact pure result
  | fail cause => exact throw cause
  | convert value smaller next ih => exact bind (children value smaller) ih

/-- An attempt and, if the rest has a result, the completion that matches it. -/
theorem enclose {value : Json} {document : DocumentNode} {inside : Journal Node}
    (orderly : Orderly (depth + 1) inside) :
    Orderly depth (do
      Journal.note (.attempt depth value)
      let node ← inside
      Journal.note (.completion document)
      return node) := by
  rcases inside with ⟨events, result⟩
  cases result with
  | error cause =>
    exact ⟨orderly.levelled.attempt, fun _ impossible => nomatch impossible⟩
  | ok node =>
    have balanced : Event.Balanced events := orderly.balanced node rfl
    refine ⟨orderly.levelled.completion.attempt, fun _ _ => ?_⟩
    change (Event.attempt depth value :: (events ++ [.completion document])).countP _ =
      (Event.attempt depth value :: (events ++ [.completion document])).countP _
    rw [List.countP_cons_of_neg Bool.false_ne_true, List.countP_cons_of_pos rfl,
      List.countP_append, List.countP_append, balanced]
    rfl

end Journal.Orderly

/-- Attempts and completions match in every journal of a conversion. -/
theorem journal_orderly (settings : Settings) (depth : Nat) (value : Json) :
    (journal settings depth value).Orderly depth := by
  have alone : Event.Levelled depth [.attempt depth value] := Event.levelled_nil.attempt
  cases read : DocumentNode.ofJson? value with
  | error cause =>
    rw [journal_of_error read]
    exact ⟨alone, fun _ impossible => nomatch impossible⟩
  | ok document =>
    cases deep : settings.maxDepth.filter (· ≤ depth) with
    | some limit =>
      rw [journal_of_limit read deep]
      exact ⟨alone, fun _ impossible => nomatch impossible⟩
    | none =>
      rw [journal_of_ok read deep]
      have children : ∀ (child : Json) (_ : child.height < document.height),
          (journal settings (depth + 1) child).Orderly (depth + 1) :=
        fun child smaller => journal_orderly settings (depth + 1) child
      exact .enclose (.run children _)
termination_by value.height
decreasing_by
  rw [DocumentNode.ofJson?_eq_ok read]
  exact smaller

end ContractTree
