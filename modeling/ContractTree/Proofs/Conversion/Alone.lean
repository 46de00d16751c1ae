import ContractTree.Proofs.Import.Identifiers
import ContractTree.Proofs.Import.Unit

namespace ContractTree

/-!
# Values converted on their own

Without a bound on the depth a value converts to the same result wherever it stands:
what is around it shows only in the levels that the events record.  So a value in a
document can be converted on its own, as if it were a root, and where identifiers are
not checked that is its conversion within the document.
-/

/-- What a value converts to on its own. -/
def convertAlone (settings : Settings) (value : Json) : Except ImportError Node :=
  (convert settings 0 value []).map Prod.fst

/-- An event with more nodes around it. -/
def Event.deepen (more : Nat) : Event → Event
  | attempt depth value => attempt (depth + more) value
  | completion document => completion document

/-- A journal with more nodes around everything in it. -/
def Journal.deepen {α : Type} (more : Nat) (journal : Journal α) : Journal α :=
  ⟨journal.events.map (Event.deepen more), journal.result⟩

theorem Journal.respectsRuns_deepen (more : Nat) :
    RespectsRuns (fun α (journal : Journal α) => journal.deepen more) where
  on_pure _ := rfl
  on_throw _ := rfl
  on_bind first next := by
    rcases first with ⟨events, result⟩
    cases result with
    | error cause => rfl
    | ok answer =>
      change deepen more ⟨events ++ (next answer).events, (next answer).result⟩ =
        ⟨events.map (Event.deepen more) ++ ((next answer).deepen more).events,
          ((next answer).deepen more).result⟩
      rw [deepen, deepen, List.map_append]

section Alone

variable {settings : Settings}

/-- Without a bound, nodes around a value do not matter to its conversion. -/
theorem journal_deepen (unbounded : settings.maxDepth = none) (depth more : Nat) (value : Json) :
    journal settings (depth + more) value = (journal settings depth value).deepen more := by
  have respects := Journal.respectsRuns_deepen more
  have shallow : ∀ level, settings.maxDepth.filter (· ≤ level) = none := by
    intro level
    rw [unbounded]
    rfl
  cases read : DocumentNode.ofJson? value with
  | error cause =>
    rw [journal_of_error read, journal_of_error read]
    rfl
  | ok document =>
    have children : (fun (child : Json) (_ : child.height < document.height) =>
        journal settings (depth + more + 1) child) = fun child _ =>
          (journal settings (depth + 1) child).deepen more := by
      funext child smaller
      rw [Nat.add_right_comm]
      exact journal_deepen unbounded (depth + 1) more child
    rw [journal_of_ok read (shallow _), journal_of_ok read (shallow _), children]
    simp only [respects.on_bind, respects.on_pure, Plan.carry_run respects]
    rfl
termination_by value.height
decreasing_by
  rw [DocumentNode.ofJson?_eq_ok read]
  exact smaller

theorem journal_eq_deepen (unbounded : settings.maxDepth = none) (depth : Nat) (value : Json) :
    journal settings depth value = (journal settings 0 value).deepen depth := by
  have same := journal_deepen unbounded 0 depth value
  rwa [Nat.zero_add] at same

theorem journal_result_alone (unbounded : settings.maxDepth = none) (depth : Nat) (value : Json) :
    (journal settings depth value).result = (journal settings 0 value).result := by
  rw [journal_eq_deepen unbounded]
  rfl

variable (lenient : settings.rejectDuplicateIds = false)

include lenient

theorem Settings.replay_of_lenient (seen : List NodeId) (events : List Event) :
    settings.replay seen events = .ok seen := by
  have replayed := settings.replay_lenient seen events
  rwa [settings.rejecting_self lenient] at replayed

/-- On its own a value converts to the result of its journal. -/
theorem convertAlone_eq (value : Json) :
    convertAlone settings value = (journal settings 0 value).result := by
  rw [convertAlone, convert_eq_carryOut, Journal.carryOut_apply,
    Settings.replay_of_lenient lenient]
  cases (journal settings 0 value).result <;> rfl

/-- An import converts its document and requires a unit. -/
theorem importUnit_of_lenient (document : Json) :
    importUnit settings document = convertAlone settings document >>= requireUnit document := by
  rw [importUnit_eq_replay, Settings.replay_of_lenient lenient, convertAlone_eq lenient]
  rfl

theorem importEvents_of_lenient (document : Json) :
    importEvents settings document = (journal settings 0 document).events :=
  settings.performed_of_replay (Settings.replay_of_lenient lenient [] _)

end Alone
end ContractTree
