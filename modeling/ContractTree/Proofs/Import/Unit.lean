import ContractTree.Proofs.Conversion.Replay

namespace ContractTree

/-!
# Imports and journals

An import takes the identifiers through the events of the journal of its root, and
then has the result of the journal, if that is a source unit.
-/

/-- A root must be a source unit. -/
def requireUnit (document : Json) (root : Node) : Except ImportError Node :=
  if root.kind = .sourceUnit then .ok root
  else .error ((Defect.violation (.notASourceUnit root.kind)).on (rootContext document))

/-- An import has the result of the journal that its conversion carries out, unless the
replay of the events fails. -/
theorem importUnit_of_carryBy {settings : Settings} {document : Json}
    {replay : List NodeId → List Event → Except ImportError (List NodeId)}
    {journal : Journal Node} (carries : convert settings 0 document = journal.carryBy replay) :
    importUnit settings document =
      replay [] journal.events >>= fun _ => journal.result >>= requireUnit document := by
  rw [importUnit, carries, Journal.carryBy_apply]
  cases replay [] journal.events with
  | error cause => rfl
  | ok after =>
    cases journal.result with
    | error cause => rfl
    | ok root => rfl

theorem importUnit_eq_replay (settings : Settings) (document : Json) :
    importUnit settings document =
      settings.replay [] (journal settings 0 document).events >>= fun _ =>
        (journal settings 0 document).result >>= requireUnit document :=
  importUnit_of_carryBy (convert_eq_carryOut settings 0 document)

/-- What happens in an import, up to its end or its first error. -/
def importEvents (settings : Settings) (document : Json) : List Event :=
  settings.performed [] (journal settings 0 document).events

/-- A unit that is imported is the result of a journal. -/
theorem journal_of_importUnit {settings : Settings} {document : Json} {unit : Node}
    (imported : importUnit settings document = .ok unit) :
    (journal settings 0 document).result = .ok unit ∧ unit.kind = .sourceUnit := by
  rw [importUnit_eq_replay] at imported
  cases replayed : settings.replay [] (journal settings 0 document).events with
  | error cause =>
    rw [replayed] at imported
    cases imported
  | ok after =>
    cases finished : (journal settings 0 document).result with
    | error cause =>
      rw [replayed, finished] at imported
      cases imported
    | ok root =>
      rw [replayed, finished] at imported
      change requireUnit document root = .ok unit at imported
      unfold requireUnit at imported
      split at imported
      · next isUnit =>
        cases imported
        exact ⟨rfl, isUnit⟩
      · cases imported

/-- No identifier is refused in an import that returns a unit. -/
theorem replay_of_importUnit {settings : Settings} {document : Json} {unit : Node}
    (imported : importUnit settings document = .ok unit) :
    ∃ after, settings.replay [] (journal settings 0 document).events = .ok after := by
  rw [importUnit_eq_replay] at imported
  cases replayed : settings.replay [] (journal settings 0 document).events with
  | ok after => exact ⟨after, rfl⟩
  | error cause =>
    rw [replayed] at imported
    cases imported

/-- An import that returns a unit goes through all events of the journal of its root. -/
theorem importEvents_of_ok {settings : Settings} {document : Json} {unit : Node}
    (imported : importUnit settings document = .ok unit) :
    importEvents settings document = (journal settings 0 document).events := by
  rcases replay_of_importUnit imported with ⟨after, replayed⟩
  exact settings.performed_of_replay replayed

end ContractTree
