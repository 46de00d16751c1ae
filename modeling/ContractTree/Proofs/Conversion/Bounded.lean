import ContractTree.Proofs.Conversion.Nesting
import ContractTree.Proofs.Conversion.Replay

namespace ContractTree

/-!
# Bounded conversions

A bound on how deeply nodes may be nested stops a conversion at the first attempt on
a document node that is nested too deeply, and changes nothing else.  So a bounded
conversion carries out the journal of the unbounded one, with a replay that stops at
such an attempt.

Identifiers that occur twice may stop the unbounded conversion before it makes an
attempt that its journal has.  What counts is what is performed before that.
-/

/-- The settings with another bound on how many nodes may be nested. -/
def Settings.limited (settings : Settings) (limit : Option Nat) : Settings :=
  { settings with maxDepth := limit }

namespace Event

/-- An attempt on a document node at a depth of `limit` or more. -/
def isDeep (limit : Nat) : Event → Bool
  | attempt depth value => limit ≤ depth && (DocumentNode.ofJson? value).isOk
  | completion _ => false

/-- Among the events is an attempt on a document node while `limit` or more nodes have
been begun and not finished. -/
def OverDeep (limit : Nat) (events : List Event) : Prop :=
  ∃ before depth value document after, events = before ++ .attempt depth value :: after ∧
    DocumentNode.ofJson? value = .ok document ∧ limit ≤ unfinished before

/-- The depth of an attempt says how many nodes are unfinished. -/
theorem overDeep_iff {limit : Nat} {events : List Event} (levelled : Levelled 0 events) :
    OverDeep limit events ↔ ∃ event ∈ events, event.isDeep limit = true := by
  constructor
  · rintro ⟨before, depth, value, document, after, rfl, read, deep⟩
    refine ⟨.attempt depth value, by simp, ?_⟩
    rw [levelled.unfinished_eq rfl] at deep
    rw [isDeep, read, decide_eq_true deep]
    rfl
  · rintro ⟨event, member, deep⟩
    rcases List.append_of_mem member with ⟨before, after, rfl⟩
    cases event with
    | completion document => cases deep
    | attempt depth value =>
      have parts := Bool.and_eq_true_iff.1 deep
      cases read : DocumentNode.ofJson? value with
      | error cause =>
        rw [read] at parts
        cases parts.2
      | ok document =>
        refine ⟨before, depth, value, document, after, rfl, read, ?_⟩
        rw [levelled.unfinished_eq rfl]
        exact of_decide_eq_true parts.1

end Event

/-! ## Replaying with a bound -/

namespace Settings

variable (settings : Settings) (limit : Nat)

/-- The identifiers seen after some events, unless one of the events is refused or is
too deep. -/
def replayWithin : List NodeId → List Event → Except ImportError (List NodeId)
  | seen, [] => .ok seen
  | seen, .attempt depth value :: rest =>
    if (Event.attempt depth value).isDeep limit then .error (.depthLimitExceeded limit)
    else replayWithin seen rest
  | seen, .completion document :: rest =>
    match settings.finish document seen with
    | .ok (_, after) => replayWithin after rest
    | .error cause => .error cause

theorem replayWithin_append (seen : List NodeId) (first second : List Event) :
    settings.replayWithin limit seen (first ++ second) =
      settings.replayWithin limit seen first >>= fun after =>
        settings.replayWithin limit after second := by
  induction first generalizing seen with
  | nil => rfl
  | cons event rest ih =>
    cases event with
    | attempt depth value =>
      simp only [List.cons_append, replayWithin]
      split
      · rfl
      · exact ih seen
    | completion document =>
      simp only [List.cons_append, replayWithin]
      cases settings.finish document seen with
      | ok outcome => exact ih outcome.2
      | error cause => rfl

/-- A bound does not matter to what keeps within it. -/
theorem replayWithin_of_shallow {seen : List NodeId} {events : List Event}
    (shallow : ¬ ∃ event ∈ settings.performed seen events, event.isDeep limit = true) :
    settings.replayWithin limit seen events = settings.replay seen events := by
  induction events generalizing seen with
  | nil => rfl
  | cons event rest ih =>
    cases event with
    | attempt depth value =>
      have here : ¬ (Event.attempt depth value).isDeep limit = true := fun deep =>
        shallow ⟨_, List.mem_cons_self .., deep⟩
      have later : ¬ ∃ event ∈ settings.performed seen rest, event.isDeep limit = true := by
        rintro ⟨event, member, deep⟩
        exact shallow ⟨event, List.mem_cons_of_mem _ member, deep⟩
      rw [replayWithin, if_neg here, replay]
      exact ih later
    | completion document =>
      rw [replayWithin, replay]
      cases finished : settings.finish document seen with
      | error cause => rfl
      | ok outcome =>
        refine ih ?_
        rintro ⟨event, member, deep⟩
        refine shallow ⟨event, ?_, deep⟩
        rw [performed, finished]
        exact List.mem_cons_of_mem _ member

/-- The first thing that goes too deep ends a bounded replay. -/
theorem replayWithin_of_deep {seen : List NodeId} {events : List Event}
    (deep : ∃ event ∈ settings.performed seen events, event.isDeep limit = true) :
    settings.replayWithin limit seen events = .error (.depthLimitExceeded limit) := by
  induction events generalizing seen with
  | nil =>
    rcases deep with ⟨event, member, _⟩
    cases member
  | cons event rest ih =>
    cases event with
    | attempt depth value =>
      rw [replayWithin]
      split
      · rfl
      · next here =>
        rcases deep with ⟨event, member, deep⟩
        rcases List.mem_cons.1 member with rfl | later
        · exact absurd deep here
        · exact ih ⟨event, later, deep⟩
    | completion document =>
      rcases deep with ⟨event, member, deep⟩
      rw [replayWithin]
      rw [performed] at member
      cases finished : settings.finish document seen with
      | error cause =>
        rw [finished] at member
        cases member
      | ok outcome =>
        rw [finished] at member
        rcases List.mem_cons.1 member with rfl | later
        · cases deep
        · exact ih ⟨event, later, deep⟩

end Settings

/-! ## The conversion of a value -/

theorem Journal.carryBy_attempt (settings : Settings) (limit depth : Nat) (value : Json) :
    (note (.attempt depth value)).carryBy (settings.replayWithin limit) =
      if (Event.attempt depth value).isDeep limit then throw (.depthLimitExceeded limit)
      else pure () := by
  funext seen
  rw [carryBy_apply, note, Settings.replayWithin]
  split <;> rfl

theorem Journal.carryBy_completion (settings : Settings) (limit : Nat) (document : DocumentNode) :
    (note (.completion document)).carryBy (settings.replayWithin limit) =
      settings.finish document := by
  funext seen
  simp only [carryBy_apply, note, Settings.replayWithin]
  cases settings.finish document seen <;> rfl

/-- A replay that stops at what is too deep makes up for the bound that a journal was
written without. -/
theorem Settings.reenacts_replayWithin (settings : Settings) (limit : Nat) :
    (settings.limited (some limit)).Reenacts (settings.limited none)
      (settings.replayWithin limit) where
  layout := rfl
  source := rfl
  wholeSource := rfl
  nothing _ := rfl
  append := settings.replayWithin_append limit
  unreadable read := by
    rw [Journal.carryBy_attempt, Event.isDeep, read, Except.isOk, Except.toBool, Bool.and_false]
    rfl
  stopped read deep := by
    rcases Option.filter_eq_some_iff.1 deep with ⟨⟨⟩, deep⟩
    have respects := Journal.respectsRuns_carryBy (fun _ => rfl)
      (settings.replayWithin_append limit)
    rw [journal_of_ok read rfl, respects.on_bind, Journal.carryBy_attempt, Event.isDeep, read,
      deep]
    rfl
  entered {depth} _ _ _ within := by
    have shallow : decide (limit ≤ depth) = false := by
      simpa [limited, Option.filter_eq_none_iff] using within
    refine ⟨rfl, ?_⟩
    rw [Journal.carryBy_attempt, Event.isDeep, shallow, Bool.false_and]
    rfl
  completed := Journal.carryBy_completion settings limit

/-- A bounded conversion carries out the journal of the unbounded one within its bound. -/
theorem convert_eq_carryBy (settings : Settings) (limit depth : Nat) (value : Json) :
    convert (settings.limited (some limit)) depth value =
      (journal (settings.limited none) depth value).carryBy (settings.replayWithin limit) :=
  (settings.reenacts_replayWithin limit).convert_eq depth value

end ContractTree
