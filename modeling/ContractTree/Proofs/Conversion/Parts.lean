import ContractTree.Proofs.Conversion.Replay
import ContractTree.Proofs.Document.Readers
import ContractTree.Proofs.Form.Reads
import Mathlib.Data.List.Forall2
import Mathlib.Data.List.Infix

namespace ContractTree

/-!
# Parts of a journal

The journal of a value has the journals of all values that are attempted in it as parts.
What happens in a part happens in the whole without a break, and if a part fails, then
the whole fails with the same error, since nothing handles it.  The steps of a list, the
answers to a form and the items of an answer are parts in the same sense.
-/

/-- A value converts to a node, whatever identifiers have been seen before. -/
def Json.ConvertsTo (settings : Settings) (depth : Nat) (value : Json) (node : Node) : Prop :=
  ∃ seen after, convert settings depth value seen = .ok (node, after)

theorem Json.ConvertsTo.finished {settings : Settings} {depth : Nat} {value : Json} {node : Node}
    (converts : value.ConvertsTo settings depth node) :
    (journal settings depth value).result = .ok node := by
  rcases converts with ⟨seen, after, converted⟩
  rw [convert_eq_carryOut, Journal.carryOut_apply] at converted
  rcases bind_eq_ok_iff.1 converted with ⟨_, _, rest⟩
  rcases bind_eq_ok_iff.1 rest with ⟨made, finished, same⟩
  cases same
  exact finished

namespace Journal

variable {α β γ : Type}

/-- The first journal is a part of the second one, which fails if the part does. -/
structure Part (inner : Journal α) (outer : Journal β) : Prop where
  infix_events : inner.events <:+: outer.events
  failed : ∀ cause, inner.result = .error cause → outer.result = .error cause

theorem Part.refl (journal : Journal α) : journal.Part journal :=
  ⟨List.infix_rfl, fun _ failed => failed⟩

theorem Part.trans {inner : Journal α} {middle : Journal β} {outer : Journal γ}
    (first : inner.Part middle) (second : middle.Part outer) : inner.Part outer :=
  ⟨first.infix_events.trans second.infix_events,
    fun cause failed => second.failed cause (first.failed cause failed)⟩

theorem part_bind_left (journal : Journal α) (next : α → Journal β) :
    journal.Part (journal >>= next) := by
  rcases journal with ⟨events, result⟩
  cases result with
  | ok answer => exact ⟨⟨[], (next answer).events, rfl⟩, fun _ failed => nomatch failed⟩
  | error cause =>
    refine ⟨List.infix_rfl, fun _ failed => ?_⟩
    cases failed
    rfl

theorem part_bind_right {journal : Journal α} (next : α → Journal β) {answer : α}
    (answered : journal.result = .ok answer) : (next answer).Part (journal >>= next) where
  infix_events := by
    rw [events_bind_of_ok answered]
    exact ⟨journal.events, [], List.append_nil _⟩
  failed cause failed := by
    rw [result_bind, answered]
    exact failed

/-- A step of a list is a part of the whole if all steps before it have answers. -/
theorem part_mapM {γ : Type} {step : γ → Journal α} {front back : List γ} {item : γ}
    (before : ∀ earlier ∈ front, ∃ answer, (step earlier).result = .ok answer) :
    (step item).Part ((front ++ item :: back).mapM step) := by
  induction front with
  | nil =>
    rw [List.nil_append, List.mapM_cons]
    exact part_bind_left ..
  | cons earlier rest ih =>
    rcases before earlier (List.mem_cons_self ..) with ⟨answer, answered⟩
    have later := ih fun other member => before other (List.mem_cons_of_mem _ member)
    rw [List.cons_append, List.mapM_cons]
    refine Part.trans ?_ (part_bind_right _ answered)
    exact later.trans (part_bind_left ..)

/-- The answers of a list of steps are the answers of its steps, which are all parts. -/
theorem forall₂_of_mapM {γ : Type} {step : γ → Journal α} {items : List γ} {answers : List α}
    (finished : (items.mapM step).result = .ok answers) :
    List.Forall₂ (fun item answer => (step item).result = .ok answer ∧
      (step item).Part (items.mapM step)) items answers := by
  induction items generalizing answers with
  | nil =>
    cases finished
    exact .nil
  | cons item rest ih =>
    rw [List.mapM_cons] at finished ⊢
    rcases result_bind_eq_ok.1 finished with ⟨answer, answered, remaining⟩
    rcases result_bind_eq_ok.1 remaining with ⟨later, behind, same⟩
    cases same
    refine .cons ⟨answered, part_bind_left ..⟩ ((ih behind).imp fun other found step => ?_)
    refine ⟨step.1, Part.trans ?_ (part_bind_right _ answered)⟩
    exact step.2.trans (part_bind_left ..)

end Journal

/-- What happens when a plan is carried out happens in a part of it, the journal of a value
that the plan asks for. -/
theorem Plan.part_of_mem_run {bound : Nat} {α : Type}
    {convertValue : (value : Json) → value.height < bound → Journal Node} {plan : Plan bound α}
    {event : Event} (happened : event ∈ (plan.run convertValue).events) :
    ∃ value smaller, event ∈ (convertValue value smaller).events ∧
      (convertValue value smaller).Part (plan.run convertValue) := by
  induction plan with
  | done result => cases happened
  | fail cause => cases happened
  | convert value smaller next ih =>
    rcases Journal.mem_events_bind happened with here | ⟨node, converted, later⟩
    · exact ⟨value, smaller, here, Journal.part_bind_left ..⟩
    · rcases ih node later with ⟨inner, low, inside, part⟩
      refine ⟨inner, low, inside, part.trans ?_⟩
      exact Journal.part_bind_right (fun node => (next node).run convertValue) converted

theorem attempt_mem_journal (settings : Settings) (depth : Nat) (value : Json) :
    .attempt depth value ∈ (journal settings depth value).events := by
  cases read : DocumentNode.ofJson? value with
  | error cause =>
    rw [journal_of_error read]
    exact List.mem_singleton_self _
  | ok document =>
    cases deep : settings.maxDepth.filter (· ≤ depth) with
    | some limit =>
      rw [journal_of_limit read deep]
      exact List.mem_singleton_self _
    | none =>
      rw [journal_of_ok read deep]
      have first := Journal.part_bind_left (Journal.note (.attempt depth value)) fun _ => do
        let node ← (document.kind.form.plan settings document).run fun child _ =>
          journal settings (depth + 1) child
        Journal.note (.completion document)
        return node
      exact first.infix_events.subset (List.mem_singleton_self _)

/-- Every value that is attempted has its journal as a part of the whole. -/
theorem journal_part {settings : Settings} {depth level : Nat} {value inner : Json}
    (happened : .attempt level inner ∈ (journal settings depth value).events) :
    (journal settings level inner).Part (journal settings depth value) := by
  cases read : DocumentNode.ofJson? value with
  | error cause =>
    rw [journal_of_error read] at happened
    cases List.mem_singleton.1 happened
    exact .refl _
  | ok document =>
    cases deep : settings.maxDepth.filter (· ≤ depth) with
    | some limit =>
      rw [journal_of_limit read deep] at happened
      cases List.mem_singleton.1 happened
      exact .refl _
    | none =>
      have below : ∀ child : Json, child.height < document.height →
          .attempt level inner ∈ (journal settings (depth + 1) child).events →
            (journal settings level inner).Part (journal settings (depth + 1) child) :=
        fun child smaller inside => journal_part inside
      have unfolded := journal_of_ok read deep
      rw [unfolded] at happened
      rcases Journal.mem_events_bind happened with first | ⟨_, noted, rest⟩
      · cases List.mem_singleton.1 first
        exact .refl _
      · rcases Journal.mem_events_bind rest with filling | ⟨_, _, last⟩
        · rcases Plan.part_of_mem_run filling with ⟨child, smaller, inside, part⟩
          have filled := (below child smaller inside).trans part
          rw [unfolded]
          refine Journal.Part.trans ?_ (Journal.part_bind_right _ noted)
          exact filled.trans (Journal.part_bind_left ..)
        · cases List.mem_singleton.1 last
termination_by value.height
decreasing_by
  rw [DocumentNode.ofJson?_eq_ok read]
  exact smaller

/-! ## The answers to a form -/

namespace Form

variable {α : Type} {document : DocumentNode} {answers : (field : Field) → Journal field.Answer}

/-- The answers to the questions of a form are parts of filling it in. -/
theorem part_of_asked {form : Form α} {field : Field}
    (member : field ∈ form.asked fun field => (answers field).result) :
    (answers field).Part (form.fill document answers) := by
  induction form with
  | done result => cases member
  | fail defect => cases member
  | read first next ih =>
    rw [asked] at member
    rcases List.mem_cons.1 member with rfl | later
    · exact Journal.part_bind_left ..
    · cases answered : (answers first).result with
      | error cause =>
        rw [answered] at later
        cases later
      | ok answer =>
        rw [answered] at later
        refine (ih answer later).trans ?_
        exact Journal.part_bind_right (fun answer => (next answer).fill document answers) answered

/-- Only the answers to questions that are asked have to be possible. -/
theorem Ensures.of_asked {possible : (field : Field) → field.Answer → Prop} {form : Form α}
    {property : α → List Answered → Prop} {result : α}
    (given : ∀ field ∈ form.asked (fun field => (answers field).result), ∀ answer,
      (answers field).result = .ok answer → possible field answer)
    (ensured : form.Ensures possible property)
    (filled : (form.fill document answers).result = .ok result) :
    ∃ reads, property result reads := by
  induction form generalizing property with
  | done last =>
    cases filled
    exact ⟨[], ensured⟩
  | fail defect => cases filled
  | read field next ih =>
    rcases Journal.result_bind_eq_ok.1 filled with ⟨answer, answered, rest⟩
    rw [asked, answered] at given
    have known := given field (List.mem_cons_self ..) answer answered
    have later : ∀ other ∈ (next answer).asked (fun field => (answers field).result), ∀ found,
        (answers other).result = .ok found → possible other found :=
      fun other member => given other (List.mem_cons_of_mem _ member)
    rcases ih answer later (ensured answer known) rest with ⟨reads, holds⟩
    exact ⟨⟨field, answer⟩ :: reads, holds⟩

end Form

/-- What is filled in for a document node is a part of its conversion. -/
theorem part_fill {settings : Settings} {depth : Nat} {value : Json} {document : DocumentNode}
    (read : DocumentNode.ofJson? value = .ok document)
    (shallow : settings.maxDepth.filter (· ≤ depth) = none) :
    (document.kind.form.fill document (Field.answer settings (depth + 1) document)).Part
      (journal settings depth value) := by
  rw [journal_eq_fill read shallow]
  have noted : (Journal.note (.attempt depth value)).result = .ok () := rfl
  refine Journal.Part.trans ?_ (Journal.part_bind_right _ noted)
  exact Journal.part_bind_left ..

/-! ## The identifiers of a part -/

/-- A part of what can be replayed can be replayed. -/
theorem Settings.replay_of_infix {settings : Settings} {seen after : List NodeId}
    {part events : List Event} (inside : part <:+: events)
    (replayed : settings.replay seen events = .ok after) :
    ∃ before passed, settings.replay before part = .ok passed := by
  rcases inside with ⟨front, back, rfl⟩
  rw [replay_append, replay_append] at replayed
  rcases bind_eq_ok_iff.1 replayed with ⟨middle, forward, _⟩
  rcases bind_eq_ok_iff.1 forward with ⟨before, _, performed⟩
  exact ⟨before, middle, performed⟩

/-- What is converted in a part of a journal that can be replayed is converted with the
identifiers that were seen before it. -/
theorem Json.ConvertsTo.of_part {settings : Settings} {depth : Nat} {value : Json} {node : Node}
    {α : Type} {whole : Journal α} {seen after : List NodeId}
    (replayed : settings.replay seen whole.events = .ok after)
    (part : (journal settings depth value).Part whole)
    (finished : (journal settings depth value).result = .ok node) :
    value.ConvertsTo settings depth node := by
  rcases settings.replay_of_infix part.infix_events replayed with ⟨before, passed, performed⟩
  refine ⟨before, passed, ?_⟩
  rw [convert_eq_carryOut, Journal.carryOut_apply, performed, finished]
  rfl

end ContractTree
