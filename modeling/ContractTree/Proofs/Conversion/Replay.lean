import ContractTree.Proofs.Conversion.Journal

namespace ContractTree

/-!
# Replaying a journal

A plan can be run wherever there are results and failures, and a map between two
such places that respects both takes one run to the other.  Carrying a journal
out is such a map, from journals to conversions, and the conversion of a value is
what its journal is carried out to.

Only completions matter to a replay.  In a lenient replay they change nothing, so
the result of a lenient conversion is the result of its journal.  A journal that is
written without a bound on the depth can still be carried out within one, by a replay
that stops at an attempt.
-/

/-- A map of computations that respects results, failures and sequencing. -/
structure RespectsRuns {m n : Type → Type} [Monad m] [MonadExceptOf ImportError m] [Monad n]
    [MonadExceptOf ImportError n] (carry : (α : Type) → m α → n α) : Prop where
  on_pure : ∀ {α : Type} (answer : α), carry α (pure answer) = pure answer
  on_throw : ∀ {α : Type} (cause : ImportError), carry α (throw cause) = throw cause
  on_bind : ∀ {α β : Type} (first : m α) (next : α → m β),
    carry β (first >>= next) = carry α first >>= fun answer => carry β (next answer)

theorem Plan.carry_run {m n : Type → Type} [Monad m] [MonadExceptOf ImportError m] [Monad n]
    [MonadExceptOf ImportError n] {carry : (α : Type) → m α → n α} (respects : RespectsRuns carry)
    {bound : Nat} {α : Type} (plan : Plan bound α)
    (convertValue : (value : Json) → value.height < bound → m Node) :
    carry α (plan.run convertValue) =
      plan.run fun value smaller => carry Node (convertValue value smaller) := by
  induction plan with
  | done result => exact respects.on_pure result
  | fail cause => exact respects.on_throw cause
  | convert value smaller next ih =>
    rw [run, run, respects.on_bind]
    congr 1
    funext node
    exact ih node

/-! ## The identifiers of the completed nodes -/

/-- The identifiers seen after some events, unless one of the events is refused. -/
def Settings.replay (settings : Settings) :
    List NodeId → List Event → Except ImportError (List NodeId)
  | seen, [] => .ok seen
  | seen, .attempt _ _ :: rest => settings.replay seen rest
  | seen, .completion document :: rest =>
    match settings.finish document seen with
    | .ok (_, after) => settings.replay after rest
    | .error cause => .error cause

theorem Settings.replay_append (settings : Settings) (seen : List NodeId)
    (first second : List Event) :
    settings.replay seen (first ++ second) =
      settings.replay seen first >>= fun after => settings.replay after second := by
  induction first generalizing seen with
  | nil => rfl
  | cons event rest ih =>
    cases event with
    | attempt depth value => exact ih seen
    | completion document =>
      simp only [List.cons_append, replay]
      cases settings.finish document seen with
      | ok outcome => exact ih outcome.2
      | error cause => rfl

section Performed

variable (settings : Settings)

/-- The events that come before a completion is refused. -/
def Settings.performed : List NodeId → List Event → List Event
  | _, [] => []
  | seen, .attempt depth value :: rest => .attempt depth value :: performed seen rest
  | seen, .completion document :: rest =>
    match settings.finish document seen with
    | .ok (_, after) => .completion document :: performed after rest
    | .error _ => []

theorem Settings.performed_prefix (seen : List NodeId) (events : List Event) :
    settings.performed seen events <+: events := by
  induction events generalizing seen with
  | nil => exact List.prefix_rfl
  | cons event rest ih =>
    cases event with
    | attempt depth value => exact List.cons_prefix_cons.2 ⟨rfl, ih seen⟩
    | completion document =>
      unfold performed
      cases settings.finish document seen with
      | ok outcome => exact List.cons_prefix_cons.2 ⟨rfl, ih outcome.2⟩
      | error cause => exact List.nil_prefix

/-- If nothing is refused, everything is performed. -/
theorem Settings.performed_of_replay {seen after : List NodeId} {events : List Event}
    (replayed : settings.replay seen events = .ok after) :
    settings.performed seen events = events := by
  induction events generalizing seen with
  | nil => rfl
  | cons event rest ih =>
    cases event with
    | attempt depth value => exact congrArg (_ :: ·) (ih replayed)
    | completion document =>
      rw [replay] at replayed
      rw [performed]
      cases finished : settings.finish document seen with
      | ok outcome =>
        rw [finished] at replayed
        exact congrArg (_ :: ·) (ih replayed)
      | error cause =>
        rw [finished] at replayed
        cases replayed

end Performed

/-- The conversion that does what a journal says, given how to take the identifiers
through its events. -/
def Journal.carryBy {α : Type}
    (replay : List NodeId → List Event → Except ImportError (List NodeId))
    (journal : Journal α) : Conversion α :=
  fun seen => do
    let after ← replay seen journal.events
    let answer ← journal.result
    return (answer, after)

theorem Journal.carryBy_apply {α : Type}
    (replay : List NodeId → List Event → Except ImportError (List NodeId))
    (journal : Journal α) (seen : List NodeId) :
    journal.carryBy replay seen =
      replay seen journal.events >>= fun after =>
        journal.result >>= fun answer => .ok (answer, after) := rfl

/-- It is enough that events can be replayed one part after the other. -/
theorem Journal.respectsRuns_carryBy
    {replay : List NodeId → List Event → Except ImportError (List NodeId)}
    (nothing : ∀ seen, replay seen [] = .ok seen)
    (append : ∀ seen first second, replay seen (first ++ second) =
      replay seen first >>= fun after => replay after second) :
    RespectsRuns (fun α (journal : Journal α) => (journal.carryBy replay : Conversion α)) where
  on_pure answer := by
    funext seen
    change carryBy replay ⟨[], .ok answer⟩ seen = _
    rw [carryBy_apply, nothing]
    rfl
  on_throw cause := by
    funext seen
    change carryBy replay ⟨[], .error cause⟩ seen = _
    rw [carryBy_apply, nothing]
    rfl
  on_bind first next := by
    funext seen
    rcases first with ⟨events, result⟩
    change carryBy replay (Journal.bind ⟨events, result⟩ next) seen =
      carryBy replay ⟨events, result⟩ seen >>= fun (answer, after) =>
        carryBy replay (next answer) after
    cases result with
    | error cause =>
      simp only [Journal.bind, carryBy_apply]
      cases replay seen events <;> rfl
    | ok answer =>
      simp only [Journal.bind, carryBy_apply, append]
      cases replay seen events <;> rfl

/-- The conversion that does what a journal says. -/
def Journal.carryOut {α : Type} (settings : Settings) (journal : Journal α) : Conversion α :=
  journal.carryBy settings.replay

theorem Journal.carryOut_apply {α : Type} (settings : Settings) (journal : Journal α)
    (seen : List NodeId) :
    journal.carryOut settings seen =
      settings.replay seen journal.events >>= fun after =>
        journal.result >>= fun answer => .ok (answer, after) := rfl

/-! ## The conversion of a value -/

theorem convert_of_error {settings : Settings} {depth : Nat} {value : Json} {cause : ImportError}
    (read : DocumentNode.ofJson? value = .error cause) :
    convert settings depth value = throw cause := by
  rw [convert]
  split
  · next found => cases read.symm.trans found; rfl
  · next found => cases read.symm.trans found

theorem convert_of_limit {settings : Settings} {depth limit : Nat} {value : Json}
    {document : DocumentNode} (read : DocumentNode.ofJson? value = .ok document)
    (deep : settings.maxDepth.filter (· ≤ depth) = some limit) :
    convert settings depth value = throw (.depthLimitExceeded limit) := by
  rw [convert]
  split
  · next found => cases read.symm.trans found
  · simp only [deep]

theorem convert_of_ok {settings : Settings} {depth : Nat} {value : Json}
    {document : DocumentNode} (read : DocumentNode.ofJson? value = .ok document)
    (shallow : settings.maxDepth.filter (· ≤ depth) = none) :
    convert settings depth value = do
      let node ← (document.kind.form.plan settings document).run fun child _ =>
        convert settings (depth + 1) child
      settings.finish document
      return node := by
  rw [convert]
  split
  · next found => cases read.symm.trans found
  · next found =>
    cases read.symm.trans found
    simp only [shallow]

/-- A replay that leads from the journals that are written under `recorded` to what is
converted under `settings`.  These differ at most in the bound on the depth.  Where it is
the conversion only that the bound stops, the replay has to stop at the attempt. -/
structure Settings.Reenacts (settings recorded : Settings)
    (replay : List NodeId → List Event → Except ImportError (List NodeId)) : Prop where
  layout : settings.layout = recorded.layout
  source : settings.source = recorded.source
  wholeSource : settings.wholeSource = recorded.wholeSource
  nothing : ∀ seen, replay seen [] = .ok seen
  append : ∀ seen first second, replay seen (first ++ second) =
    replay seen first >>= fun after => replay after second
  unreadable : ∀ {depth value cause}, DocumentNode.ofJson? value = .error cause →
    (Journal.note (.attempt depth value)).carryBy replay = pure ()
  stopped : ∀ {depth value document limit}, DocumentNode.ofJson? value = .ok document →
    settings.maxDepth.filter (· ≤ depth) = some limit →
    (journal recorded depth value).carryBy replay = throw (.depthLimitExceeded limit)
  entered : ∀ {depth value document}, DocumentNode.ofJson? value = .ok document →
    settings.maxDepth.filter (· ≤ depth) = none →
    recorded.maxDepth.filter (· ≤ depth) = none ∧
      (Journal.note (.attempt depth value)).carryBy replay = pure ()
  completed : ∀ document,
    (Journal.note (.completion document)).carryBy replay = settings.finish document

/-- What is converted is what the journal is carried out to. -/
theorem Settings.Reenacts.convert_eq {settings recorded : Settings}
    {replay : List NodeId → List Event → Except ImportError (List NodeId)}
    (reenacts : settings.Reenacts recorded replay) (depth : Nat) (value : Json) :
    convert settings depth value = (journal recorded depth value).carryBy replay := by
  have respects := Journal.respectsRuns_carryBy reenacts.nothing reenacts.append
  cases read : DocumentNode.ofJson? value with
  | error cause =>
    have written : journal recorded depth value =
        Journal.note (.attempt depth value) >>= fun _ => throw cause := journal_of_error read
    rw [convert_of_error read, written, respects.on_bind, reenacts.unreadable read,
      respects.on_throw, pure_bind]
  | ok document =>
    cases deep : settings.maxDepth.filter (· ≤ depth) with
    | some limit => rw [convert_of_limit read deep, reenacts.stopped read deep]
    | none =>
      rcases reenacts.entered read deep with ⟨shallow, begun⟩
      have children : (fun (child : Json) (_ : child.height < document.height) =>
          convert settings (depth + 1) child) = fun child _ =>
            (journal recorded (depth + 1) child).carryBy replay :=
        funext fun child => funext fun smaller => reenacts.convert_eq (depth + 1) child
      rw [convert_of_ok read deep, journal_of_ok read shallow, children,
        Form.plan_congr recorded settings reenacts.layout reenacts.source reenacts.wholeSource]
      simp only [respects.on_bind, begun, reenacts.completed, respects.on_pure,
        Plan.carry_run respects, pure_bind]
termination_by value.height
decreasing_by
  rw [DocumentNode.ofJson?_eq_ok read]
  exact smaller

theorem Settings.reenacts_replay (settings : Settings) :
    settings.Reenacts settings settings.replay where
  layout := rfl
  source := rfl
  wholeSource := rfl
  nothing _ := rfl
  append := settings.replay_append
  unreadable _ := rfl
  stopped read deep := by
    rw [journal_of_limit read deep]
    rfl
  entered _ shallow := ⟨shallow, rfl⟩
  completed document := by
    funext seen
    simp only [Journal.carryBy_apply, Journal.note, replay]
    cases settings.finish document seen <;> rfl

/-- The conversion of a value carries its journal out. -/
theorem convert_eq_carryOut (settings : Settings) (depth : Nat) (value : Json) :
    convert settings depth value = (journal settings depth value).carryOut settings :=
  settings.reenacts_replay.convert_eq depth value

end ContractTree
