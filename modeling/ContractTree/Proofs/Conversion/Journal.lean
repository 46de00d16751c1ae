import ContractTree.Import.Unit

namespace ContractTree

/-!
# Journals

A conversion of a document threads the identifiers seen so far through all of its
steps, and gives up at the first error.  A journal keeps what such a conversion did
apart from how it ended: the attempts and completions in the order in which they
happened, up to the end or the first error, and the result.  Writing a journal
needs no identifiers and refuses none.

The conversion that runs is recovered from its journal.  `Settings.replay` takes
the identifiers through the events, and may stop at one of them; if it stops
nowhere, the result of the journal is the result of the conversion.
-/

/-- What happens in the course of a conversion. -/
inductive Event where
  /-- A value is to be converted, with `depth` nodes around it. -/
  | attempt (depth : Nat) (value : Json)
  /-- The form of a document node has been filled in. -/
  | completion (document : DocumentNode)

namespace Event

/-- The document node that has been finished. -/
def completed? : Event → Option DocumentNode
  | attempt _ _ => none
  | completion document => some document

def isAttempt : Event → Bool
  | attempt _ _ => true
  | completion _ => false

end Event

/-- The events of a conversion and its result. -/
structure Journal (α : Type) where
  events : List Event
  result : Except ImportError α

namespace Journal

variable {α β : Type}

def bind (journal : Journal α) (next : α → Journal β) : Journal β :=
  match journal.result with
  | .ok answer => ⟨journal.events ++ (next answer).events, (next answer).result⟩
  | .error cause => ⟨journal.events, .error cause⟩

/-- A failure ends a journal; a handler would go on from the events so far. -/
def handle (journal : Journal α) (handler : ImportError → Journal α) : Journal α :=
  match journal.result with
  | .ok _ => journal
  | .error cause => ⟨journal.events ++ (handler cause).events, (handler cause).result⟩

instance : Monad Journal where
  pure answer := ⟨[], .ok answer⟩
  bind := bind

instance : MonadExceptOf ImportError Journal where
  throw cause := ⟨[], .error cause⟩
  tryCatch := handle

theorem bind_pure (journal : Journal α) : journal.bind pure = journal := by
  rcases journal with ⟨events, result⟩
  cases result with
  | ok answer =>
    change Journal.mk (events ++ []) (.ok answer) = _
    rw [List.append_nil]
  | error cause => rfl

theorem bind_assoc {γ : Type} (journal : Journal α) (next : α → Journal β)
    (last : β → Journal γ) :
    (journal.bind next).bind last = journal.bind fun answer => (next answer).bind last := by
  rcases journal with ⟨events, result⟩
  cases result with
  | error cause => rfl
  | ok answer =>
    simp only [bind]
    cases (next answer).result with
    | error cause => rfl
    | ok later => simp only [List.append_assoc]

instance : LawfulMonad Journal :=
  LawfulMonad.mk' Journal (fun journal => bind_pure journal) (fun _ _ => rfl)
    (fun journal next last => bind_assoc journal next last)

/-- One event. -/
def note (event : Event) : Journal Unit := ⟨[event], .ok ()⟩

theorem bind_eq (journal : Journal α) (next : α → Journal β) :
    (journal >>= next) = journal.bind next := rfl

/-- Results are composed as if nothing had been written down. -/
theorem result_bind (journal : Journal α) (next : α → Journal β) :
    (journal >>= next).result = journal.result >>= fun answer => (next answer).result := by
  rcases journal with ⟨events, result⟩
  cases result <;> rfl

theorem result_bind_eq_ok {journal : Journal α} {next : α → Journal β} {answer : β} :
    (journal >>= next).result = .ok answer ↔
      ∃ middle, journal.result = .ok middle ∧ (next middle).result = .ok answer := by
  rw [result_bind]
  cases journal.result with
  | ok middle =>
    constructor
    · intro rest
      exact ⟨middle, rfl, rest⟩
    · rintro ⟨_, same, rest⟩
      cases same
      exact rest
  | error cause =>
    constructor
    · intro rest
      cases rest
    · rintro ⟨_, same, _⟩
      cases same

theorem events_bind_of_ok {journal : Journal α} {next : α → Journal β} {middle : α}
    (finished : journal.result = .ok middle) :
    (journal >>= next).events = journal.events ++ (next middle).events := by
  rw [bind_eq, bind, finished]

/-- What happens in two steps happens in one of them. -/
theorem mem_events_bind {journal : Journal α} {next : α → Journal β} {event : Event}
    (happened : event ∈ (journal >>= next).events) :
    event ∈ journal.events ∨
      ∃ answer, journal.result = .ok answer ∧ event ∈ (next answer).events := by
  cases answered : journal.result with
  | ok answer =>
    rw [events_bind_of_ok answered] at happened
    rcases List.mem_append.1 happened with here | later
    · exact .inl here
    · exact .inr ⟨answer, rfl, later⟩
  | error cause =>
    rw [bind_eq, bind, answered] at happened
    exact .inl happened

end Journal

/-! ## The journal of a conversion -/

/-- What happens when a value is converted with `depth` nodes around it. -/
def journal (settings : Settings) (depth : Nat) (value : Json) : Journal Node := do
  Journal.note (.attempt depth value)
  match _read : DocumentNode.ofJson? value with
  | .error cause => throw cause
  | .ok document =>
    match settings.maxDepth.filter (· ≤ depth) with
    | some limit => throw (.depthLimitExceeded limit)
    | none => do
      let node ← (document.kind.form.plan settings document).run fun child _smaller =>
        journal settings (depth + 1) child
      Journal.note (.completion document)
      return node
termination_by value.height
decreasing_by
  rw [DocumentNode.ofJson?_eq_ok _read]
  exact _smaller

theorem journal_of_error {settings : Settings} {depth : Nat} {value : Json} {cause : ImportError}
    (read : DocumentNode.ofJson? value = .error cause) :
    journal settings depth value = ⟨[.attempt depth value], .error cause⟩ := by
  rw [journal]
  split
  · next found => cases read.symm.trans found; rfl
  · next found => cases read.symm.trans found

theorem journal_of_limit {settings : Settings} {depth limit : Nat} {value : Json}
    {document : DocumentNode} (read : DocumentNode.ofJson? value = .ok document)
    (deep : settings.maxDepth.filter (· ≤ depth) = some limit) :
    journal settings depth value =
      ⟨[.attempt depth value], .error (.depthLimitExceeded limit)⟩ := by
  rw [journal]
  split
  · next found => cases read.symm.trans found
  · next found => simp only [deep]; rfl

theorem journal_of_ok {settings : Settings} {depth : Nat} {value : Json}
    {document : DocumentNode} (read : DocumentNode.ofJson? value = .ok document)
    (shallow : settings.maxDepth.filter (· ≤ depth) = none) :
    journal settings depth value = do
      Journal.note (.attempt depth value)
      let node ← (document.kind.form.plan settings document).run fun child _ =>
        journal settings (depth + 1) child
      Journal.note (.completion document)
      return node := by
  rw [journal]
  split
  · next found => cases read.symm.trans found
  · next found =>
    cases read.symm.trans found
    simp only [shallow]

/-! ## Settings under which documents are read alike -/

section ReadAlike

variable (settings other : Settings) (layout : other.layout = settings.layout)
  (source : other.source = settings.source) (whole : other.wholeSource = settings.wholeSource)

include layout source whole

/-- Neither the bound on the depth nor the check of identifiers matters to an answer. -/
theorem Field.plan_congr (document : DocumentNode) (field : Field) :
    field.plan other document = field.plan settings document := by
  cases field <;> simp only [plan, layout, source, whole]

theorem Form.plan_congr {α : Type} (document : DocumentNode) (form : Form α) :
    form.plan other document = form.plan settings document := by
  induction form with
  | done result => rfl
  | fail defect => rfl
  | read field next ih =>
    rw [plan, plan, Field.plan_congr settings other layout source whole]
    exact congrArg _ (funext ih)

end ReadAlike

end ContractTree
