import ContractTree.Proofs.Conversion.Journal

namespace ContractTree

/-!
# Answers in journals

Filling in a form means to answer its questions one after the other, and so the
journal of a document node is made of the journals of the answers.  This module
says what these are.  A question about scalars, identifiers or locations is
answered without an event.  A question about children has the journals of the
values in its places as events, in their order.
-/

namespace Journal

variable {α : Type}

/-- What has been checked without an event. -/
def ofChecked (document : DocumentNode) : Checked α → Journal α
  | .ok answer => pure answer
  | .error defect => throw (defect.on document.context)

/-- The value in a place, converted and narrowed. -/
def narrowed (settings : Settings) (depth : Nat) (parent : DocumentNode) (key : String)
    (category : Category) (narrow : Node → Option α) (value : Json) : Journal α :=
  if value.isObject then
    journal settings depth value >>= fun node =>
      match narrow node with
      | some answer => pure answer
      | none => ofChecked parent (.error (.violation (.unexpectedChild key category node.kind)))
  else ofChecked parent (.error (.wrongType key .node))

/-- The value in a place of a category. -/
def inCategory (settings : Settings) (depth : Nat) (parent : DocumentNode) (key : String)
    (category : Category) : Json → Journal Node :=
  narrowed settings depth parent key category fun node =>
    if category.accepts node.kind then some node else none

/-- An item of a list without gaps. -/
def entry (settings : Settings) (depth : Nat) (parent : DocumentNode) (key : String)
    (category : Category) (item : Json) : Journal Node :=
  if item.isNull then ofChecked parent (.error (.violation (.emptyEntry key)))
  else inCategory settings depth parent key category item

/-- An item of a list with gaps. -/
def gappedEntry (settings : Settings) (depth : Nat) (parent : DocumentNode) (key : String)
    (category : Category) (item : Json) : Journal (Option Node) :=
  if item.isNull then pure none
  else inCategory settings depth parent key category item >>= fun child => pure (some child)

/-- What an alias is for. -/
def foreign (settings : Settings) (depth : Nat) (parent : DocumentNode) (members : Members) :
    Journal (String ⊕ Node) :=
  match members.find? "foreign" with
  | some (.str name) => pure (.inl name)
  | some (.obj inner) =>
    inCategory settings depth parent "symbolAliases" .identifier (.obj inner) >>= fun child =>
      pure (.inr child)
  | _ => ofChecked parent (.error (.wrongType "symbolAliases" .aliasForeign))

def symbolAlias (settings : Settings) (depth : Nat) (parent : DocumentNode) :
    Json → Journal (SymbolAlias (String ⊕ Node))
  | .obj members =>
    foreign settings depth parent members >>= fun name =>
      ofChecked parent (SymbolAlias.readLocalName members) >>= fun localName =>
        pure ⟨name, localName⟩
  | _ => ofChecked parent (.error (.wrongType "symbolAliases" .aliasList))

end Journal

/-! ## Running the plan of an answer -/

section Run

variable {bound : Nat} {α β : Type}

theorem Plan.run_bind (convertValue : (value : Json) → value.height < bound → Journal Node)
    (plan : Plan bound α) (next : α → Plan bound β) :
    (plan.bind next).run convertValue =
      plan.run convertValue >>= fun answer => (next answer).run convertValue := by
  induction plan with
  | done result => rfl
  | fail cause => rfl
  | convert value smaller rest ih =>
    change (convertValue value smaller >>= fun node => ((rest node).bind next).run convertValue) =
      (convertValue value smaller >>= fun node => (rest node).run convertValue) >>= _
    rw [LawfulMonad.bind_assoc]
    exact congrArg _ (funext ih)

variable (settings : Settings) (depth : Nat) (document : DocumentNode)

theorem Plan.run_ofChecked (convertValue : (value : Json) → value.height < bound → Journal Node)
    (checked : Checked α) :
    (Plan.ofChecked document checked).run convertValue = Journal.ofChecked document checked := by
  cases checked <;> rfl

theorem Plan.run_narrowed (key : String) (category : Category) (narrow : Node → Option α)
    (value : Json) (smaller : value.height < bound) :
    ((narrowed document key category value smaller narrow).run fun child _ =>
      journal settings depth child) =
        Journal.narrowed settings depth document key category narrow value := by
  unfold narrowed Journal.narrowed
  split
  · rw [run]
    congr 1
    funext node
    cases narrow node <;> rfl
  · exact run_ofChecked ..

theorem Plan.run_inCategory (key : String) (category : Category) (value : Json)
    (smaller : value.height < bound) :
    ((inCategory document key category value smaller).run fun child _ =>
      journal settings depth child) =
        Journal.inCategory settings depth document key category value :=
  run_narrowed ..

/-- A step for each item gives one answer for each item. -/
theorem Plan.run_each (convertValue : (value : Json) → value.height < bound → Journal Node)
    {step : (item : Json) → item.height < bound → Plan bound α} {answer : Json → Journal α}
    (steps : ∀ item smaller, (step item smaller).run convertValue = answer item)
    (items : List Json) (smaller : ∀ item ∈ items, item.height < bound) (before : List α) :
    (each items smaller step before).run convertValue =
      items.mapM answer >>= fun after => pure (before.reverse ++ after) := by
  induction items generalizing before with
  | nil =>
    change pure before.reverse = pure (before.reverse ++ [])
    rw [List.append_nil]
  | cons item rest ih =>
    rw [each, run_bind, steps, List.mapM_cons, LawfulMonad.bind_assoc]
    congr 1
    funext here
    rw [ih, LawfulMonad.bind_assoc]
    congr 1
    funext after
    rw [LawfulMonad.pure_bind, List.reverse_cons, List.append_assoc, List.singleton_append]

theorem Plan.run_items (key : String)
    {step : (item : Json) → item.height < document.height → Plan document.height α}
    {answer : Json → Journal α}
    (steps : ∀ item smaller, ((step item smaller).run fun child _ =>
      journal settings depth child) = answer item) :
    ((items document key step).run fun child _ => journal settings depth child) =
      Journal.ofChecked document (document.readItems key) >>= List.mapM answer := by
  unfold items
  split
  · next list read =>
    rw [run_each _ steps, read]
    exact bind_pure (list.mapM answer)
  · next defect read =>
    rw [run_ofChecked, read]
    rfl

end Run

/-! ## The answers of a document node -/

section Answers

variable (settings : Settings) (depth : Nat) (document : DocumentNode)

/-- The journal of an answer, with the values in the places of the document node
converted at a depth. -/
def Field.answer (field : Field) : Journal field.Answer :=
  (field.plan settings document).run fun child _ => journal settings depth child

theorem Plan.structural_of_none {α : Type} {document : DocumentNode} {key : String}
    (missing : document.structural? key = none)
    (next : Option { value : Json // value.height < document.height } → Plan document.height α) :
    structural document key next = next none := by
  unfold structural
  split
  · next found => cases missing.symm.trans found
  · rfl

theorem Plan.structural_of_some {α : Type} {document : DocumentNode} {key : String} {value : Json}
    (present : document.structural? key = some value)
    (next : Option { value : Json // value.height < document.height } → Plan document.height α) :
    structural document key next =
      next (some ⟨value, DocumentNode.height_structural_lt present⟩) := by
  unfold structural
  split
  · next found =>
    cases present.symm.trans found
    rfl
  · next found => cases present.symm.trans found

theorem Field.answer_child (key : String) (category : Category) :
    (child key category).answer settings depth document =
      match document.structural? key with
      | some value => Journal.inCategory settings depth document key category value
      | none =>
        Journal.ofChecked document (.error (.violation (.missingChild key category))) := by
  rw [answer, plan]
  cases present : document.structural? key with
  | none =>
    rw [Plan.structural_of_none present]
    exact Plan.run_ofChecked ..
  | some value =>
    rw [Plan.structural_of_some present]
    exact Plan.run_inCategory ..

theorem Field.answer_child? (key : String) (category : Category) :
    (child? key category).answer settings depth document =
      match document.structural? key with
      | some value =>
        Journal.inCategory settings depth document key category value >>= fun node =>
          pure (some node)
      | none => pure none := by
  rw [answer, plan]
  cases present : document.structural? key with
  | none =>
    rw [Plan.structural_of_none present]
    rfl
  | some value =>
    rw [Plan.structural_of_some present, Plan.run_bind, Plan.run_inCategory]
    rfl

theorem Field.answer_elementaryChild (key : String) :
    (elementaryChild key).answer settings depth document =
      match document.structural? key with
      | some value =>
        Journal.narrowed settings depth document key .elementaryTypeName Node.elementaryType? value
      | none =>
        Journal.ofChecked document
          (.error (.violation (.missingChild key .elementaryTypeName))) := by
  rw [answer, plan]
  cases present : document.structural? key with
  | none =>
    rw [Plan.structural_of_none present]
    exact Plan.run_ofChecked ..
  | some value =>
    rw [Plan.structural_of_some present]
    exact Plan.run_narrowed ..

theorem Field.answer_children (key : String) (category : Category) :
    (children key category).answer settings depth document =
      Journal.ofChecked document (document.readItems key) >>=
        List.mapM (Journal.entry settings depth document key category) := by
  refine Plan.run_items settings depth document key fun item smaller => ?_
  unfold Plan.entry Journal.entry
  split
  · exact Plan.run_ofChecked ..
  · exact Plan.run_inCategory ..

theorem Field.answer_gappedChildren (key : String) (category : Category) :
    (gappedChildren key category).answer settings depth document =
      Journal.ofChecked document (document.readItems key) >>=
        List.mapM (Journal.gappedEntry settings depth document key category) := by
  refine Plan.run_items settings depth document key fun item smaller => ?_
  unfold Plan.gappedEntry Journal.gappedEntry
  split
  · rfl
  · rw [Plan.run_bind, Plan.run_inCategory]
    rfl

theorem SymbolAlias.run_planForeign (members : Members)
    (smaller : (Json.obj members).height < document.height) :
    ((planForeign document members smaller).run fun child _ => journal settings depth child) =
      Journal.foreign settings depth document members := by
  unfold planForeign Journal.foreign
  split
  · next found => simp only [found]; rfl
  · next found =>
    rw [Plan.run_bind, Plan.run_inCategory]
    simp only [found]
    rfl
  · next noName noNode =>
    rw [Plan.run_ofChecked]
    split
    · next found => exact absurd found (noName _)
    · next found => exact absurd found (noNode _)
    · rfl

theorem Field.answer_aliases :
    aliases.answer settings depth document =
      Journal.ofChecked document (document.readItems "symbolAliases") >>=
        List.mapM (Journal.symbolAlias settings depth document) := by
  refine Plan.run_items settings depth document "symbolAliases" fun item smaller => ?_
  unfold SymbolAlias.plan Journal.symbolAlias
  split
  · rw [Plan.run_bind, SymbolAlias.run_planForeign]
    congr 1
    funext name
    rw [Plan.run_bind, Plan.run_ofChecked]
    rfl
  · next noObject =>
    rw [Plan.run_ofChecked]
    split
    · next members => exact absurd HEq.rfl (noObject members smaller rfl)
    · rfl

end Answers

/-! ## Filling in a form -/

namespace Form

variable {α β : Type}

/-- A form filled in with answers. -/
def fill (document : DocumentNode) (answers : (field : Field) → Journal field.Answer) :
    Form α → Journal α
  | done result => pure result
  | fail defect => throw (defect.on document.context)
  | read field next => answers field >>= fun answer => (next answer).fill document answers

/-- The journal of the plan of a form is that of filling it in. -/
theorem run_plan (settings : Settings) (depth : Nat) (document : DocumentNode) (form : Form α) :
    ((form.plan settings document).run fun child _ => journal settings depth child) =
      form.fill document (Field.answer settings depth document) := by
  induction form with
  | done result => rfl
  | fail defect => rfl
  | read field next ih =>
    rw [plan, Plan.run_bind, fill]
    exact congrArg _ (funext ih)

end Form

theorem journal_eq_fill {settings : Settings} {depth : Nat} {value : Json}
    {document : DocumentNode} (read : DocumentNode.ofJson? value = .ok document)
    (shallow : settings.maxDepth.filter (· ≤ depth) = none) :
    journal settings depth value = do
      Journal.note (.attempt depth value)
      let node ← document.kind.form.fill document (Field.answer settings (depth + 1) document)
      Journal.note (.completion document)
      return node := by
  rw [journal_of_ok read shallow, Form.run_plan]

/-- What is written down does not matter to the result. -/
theorem journal_result_eq_fill {settings : Settings} {depth : Nat} {value : Json}
    {document : DocumentNode} (read : DocumentNode.ofJson? value = .ok document)
    (shallow : settings.maxDepth.filter (· ≤ depth) = none) :
    (journal settings depth value).result = (document.kind.form.fill document
      (Field.answer settings (depth + 1) document)).result := by
  rw [journal_eq_fill read shallow, Journal.result_bind]
  change (_ >>= fun node => _ : Journal Node).result = _
  rw [Journal.result_bind]
  cases (document.kind.form.fill document
    (Field.answer settings (depth + 1) document)).result <;> rfl

/-- A conversion that ends with a node has filled in a form of a document node that is
not nested too deeply. -/
theorem fill_of_journal {settings : Settings} {depth : Nat} {value : Json} {node : Node}
    (finished : (journal settings depth value).result = .ok node) :
    ∃ document, DocumentNode.ofJson? value = .ok document ∧
      settings.maxDepth.filter (· ≤ depth) = none ∧
      (document.kind.form.fill document
        (Field.answer settings (depth + 1) document)).result = .ok node := by
  cases read : DocumentNode.ofJson? value with
  | error cause =>
    rw [journal_of_error read] at finished
    cases finished
  | ok document =>
    cases deep : settings.maxDepth.filter (· ≤ depth) with
    | some limit =>
      rw [journal_of_limit read deep] at finished
      cases finished
    | none =>
      rw [journal_eq_fill read deep] at finished
      rcases Journal.result_bind_eq_ok.1 finished with ⟨_, _, rest⟩
      rcases Journal.result_bind_eq_ok.1 rest with ⟨made, filled, last⟩
      cases last
      exact ⟨document, rfl, rfl, filled⟩

end ContractTree
