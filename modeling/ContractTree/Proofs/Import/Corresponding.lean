import ContractTree.Proofs.Form.Parallel
import ContractTree.Proofs.Import.Identifiers

namespace ContractTree

/-!
# Conversions that correspond

Two conversions may be compared whose documents are different, or whose settings are.
They correspond if they fail with the same error or end with nodes that are related,
and if they claim the same identifiers in the same order.  What the relation of the
nodes is does not matter here; it only has to relate nodes of one kind.

Journals correspond if they are made of parts that do.  So the answers of two document
nodes are related if the values in their places are converted alike, and forms that ask
the same are filled in with related results.
-/

/-- The same error twice, or two results that are related. -/
inductive Corresponding {ε α β : Type} (related : α → β → Prop) : Except ε α → Except ε β → Prop
  | error (cause : ε) : Corresponding related (.error cause) (.error cause)
  | ok {first : α} {second : β} (holds : related first second) :
    Corresponding related (.ok first) (.ok second)

namespace Corresponding

variable {ε α β α' β' : Type} {related : α → β → Prop} {good : α' → β' → Prop}

theorem bind {first : Except ε α} {second : Except ε β} {next : α → Except ε α'}
    {following : β → Except ε β'} (here : Corresponding related first second)
    (there : ∀ answer other, related answer other →
      Corresponding good (next answer) (following other)) :
    Corresponding good (first >>= next) (second >>= following) := by
  cases here with
  | error cause => exact .error cause
  | ok holds => exact there _ _ holds

theorem imp {following : α → β → Prop} {first : Except ε α} {second : Except ε β}
    (here : Corresponding related first second)
    (implies : ∀ answer other, related answer other → following answer other) :
    Corresponding following first second := by
  cases here with
  | error cause => exact .error cause
  | ok holds => exact .ok (implies _ _ holds)

theorem refl {related : α → α → Prop} (reflexive : ∀ answer, related answer answer)
    (checked : Except ε α) : Corresponding related checked checked := by
  cases checked with
  | error cause => exact .error cause
  | ok answer => exact .ok (reflexive answer)

theorem of_eq {first second : Except ε α} (same : second = first) :
    Corresponding Eq first second := by
  subst same
  exact refl (fun _ => rfl) second

/-- Results that correspond by equality are equal. -/
theorem eq {first second : Except ε α} (here : Corresponding Eq first second) :
    second = first := by
  cases here with
  | error cause => rfl
  | ok same => rw [same]

/-- Results that correspond by a function are its images. -/
theorem eq_map {f : α → β} {first : Except ε α} {second : Except ε β}
    (here : Corresponding (fun answer other => other = f answer) first second) :
    second = first.map f := by
  cases here with
  | error cause => rfl
  | ok same => exact congrArg Except.ok same

theorem of_map {f : α → β} {first : Except ε α} {second : Except ε β}
    (same : second = first.map f) :
    Corresponding (fun answer other => other = f answer) first second := by
  subst same
  cases first with
  | error cause => exact .error cause
  | ok answer => exact .ok rfl

theorem mapM {γ δ : Type} {step : γ → Except ε α} {following : δ → Except ε β} {items : List γ}
    {others : List δ} (each : List.Forall₂ (fun item other =>
      Corresponding related (step item) (following other)) items others) :
    Corresponding (List.Forall₂ related) (items.mapM step) (others.mapM following) := by
  induction each with
  | nil => exact .ok .nil
  | cons here _ ih =>
    rw [List.mapM_cons, List.mapM_cons]
    exact here.bind fun _ _ first => ih.bind fun _ _ rest => .ok (.cons first rest)

end Corresponding

/-! ## Journals -/

namespace Journal

variable {α β α' β' : Type}

/-- Two journals end alike and have the same claims. -/
structure Corresponds (related : α → β → Prop) (first : Journal α) (second : Journal β) :
    Prop where
  result : Corresponding related first.result second.result
  claims_eq : second.claims = first.claims

namespace Corresponds

variable {related : α → β → Prop} {good : α' → β' → Prop}

theorem pure {first : α} {second : β} (holds : related first second) :
    Corresponds related (Pure.pure first) (Pure.pure second) :=
  ⟨.ok holds, rfl⟩

theorem of_eq {first second : Journal α} (same : second = first) : Corresponds Eq first second := by
  subst same
  exact ⟨.of_eq rfl, rfl⟩

theorem throw (cause : ImportError) :
    Corresponds related (MonadExcept.throw cause) (MonadExcept.throw cause) :=
  ⟨.error cause, rfl⟩

theorem note {first second : Event} (same : second.claim? = first.claim?) :
    Corresponds Eq (Journal.note first) (Journal.note second) := by
  refine ⟨.ok rfl, ?_⟩
  change List.filterMap Event.claim? [second] = List.filterMap Event.claim? [first]
  rw [List.filterMap_cons, List.filterMap_cons, same]

theorem bind {first : Journal α} {second : Journal β} {next : α → Journal α'}
    {following : β → Journal β'} (here : Corresponds related first second)
    (there : ∀ answer other, related answer other →
      Corresponds good (next answer) (following other)) :
    Corresponds good (first >>= next) (second >>= following) := by
  rcases first with ⟨events, result⟩
  rcases second with ⟨others, other⟩
  rcases here with ⟨results, claims⟩
  change Corresponding related result other at results
  change List.filterMap Event.claim? others = List.filterMap Event.claim? events at claims
  cases results with
  | error cause => exact ⟨.error cause, claims⟩
  | @ok answer other holds =>
    have later := there answer other holds
    refine ⟨later.result, ?_⟩
    change List.filterMap Event.claim? (others ++ (following other).events) =
      List.filterMap Event.claim? (events ++ (next answer).events)
    rw [List.filterMap_append, List.filterMap_append, claims]
    exact congrArg _ later.claims_eq

theorem imp {following : α → β → Prop} {first : Journal α} {second : Journal β}
    (here : Corresponds related first second)
    (implies : ∀ answer other, related answer other → following answer other) :
    Corresponds following first second :=
  ⟨here.result.imp implies, here.claims_eq⟩

theorem mapM {step : Json → Journal α} {following : Json → Journal β} {items others : List Json}
    (each : List.Forall₂ (fun item other => Corresponds related (step item) (following other))
      items others) :
    Corresponds (List.Forall₂ related) (items.mapM step) (others.mapM following) := by
  induction each with
  | nil => exact pure .nil
  | cons here _ ih =>
    rw [List.mapM_cons, List.mapM_cons]
    exact here.bind fun _ _ first => ih.bind fun _ _ rest => pure (.cons first rest)

theorem ofChecked {document image : DocumentNode} (context : image.context = document.context)
    {checked : Checked α} {imaged : Checked β} (results : Corresponding related checked imaged) :
    Corresponds related (Journal.ofChecked document checked) (Journal.ofChecked image imaged) := by
  cases results with
  | ok holds => exact pure holds
  | error defect =>
    unfold Journal.ofChecked
    rw [context]
    exact throw _

end Corresponds
end Journal

/-! ## Values that are converted alike -/

/-- A relation of nodes that have the same kind and, if they are elementary type names,
the same type. -/
structure Node.Keeping (related : Node → Node → Prop) : Prop where
  kind_eq : ∀ first second, related first second → second.kind = first.kind
  elementaryType?_eq : ∀ first second, related first second →
    second.elementaryType? = first.elementaryType?

theorem Node.keeping_eq : Node.Keeping Eq :=
  ⟨fun _ _ same => by rw [same], fun _ _ same => by rw [same]⟩

/-- Two values look alike, and the nodes that they are converted to are related. -/
structure Json.ConvertsLike (related : Node → Node → Prop) (settings other : Settings)
    (depth : Nat) (value image : Json) : Prop where
  isNull_eq : image.isNull = value.isNull
  isObject_eq : image.isObject = value.isObject
  asString?_eq : image.asString? = value.asString?
  corresponds : (journal settings depth value).Corresponds related (journal other depth image)

/-- Aliases with the same local name and with foreign values that are related. -/
structure Members.AliasLike (related : Json → Json → Prop) (members others : Members) : Prop where
  localName : SymbolAlias.readLocalName others = SymbolAlias.readLocalName members
  foreign : Option.Rel related (members.find? "foreign") (others.find? "foreign")

/-- The same local name, and the same name or nodes that are related. -/
structure SymbolAlias.Like (related : Node → Node → Prop)
    (first second : SymbolAlias (String ⊕ Node)) : Prop where
  foreign : Sum.LiftRel Eq related first.foreign second.foreign
  localName : second.localName = first.localName

section Values

variable {related : Node → Node → Prop} (keeping : Node.Keeping related)
  {settings other : Settings} {depth : Nat} {document image : DocumentNode}
  (context : image.context = document.context) {key : String} {category : Category}

include keeping context

namespace Journal

theorem corresponds_narrowed {α β : Type} {good : α → β → Prop} {narrow : Node → Option α}
    {narrowing : Node → Option β}
    (narrows : ∀ first second, related first second →
      Option.Rel good (narrow first) (narrowing second)) {value imaged : Json}
    (like : Json.ConvertsLike related settings other depth value imaged) :
    Corresponds good (narrowed settings depth document key category narrow value)
      (narrowed other depth image key category narrowing imaged) := by
  unfold narrowed
  rw [like.isObject_eq]
  split
  · refine like.corresponds.bind fun first second holds => ?_
    have kind_eq := keeping.kind_eq first second holds
    have results := narrows first second holds
    generalize narrow first = answer, narrowing second = imagedAnswer at results
    cases results with
    | some good => exact .pure good
    | none =>
      rw [kind_eq]
      exact .ofChecked context (.error _)
  · exact .ofChecked context (.error _)

theorem corresponds_inCategory {value imaged : Json}
    (like : Json.ConvertsLike related settings other depth value imaged) :
    Corresponds related (inCategory settings depth document key category value)
      (inCategory other depth image key category imaged) := by
  refine corresponds_narrowed keeping context (fun first second holds => ?_) like
  rw [keeping.kind_eq first second holds]
  split
  · exact .some holds
  · exact .none

theorem corresponds_entry {item imaged : Json}
    (like : Json.ConvertsLike related settings other depth item imaged) :
    Corresponds related (entry settings depth document key category item)
      (entry other depth image key category imaged) := by
  unfold entry
  rw [like.isNull_eq]
  split
  · exact .ofChecked context (.error _)
  · exact corresponds_inCategory keeping context like

theorem corresponds_gappedEntry {item imaged : Json}
    (like : Json.ConvertsLike related settings other depth item imaged) :
    Corresponds (Option.Rel related) (gappedEntry settings depth document key category item)
      (gappedEntry other depth image key category imaged) := by
  unfold gappedEntry
  rw [like.isNull_eq]
  split
  · exact .pure .none
  · exact (corresponds_inCategory keeping context like).bind fun _ _ holds => .pure (.some holds)

theorem corresponds_foreign {members others : Members}
    (like : Option.Rel (Json.ConvertsLike related settings other depth) (members.find? "foreign")
      (others.find? "foreign")) :
    Corresponds (Sum.LiftRel Eq related) (foreign settings depth document members)
      (foreign other depth image others) := by
  have refused : Corresponds (Sum.LiftRel (Eq : String → String → Prop) related)
      (ofChecked document (.error (.wrongType "symbolAliases" .aliasForeign)))
      (ofChecked image (.error (.wrongType "symbolAliases" .aliasForeign))) :=
    .ofChecked context (.error _)
  unfold foreign
  generalize members.find? "foreign" = before, others.find? "foreign" = after at like
  cases like with
  | none => exact refused
  | @some value imaged like =>
    have strings := like.asString?_eq
    have objects := like.isObject_eq
    cases value with
    | str name =>
      cases imaged <;> cases strings
      exact .pure (.inl rfl)
    | obj inner =>
      cases imaged <;> cases objects
      exact (corresponds_inCategory keeping context like).bind fun _ _ holds => .pure (.inr holds)
    | _ =>
      cases imaged with
      | str name => cases strings
      | obj inner => cases objects
      | _ => exact refused

theorem corresponds_symbolAlias {item imaged : Json}
    (like : Option.Rel (Members.AliasLike (Json.ConvertsLike related settings other depth))
      item.asObject? imaged.asObject?) :
    Corresponds (SymbolAlias.Like related) (symbolAlias settings depth document item)
      (symbolAlias other depth image imaged) := by
  have refused : Corresponds (SymbolAlias.Like related)
      (ofChecked document (.error (.wrongType "symbolAliases" .aliasList)))
      (ofChecked image (.error (.wrongType "symbolAliases" .aliasList))) :=
    .ofChecked context (.error _)
  cases item with
  | obj members =>
    cases imaged with
    | obj others =>
      cases like with | some like
      refine (corresponds_foreign keeping context like.foreign).bind fun name answer holds => ?_
      rw [like.localName]
      have named := Corresponding.refl (fun _ => rfl) (SymbolAlias.readLocalName members)
      exact (Corresponds.ofChecked context named).bind fun first second same =>
        .pure ⟨holds, (same : first = second).symm⟩
    | _ => cases like
  | _ =>
    cases imaged <;> first | exact refused | cases like

omit keeping in
theorem corresponds_items {α β : Type} {good : α → β → Prop} {step : Json → Journal α}
    {following : Json → Journal β} {similar : Json → Json → Prop}
    (each : ∀ item imaged, similar item imaged → Corresponds good (step item) (following imaged))
    (lists : Corresponding (List.Forall₂ similar) (document.readItems key)
      (image.readItems key)) :
    Corresponds (List.Forall₂ good) (ofChecked document (document.readItems key) >>= List.mapM step)
      (ofChecked image (image.readItems key) >>= List.mapM following) :=
  (Corresponds.ofChecked context lists).bind fun _ _ similar => .mapM (similar.imp each)

end Journal

/-! ## Answers -/

namespace Field

section One

variable (like : Option.Rel (Json.ConvertsLike related settings other depth)
  (document.structural? key) (image.structural? key))

include like

theorem corresponds_child :
    Journal.Corresponds related ((child key category).answer settings depth document)
      ((child key category).answer other depth image) := by
  rw [answer_child, answer_child]
  generalize document.structural? key = before, image.structural? key = after at like
  cases like with
  | none => exact .ofChecked context (.error _)
  | some like => exact Journal.corresponds_inCategory keeping context like

theorem corresponds_child? :
    Journal.Corresponds (Option.Rel related)
      ((child? key category).answer settings depth document)
      ((child? key category).answer other depth image) := by
  rw [answer_child?, answer_child?]
  generalize document.structural? key = before, image.structural? key = after at like
  cases like with
  | none => exact .pure .none
  | some like =>
    exact (Journal.corresponds_inCategory keeping context like).bind fun _ _ holds =>
      .pure (.some holds)

theorem corresponds_elementaryChild :
    Journal.Corresponds Eq ((elementaryChild key).answer settings depth document)
      ((elementaryChild key).answer other depth image) := by
  rw [answer_elementaryChild, answer_elementaryChild]
  generalize document.structural? key = before, image.structural? key = after at like
  cases like with
  | none => exact .ofChecked context (.error _)
  | some like =>
    refine Journal.corresponds_narrowed keeping context (fun first second holds => ?_) like
    rw [keeping.elementaryType?_eq first second holds]
    cases first.elementaryType? with
    | none => exact .none
    | some type => exact .some rfl

end One

section Items

variable (like : Corresponding (List.Forall₂ (Json.ConvertsLike related settings other depth))
  (document.readItems key) (image.readItems key))

include like

theorem corresponds_children :
    Journal.Corresponds (List.Forall₂ related)
      ((children key category).answer settings depth document)
      ((children key category).answer other depth image) := by
  rw [answer_children, answer_children]
  exact Journal.corresponds_items context
    (fun _ _ => Journal.corresponds_entry keeping context) like

theorem corresponds_gappedChildren :
    Journal.Corresponds (List.Forall₂ (Option.Rel related))
      ((gappedChildren key category).answer settings depth document)
      ((gappedChildren key category).answer other depth image) := by
  rw [answer_gappedChildren, answer_gappedChildren]
  exact Journal.corresponds_items context
    (fun _ _ => Journal.corresponds_gappedEntry keeping context) like

end Items

theorem corresponds_aliases
    (like : Corresponding (List.Forall₂ fun item imaged =>
        Option.Rel (Members.AliasLike (Json.ConvertsLike related settings other depth))
          item.asObject? imaged.asObject?)
      (document.readItems "symbolAliases") (image.readItems "symbolAliases")) :
    Journal.Corresponds (List.Forall₂ (SymbolAlias.Like related))
      (aliases.answer settings depth document) (aliases.answer other depth image) := by
  rw [answer_aliases, answer_aliases]
  exact Journal.corresponds_items context
    (fun _ _ => Journal.corresponds_symbolAlias keeping context) like

end Field
end Values

/-- What is checked about two nodes with related results is answered so. -/
theorem Field.corresponds_of_checked {settings other : Settings} {depth : Nat}
    {document image : DocumentNode} (context : image.context = document.context) (field : Field)
    {related : field.Answer → field.Answer → Prop} {checked imaged : Checked field.Answer}
    (results : Corresponding related checked imaged)
    (planned : field.plan settings document = .ofChecked document checked)
    (following : field.plan other image = .ofChecked image imaged) :
    Journal.Corresponds related (field.answer settings depth document)
      (field.answer other depth image) := by
  rw [answer, answer, planned, following, Plan.run_ofChecked, Plan.run_ofChecked]
  exact .ofChecked context results

/-! ## Forms and their nodes -/

/-- Parallel forms are filled in with related results if their answers are related. -/
theorem Form.Parallel.corresponds {α β : Type} {document image : DocumentNode}
    (context : image.context = document.context)
    {answers others : (field : Field) → Journal field.Answer}
    {related : (field : Field) → field.Answer → field.Answer → Prop} {property : Field → Prop}
    (answered : ∀ field, property field →
      Journal.Corresponds (related field) (answers field) (others field))
    {form : Form α} {other : Form β} {good : α → β → Prop} {any : α → Prop}
    (parallel : form.Parallel related other good) (asks : form.Asks property any) :
    Journal.Corresponds good (form.fill document answers) (other.fill image others) := by
  induction form generalizing other with
  | done first =>
    rcases parallel with ⟨second, rfl, holds⟩
    exact .pure holds
  | fail defect =>
    cases parallel
    exact .ofChecked context (.error defect)
  | read field next ih =>
    rcases parallel with ⟨following, rfl, rest⟩
    exact (answered field asks.1).bind fun answer second agrees =>
      ih answer (rest answer second agrees) (asks.2 answer)

section Conversion

variable {related : Node → Node → Prop} {settings other : Settings} {depth : Nat}
  {value imaged : Json}

/-- The conversions of two values correspond if both fail to be nodes in the same way, or
are nodes whose forms are filled in with related results. -/
theorem journal_corresponds (limit : other.maxDepth = settings.maxDepth)
    (nodes : Corresponding (fun document image => image.context = document.context ∧
      (settings.maxDepth.filter (· ≤ depth) = none →
        Journal.Corresponds related
          (document.kind.form.fill document (Field.answer settings (depth + 1) document))
          (image.kind.form.fill image (Field.answer other (depth + 1) image))))
      (DocumentNode.ofJson? value) (DocumentNode.ofJson? imaged)) :
    Journal.Corresponds related (journal settings depth value) (journal other depth imaged) := by
  generalize read : DocumentNode.ofJson? value = before,
    reread : DocumentNode.ofJson? imaged = after at nodes
  cases nodes with
  | error cause =>
    rw [journal_of_error read, journal_of_error reread]
    exact ⟨.error cause, rfl⟩
  | @ok document image holds =>
    rcases holds with ⟨context, filled⟩
    cases deep : settings.maxDepth.filter (· ≤ depth) with
    | some bound =>
      have following : other.maxDepth.filter (· ≤ depth) = some bound := by rw [limit, deep]
      rw [journal_of_limit read deep, journal_of_limit reread following]
      exact ⟨.error _, rfl⟩
    | none =>
      have following : other.maxDepth.filter (· ≤ depth) = none := by rw [limit, deep]
      have attempt : Journal.Corresponds Eq (Journal.note (.attempt depth value))
        (Journal.note (.attempt depth imaged)) := .note rfl
      have kind_eq : image.kind = document.kind :=
        Option.some.inj (congrArg NodeContext.kind context)
      have id_eq : image.id? = document.id? := congrArg NodeContext.id context
      have claim : (Event.completion image).claim? = (Event.completion document).claim? := by
        change image.id?.map (fun id => (image.kind, id)) =
          document.id?.map fun id => (document.kind, id)
        rw [id_eq, kind_eq]
      rw [journal_eq_fill read deep, journal_eq_fill reread following]
      refine attempt.bind fun _ _ _ => ?_
      refine (filled deep).bind fun node second holds => ?_
      exact (Journal.Corresponds.note claim).bind fun _ _ _ => .pure holds

/-- Imports of documents whose conversions correspond end with the same error or with
units that are related. -/
theorem importUnit_corresponds (reject : other.rejectDuplicateIds = settings.rejectDuplicateIds)
    (keeping : Node.Keeping related) (contexts : rootContext imaged = rootContext value)
    (here : Journal.Corresponds related (journal settings 0 value) (journal other 0 imaged)) :
    Corresponding related (importUnit settings value) (importUnit other imaged) := by
  have claims : List.filterMap Event.claim? (journal other 0 imaged).events =
      List.filterMap Event.claim? (journal settings 0 value).events := here.claims_eq
  have replayed : other.replay [] (journal other 0 imaged).events =
      settings.replay [] (journal settings 0 value).events := by
    rw [Settings.replay_eq_scanClaims, Settings.replay_eq_scanClaims, claims, reject]
  rw [importUnit_eq_replay, importUnit_eq_replay]
  refine (Corresponding.of_eq replayed).bind fun _ _ _ => ?_
  refine here.result.bind fun root second holds => ?_
  rw [requireUnit, requireUnit, keeping.kind_eq root second holds, contexts]
  split
  · exact .ok holds
  · exact .error _

end Conversion
end ContractTree
