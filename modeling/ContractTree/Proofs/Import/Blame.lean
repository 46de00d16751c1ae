import ContractTree.Proofs.Conversion.Alone
import ContractTree.Proofs.Conversion.Faults
import ContractTree.Proofs.Document.Tags
import ContractTree.Tree.Equality

namespace ContractTree

/-!
# Every failure has one node to blame

An import that fails, its root being no unit aside, fails in the conversion of one
value: this value fails on its own, with the same error, while everything that is
attempted in it can be converted.  No other value of the import does.  What the error
says is true of that value: the kind and the identifier are its own, and so are the
tag, the text or the marker that the error quotes.
-/

section Trace

variable {settings : Settings}

/-- Everything that is attempted can be converted. -/
def Succeeded (settings : Settings) (events : List Event) : Prop :=
  ∀ level value, .attempt level value ∈ events →
    ∃ node, (journal settings level value).result = .ok node

theorem Succeeded.append {events later : List Event} (first : Succeeded settings events)
    (second : Succeeded settings later) : Succeeded settings (events ++ later) := by
  intro level value happened
  rcases List.mem_append.1 happened with before | behind
  · exact first level value before
  · exact second level value behind

theorem succeeded_of_journal {depth : Nat} {value : Json} {node : Node}
    (finished : (journal settings depth value).result = .ok node) :
    Succeeded settings (journal settings depth value).events := by
  intro level other happened
  rcases journal_attempted finished happened with ⟨_, made, _, converted, _⟩
  exact ⟨made, converted⟩

/-- A plan that is carried out attempts in vain only what it fails with.  It fails with a
fault, after everything that it asked for has been converted, or with the error of the
last value that it asked for. -/
theorem Plan.Grounded.run {bound : Nat} {α : Type} {fault : ImportError → Prop}
    {plan : Plan bound α} {good : α → Prop} (grounded : plan.Grounded fault good)
    (settings : Settings) (depth : Nat) :
    let journal' := plan.run fun child _ => journal settings depth child
    (∀ answer, journal'.result = .ok answer → Succeeded settings journal'.events) ∧
    ∀ cause, journal'.result = .error cause →
      (fault cause ∧ Succeeded settings journal'.events) ∨
      ∃ before child, child.height < bound ∧ child.isObject = true ∧
        journal'.events = before ++ (journal settings depth child).events ∧
        (journal settings depth child).result = .error cause ∧ Succeeded settings before := by
  have nothing : Succeeded settings [] := fun _ _ impossible => nomatch impossible
  induction plan with
  | done result =>
    refine ⟨fun _ _ => nothing, fun cause impossible => ?_⟩
    cases impossible
  | fail other =>
    refine ⟨fun _ impossible => (nomatch impossible), fun cause failed => ?_⟩
    cases failed
    exact .inl ⟨grounded, nothing⟩
  | convert value smaller next ih =>
    dsimp only [Plan.run]
    cases converted : (journal settings depth value).result with
    | error other =>
      refine ⟨fun answer finished => ?_, fun cause failed => ?_⟩
      · rcases Journal.result_bind_eq_ok.1 finished with ⟨node, made, _⟩
        cases converted.symm.trans made
      · rw [Journal.result_bind, converted] at failed
        cases failed
        refine .inr ⟨[], value, smaller, grounded.1, ?_, converted, nothing⟩
        rw [Journal.bind_eq, Journal.bind, converted]
        rfl
    | ok node =>
      have first := succeeded_of_journal converted
      rcases ih node (grounded.2 node) with ⟨whenOk, whenError⟩
      rw [Journal.events_bind_of_ok converted, Journal.result_bind, converted]
      refine ⟨fun answer finished => first.append (whenOk answer finished),
        fun cause failed => ?_⟩
      rcases whenError cause failed with ⟨isFault, rest⟩ |
        ⟨before, child, lower, object, split, fails, rest⟩
      · exact .inl ⟨isFault, first.append rest⟩
      · refine .inr ⟨(journal settings depth value).events ++ before, child, lower, object, ?_,
          fails, first.append rest⟩
        rw [split, List.append_assoc]

/-- A value that is to blame for an error: it is no document node, or the document node
that it is has a field at fault. -/
def ToBlame (value : Json) (cause : ImportError) : Prop :=
  DocumentNode.ofJson? value = .error cause ∨
    ∃ document, DocumentNode.ofJson? value = .ok document ∧ document.AtFault cause

/-- A conversion that fails ends with the attempt on a value that is to blame.  What was
attempted in that value can be converted, and what was attempted before it can be
converted or has the value in it. -/
theorem journal_to_blame (unbounded : settings.maxDepth = none) {depth : Nat} {value : Json}
    {cause : ImportError} (failed : (journal settings depth value).result = .error cause) :
    ∃ before level blamed after,
      (journal settings depth value).events = before ++ .attempt level blamed :: after ∧
      (journal settings level blamed).events = .attempt level blamed :: after ∧
      (journal settings level blamed).result = .error cause ∧
      Succeeded settings after ∧ ToBlame blamed cause ∧
      (blamed = value ∨ blamed.isObject = true) ∧
      ∀ outer other, .attempt outer other ∈ before →
        (∃ node, (journal settings outer other).result = .ok node) ∨
        .attempt level blamed ∈ (journal settings outer other).events.tail := by
  have noneBefore : ∀ level blamed outer other, .attempt outer other ∈ ([] : List Event) →
      (∃ node, (journal settings outer other).result = .ok node) ∨
        .attempt level blamed ∈ (journal settings outer other).events.tail :=
    fun _ _ _ _ impossible => nomatch impossible
  cases read : DocumentNode.ofJson? value with
  | error other =>
    have journalEq : journal settings depth value = ⟨[.attempt depth value], .error other⟩ :=
      journal_of_error read
    rw [journalEq] at failed
    cases failed
    refine ⟨[], depth, value, [], ?_, ?_, ?_, ?_, .inl read, .inl rfl, noneBefore _ _⟩
    · rw [journalEq]
      rfl
    · rw [journalEq]
    · rw [journalEq]
    · exact fun _ _ impossible => nomatch impossible
  | ok document =>
    have shallow : settings.maxDepth.filter (· ≤ depth) = none := by
      rw [unbounded]
      rfl
    have journalEq := journal_of_ok read shallow
    have grounded := (document.grounded_plan settings).run settings (depth + 1)
    generalize running : ((document.kind.form.plan settings document).run fun child _ =>
      journal settings (depth + 1) child) = run at journalEq grounded
    rcases run with ⟨events, result⟩
    -- A form that is filled in cannot make the conversion fail.
    have ended : result = .error cause ∧
        (journal settings depth value).events = .attempt depth value :: events := by
      rw [journalEq] at failed ⊢
      cases result with
      | ok node => cases failed
      | error other =>
        cases failed
        exact ⟨rfl, rfl⟩
    rcases ended with ⟨rfl, eventsEq⟩
    rcases grounded.2 cause rfl with ⟨fault, succeeded⟩ |
      ⟨before, child, smaller, object, split, fails, succeeded⟩
    · exact ⟨[], depth, value, events, eventsEq, eventsEq, failed, succeeded,
        .inr ⟨document, read, fault⟩, .inl rfl, noneBefore _ _⟩
    · have height : child.height < value.height := by
        rw [DocumentNode.ofJson?_eq_ok read]
        exact smaller
      rcases journal_to_blame unbounded fails with
        ⟨inner, level, blamed, after, innerSplit, own, fails', rest, blame, stands, earlier⟩
      have split : events = before ++ (journal settings (depth + 1) child).events := split
      have isObject : blamed.isObject = true := by
        rcases stands with rfl | isObject
        · exact object
        · exact isObject
      refine ⟨.attempt depth value :: (before ++ inner), level, blamed, after, ?_, own, fails',
        rest, blame, .inr isObject, ?_⟩
      · rw [eventsEq, split, innerSplit, List.cons_append, List.append_assoc]
      · intro outer other happened
        rcases List.mem_cons.1 happened with here | later
        · cases here
          refine .inr ?_
          rw [eventsEq, split, innerSplit]
          simp
        · rcases List.mem_append.1 later with sibling | nested
          · exact .inl (succeeded outer other sibling)
          · exact earlier outer other nested
termination_by value.height

end Trace

/-! ## What an error says of the value to blame -/

/-- The node that an error names. -/
def ImportError.context? : ImportError → Option NodeContext
  | schemaViolation node _ => some node
  | invariantViolation node _ => some node
  | _ => none

theorem TagKey.resolve_eq_error {members : Members} {cause : ImportError}
    (failed : resolve members = .error cause) :
    (∃ tag, cause = .unknownKind tag ∧ NodeKind.ofTag? tag = none ∧
      (nodeType.string? members).or ((name.string? members).or (kind.string? members)) =
        some tag) ∨
    (cause = .schemaViolation ⟨none, idBeside? members⟩ (.missingField "nodeType") ∧
      ∀ key, string? members key = none) := by
  have decides : Decides members (.error cause) := resolve_eq_iff.1 failed
  cases decides with
  | @unsupported tag stands unknown =>
    refine .inl ⟨tag, rfl, NodeKind.ofTag?_eq_none_iff.2 unknown, ?_⟩
    rw [string?_eq_some_iff.2 stands, Option.some_or]
  | @unknownName tag silent noName noKind stands =>
    refine .inl ⟨tag, rfl, noName.ofTag?_eq_none stands, ?_⟩
    rw [string?_eq_none_iff.2 silent, string?_eq_some_iff.2 stands, Option.none_or, Option.some_or]
  | @unknownKind tag silent nameless noKind stands =>
    refine .inl ⟨tag, rfl, noKind.ofTag?_eq_none stands, ?_⟩
    rw [string?_eq_none_iff.2 silent, string?_eq_none_iff.2 nameless,
      string?_eq_some_iff.2 stands, Option.none_or, Option.none_or]
  | untagged silent => exact .inr ⟨rfl, fun key => string?_eq_none_iff.2 (silent key)⟩

/-- What an error says is true of the value that it is raised for: the value of a node
below the root, or the root. -/
structure Explains (root value : Json) (cause : ImportError) : Prop where
  /-- A context with a kind has the kind and the identifier of the node. -/
  context_eq : ∀ context kind, cause.context? = some context → context.kind = some kind →
    ∃ node, DocumentNode.ofJson? value = .ok node ∧ context = ⟨some node.kind, node.id?⟩
  /-- A context without a kind is that of a root which is no object, or of an object
  without any tag. -/
  without_kind : ∀ context, cause.context? = some context → context.kind = none →
    (cause = .schemaViolation .unknown .notAnObject ∧ value = root ∧ root.isObject = false) ∨
    ∃ members id, cause = .schemaViolation ⟨none, id⟩ (.missingField "nodeType") ∧
      value = .obj members ∧ ∀ key, TagKey.string? members key = none
  /-- An unknown tag is the tag under `nodeType` or, without one, the first under the
  other keys. -/
  unknownKind : ∀ tag, cause = .unknownKind tag → NodeKind.ofTag? tag = none ∧
    ∃ members, value = .obj members ∧
      (TagKey.nodeType.string? members).or
        ((TagKey.name.string? members).or (TagKey.kind.string? members)) = some tag
  /-- A text that is no token of its class is a text of the node, and is refused. -/
  invalidToken : ∀ text reason, cause = .invalidToken text reason →
    ∃ node, DocumentNode.ofJson? value = .ok node ∧ node.Owns text ∧ Token.Rejects text reason
  /-- A marker that names no range is a text of the node, and names none. -/
  invalidSourceRange : ∀ context marker,
    cause = .schemaViolation context (.invalidSourceRange marker) →
      ∃ node, DocumentNode.ofJson? value = .ok node ∧ node.Owns marker ∧
        Span.ofMarker? marker = none

theorem Explains.of_untagged {root value : Json} {members : Members} {cause : ImportError}
    (object : value = .obj members) (failed : TagKey.resolve members = .error cause) :
    Explains root value cause := by
  rcases TagKey.resolve_eq_error failed with ⟨tag, rfl, unsupported, first⟩ | ⟨rfl, none⟩
  · exact {
      context_eq := fun _ _ impossible => nomatch impossible
      without_kind := fun _ impossible => nomatch impossible
      unknownKind := by
        rintro _ ⟨⟩
        exact ⟨unsupported, members, object, first⟩
      invalidToken := fun _ _ impossible => nomatch impossible
      invalidSourceRange := fun _ _ impossible => nomatch impossible }
  · exact {
      context_eq := by
        rintro _ _ ⟨⟩ impossible
        cases impossible
      without_kind := fun _ _ _ => .inr ⟨members, _, rfl, object, none⟩
      unknownKind := fun _ impossible => nomatch impossible
      invalidToken := fun _ _ impossible => nomatch impossible
      invalidSourceRange := fun _ _ impossible => nomatch impossible }

theorem Explains.of_atFault {root value : Json} {document : DocumentNode} {cause : ImportError}
    (read : DocumentNode.ofJson? value = .ok document) (fault : document.AtFault cause) :
    Explains root value cause := by
  rcases fault with ⟨defect, grounded, rfl⟩
  have own : ∀ context, (defect.on document.context).context? = some context →
      context = document.context := by
    intro context named
    cases defect <;> cases named <;> rfl
  exact {
    context_eq := fun context _ named _ => ⟨document, read, own context named⟩
    without_kind := by
      intro context named noKind
      rw [own context named] at noKind
      cases noKind
    unknownKind := by
      intro tag same
      cases defect <;> cases same
    invalidToken := by
      intro text reason same
      cases defect <;> cases same
      exact ⟨document, read, grounded⟩
    invalidSourceRange := by
      intro context marker same
      cases defect <;> cases same
      exact ⟨document, read, grounded⟩ }

theorem Explains.of_toBlame {root value : Json} {cause : ImportError}
    (blame : ToBlame value cause) (stands : value = root ∨ value.isObject = true) :
    Explains root value cause := by
  rcases blame with failed | ⟨document, read, fault⟩
  · cases object : value.isObject with
    | true =>
      cases value with
      | obj members =>
        refine .of_untagged rfl ?_
        unfold DocumentNode.ofJson? at failed
        dsimp only at failed
        cases resolved : TagKey.resolve members with
        | ok tag =>
          rw [resolved] at failed
          cases failed
        | error other =>
          rw [resolved] at failed
          cases failed
          rfl
      | _ => cases object
    | false =>
      have isRoot : value = root := by
        rcases stands with same | isObject
        · exact same
        · cases object.symm.trans isObject
      have cause_eq : cause = .schemaViolation .unknown .notAnObject := by
        cases value with
        | obj members => cases object
        | _ =>
          cases failed
          rfl
      subst cause_eq
      exact {
        context_eq := by
          rintro _ _ ⟨⟩ impossible
          cases impossible
        without_kind := fun _ _ _ => .inl ⟨rfl, isRoot, isRoot ▸ object⟩
        unknownKind := fun _ impossible => nomatch impossible
        invalidToken := fun _ _ impossible => nomatch impossible
        invalidSourceRange := fun _ _ impossible => nomatch impossible }
  · exact .of_atFault read fault

/-! ## The one value to blame -/

/-- A value fails by itself: on its own it fails with the error, and all conversions that
are attempted in it succeed. -/
def FailsItself (settings : Settings) (value : Json) (cause : ImportError) : Prop :=
  convertAlone settings value = .error cause ∧
    ∀ level inner, .attempt level inner ∈ (importEvents settings value).tail →
      ∃ node, convertAlone settings inner = .ok node

/-- A place in the course of an import where a value is attempted that fails by itself. -/
def FailsAt (settings : Settings) (document : Json) (cause : ImportError) (place : Nat) : Prop :=
  ∃ level value, (importEvents settings document)[place]? = some (.attempt level value) ∧
    FailsItself settings value cause

section Blame

variable {settings : Settings} (lenient : settings.rejectDuplicateIds = false)
  (unbounded : settings.maxDepth = none)

include lenient unbounded

theorem result_eq_convertAlone (level : Nat) (value : Json) :
    (journal settings level value).result = convertAlone settings value := by
  rw [convertAlone_eq lenient, journal_result_alone unbounded]

/-- What is attempted in a value is attempted in it on its own. -/
theorem attempted_alone_iff (level : Nat) (value inner : Json) :
    (∃ outer, .attempt outer inner ∈ (importEvents settings value).tail) ↔
      ∃ outer, .attempt outer inner ∈ (journal settings level value).events.tail := by
  rw [importEvents_of_lenient lenient, journal_eq_deepen unbounded level, Journal.deepen,
    ← List.map_tail]
  constructor
  · rintro ⟨outer, happened⟩
    exact ⟨outer + level, List.mem_map.2 ⟨_, happened, rfl⟩⟩
  · rintro ⟨outer, happened⟩
    rcases List.mem_map.1 happened with ⟨event, inside, same⟩
    cases event with
    | attempt before value' =>
      cases same
      exact ⟨before, inside⟩
    | completion document => cases same

/-- An import that fails, its root being no unit aside, fails in the conversion of the
root. -/
theorem journal_of_failed {document : Json} {cause : ImportError}
    (failed : importUnit settings document = .error cause)
    (early : ∀ found,
      cause ≠ .invariantViolation (rootContext document) (.notASourceUnit found)) :
    (journal settings 0 document).result = .error cause := by
  rw [result_eq_convertAlone lenient unbounded]
  rw [importUnit_of_lenient lenient] at failed
  cases converted : convertAlone settings document with
  | error other =>
    rw [converted] at failed
    exact failed
  | ok root =>
    rw [converted] at failed
    change requireUnit document root = .error cause at failed
    unfold requireUnit at failed
    split at failed
    · cases failed
    · cases failed
      exact absurd rfl (early root.kind)

/-- Before the blamed attempt nothing fails without the blamed value, and after it nothing
fails, so no other attempt is on a value that fails by itself. -/
theorem eq_of_failsItself {document blamed value : Json} {cause : ImportError}
    {before after : List Event} {level outer place : Nat}
    (events : importEvents settings document = before ++ .attempt level blamed :: after)
    (earlier : ∀ outer other, .attempt outer other ∈ before →
      (∃ node, (journal settings outer other).result = .ok node) ∨
      .attempt level blamed ∈ (journal settings outer other).events.tail)
    (fails : convertAlone settings blamed = .error cause) (succeeded : Succeeded settings after)
    (happened : (importEvents settings document)[place]? = some (.attempt outer value))
    (itself : FailsItself settings value cause) : place = before.length ∧ value = blamed := by
  have failing : ¬ ∃ node, (journal settings outer value).result = .ok node := by
    rintro ⟨node, converted⟩
    rw [result_eq_convertAlone lenient unbounded, itself.1] at converted
    cases converted
  rw [events] at happened
  rcases Nat.lt_trichotomy place before.length with less | rfl | more
  · rw [List.getElem?_append_left less] at happened
    rcases earlier outer value (List.mem_of_getElem? happened) with converted | inside
    · exact absurd converted failing
    · rcases (attempted_alone_iff lenient unbounded outer value blamed).2 ⟨level, inside⟩ with
        ⟨inner, within⟩
      rcases itself.2 inner blamed within with ⟨node, converted⟩
      rw [fails] at converted
      cases converted
  · rw [List.getElem?_append_right (Nat.le_refl _), Nat.sub_self] at happened
    cases happened
    exact ⟨rfl, rfl⟩
  · rw [List.getElem?_append_right (Nat.le_of_lt more)] at happened
    have positive : place - before.length = place - before.length - 1 + 1 := by omega
    rw [positive, List.getElem?_cons_succ] at happened
    exact absurd (succeeded outer value (List.mem_of_getElem? happened)) failing

/-- A failure of an import, unless it is about the root being no unit, is that of exactly
one attempt: the value attempted there fails with it on its own, and all that is attempted
in the value succeeds.  What the error says is true of that value. -/
theorem importUnit_to_blame {document : Json} {cause : ImportError}
    (failed : importUnit settings document = .error cause)
    (early : ∀ found,
      cause ≠ .invariantViolation (rootContext document) (.notASourceUnit found)) :
    (∃! place, FailsAt settings document cause place) ∧
      ∀ (place : Nat) level value,
        (importEvents settings document)[place]? = some (.attempt level value) →
          FailsItself settings value cause → Explains document value cause := by
  have alone := result_eq_convertAlone lenient unbounded
  rcases journal_to_blame unbounded (journal_of_failed lenient unbounded failed early) with
    ⟨before, level, blamed, after, split, own, fails, succeeded, blame, stands, earlier⟩
  rw [alone] at fails
  have events : importEvents settings document =
      before ++ Event.attempt level blamed :: after := by
    rw [importEvents_of_lenient lenient, split]
  have itself : FailsItself settings blamed cause := by
    refine ⟨fails, fun inner value happened => ?_⟩
    rcases (attempted_alone_iff lenient unbounded level blamed value).1 ⟨inner, happened⟩ with
      ⟨outer, within⟩
    rw [own] at within
    rcases succeeded outer value within with ⟨node, converted⟩
    exact ⟨node, (alone outer value).symm.trans converted⟩
  refine ⟨⟨before.length, ⟨level, blamed, ?_, itself⟩, ?_⟩, ?_⟩
  · rw [events, List.getElem?_append_right (Nat.le_refl _), Nat.sub_self]
    rfl
  · rintro place ⟨outer, value, happened, failsItself⟩
    exact (eq_of_failsItself lenient unbounded events earlier fails succeeded happened
      failsItself).1
  · intro place outer value happened failsItself
    rw [(eq_of_failsItself lenient unbounded events earlier fails succeeded happened
      failsItself).2]
    exact .of_toBlame blame stands

end Blame

/-! ## A unit with a type that the language does not have -/

def misspelledUnit : Json :=
  .obj [("nodeType", .str "SourceUnit"), ("id", .int 1), ("src", .str "0:40"), ("nodes", .arr [
    .obj [("nodeType", .str "EnumValue"), ("id", .int 2), ("src", .str "0:20"), ("name", .str "A")],
    .obj [("nodeType", .str "ArrayTypeName"), ("id", .int 3), ("src", .str "20:40"),
      ("baseType", .obj [("nodeType", .str "ElementaryTypeName"), ("id", .int 4),
        ("src", .str "20:30"), ("name", .str "uint7")])]])]

def misspelledSettings : Settings := { source := "a.sol" }

/-- The type name two levels below the root is to blame, and the text is its own. -/
theorem importUnit_to_blame_misspelledUnit :
    importUnit misspelledSettings misspelledUnit =
        .error (.invalidToken "uint7" (.wrongClass .elementary .identifier)) ∧
      (∃! place, FailsAt misspelledSettings misspelledUnit
        (.invalidToken "uint7" (.wrongClass .elementary .identifier)) place) ∧
      ∃ value node, DocumentNode.ofJson? value = .ok node ∧ node.Owns "uint7" ∧
        Token.Rejects "uint7" (.wrongClass .elementary .identifier) := by
  have failed : importUnit misspelledSettings misspelledUnit =
      .error (.invalidToken "uint7" (.wrongClass .elementary .identifier)) := by
    decide +kernel
  rcases importUnit_to_blame rfl rfl failed (fun _ impossible => nomatch impossible) with
    ⟨one, explains⟩
  refine ⟨failed, one, ?_⟩
  rcases one with ⟨place, ⟨level, value, happened, itself⟩, _⟩
  rcases (explains place level value happened itself).invalidToken _ _ rfl with
    ⟨node, read, owned, refused⟩
  exact ⟨value, node, read, owned, refused⟩

end ContractTree
