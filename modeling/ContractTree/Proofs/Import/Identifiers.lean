import ContractTree.Proofs.Conversion.Account
import ContractTree.Proofs.Import.Listing
import Mathlib.Data.List.Induction
import Mathlib.Data.List.Nodup
import Mathlib.Data.List.Perm.Basic

namespace ContractTree

/-!
# Refusing identifiers that occur twice

A completed document node claims the identifier that was written for it.  Whether
claims are checked changes nothing in the journal of a document.  So an import that
refuses identifiers that occur twice is an import that does not, followed by a scan
of the claims in the order of completion: it fails at the first claim that repeats
an earlier one, and goes on as if nothing had been checked if there is none.
-/

/-- The settings with identifiers checked, or not. -/
def Settings.rejecting (settings : Settings) (reject : Bool) : Settings :=
  { settings with rejectDuplicateIds := reject }

theorem Settings.rejecting_self (settings : Settings) {reject : Bool}
    (same : settings.rejectDuplicateIds = reject) : settings.rejecting reject = settings := by
  rw [rejecting, ← same]

/-- The kind and the identifier of a completed node, if an identifier was written. -/
def Event.claim? (event : Event) : Option (NodeKind × NodeId) :=
  event.completed?.bind fun document => document.id?.map fun id => (document.kind, id)

/-- The claims of a conversion in the order of completion, up to its end or its first
error. -/
def Journal.claims {α : Type} (journal : Journal α) : List (NodeKind × NodeId) :=
  journal.events.filterMap Event.claim?

/-- The error of a claim that repeats an earlier one. -/
def repeated (kind : NodeKind) (id : NodeId) : ImportError :=
  .invariantViolation ⟨some kind, some id⟩ (.duplicateId id)

/-! ## Checking changes no journal -/

section Journal

variable (settings : Settings) (reject : Bool)

theorem journal_rejecting (depth : Nat) (value : Json) :
    journal (settings.rejecting reject) depth value = journal settings depth value := by
  cases read : DocumentNode.ofJson? value with
  | error cause => rw [journal_of_error read, journal_of_error read]
  | ok document =>
    cases deep : settings.maxDepth.filter (· ≤ depth) with
    | some limit =>
      rw [journal_of_limit read deep]
      exact journal_of_limit read deep
    | none =>
      have children : (fun (child : Json) (_ : child.height < document.height) =>
          journal (settings.rejecting reject) (depth + 1) child) = fun child _ =>
            journal settings (depth + 1) child :=
        funext fun child => funext fun smaller => journal_rejecting (depth + 1) child
      have shallow : (settings.rejecting reject).maxDepth.filter (· ≤ depth) = none := deep
      rw [journal_of_ok read deep, journal_of_ok read shallow,
        Form.plan_congr settings (settings.rejecting reject) rfl rfl rfl, children]
termination_by value.height
decreasing_by
  rw [DocumentNode.ofJson?_eq_ok read]
  exact smaller

end Journal

/-! ## Scanning claims -/

/-- The identifiers seen after some claims, unless one repeats an earlier one. -/
def scanClaims : List NodeId → List (NodeKind × NodeId) → Except ImportError (List NodeId)
  | seen, [] => .ok seen
  | seen, (kind, id) :: rest =>
    if id ∈ seen then .error (repeated kind id) else scanClaims (id :: seen) rest

theorem scanClaims_append (seen : List NodeId) (first second : List (NodeKind × NodeId)) :
    scanClaims seen (first ++ second) =
      scanClaims seen first >>= fun after => scanClaims after second := by
  induction first generalizing seen with
  | nil => rfl
  | cons claim rest ih =>
    rcases claim with ⟨kind, id⟩
    rw [List.cons_append, scanClaims, scanClaims]
    split
    · rfl
    · exact ih (id :: seen)

/-- Claims of distinct identifiers that have not been seen all pass. -/
theorem scanClaims_of_nodup {seen : List NodeId} {claims : List (NodeKind × NodeId)}
    (distinct : (claims.map Prod.snd).Nodup) (fresh : ∀ id ∈ claims.map Prod.snd, id ∉ seen) :
    scanClaims seen claims = .ok ((claims.map Prod.snd).reverse ++ seen) := by
  induction claims generalizing seen with
  | nil => rfl
  | cons claim rest ih =>
    rcases claim with ⟨kind, id⟩
    rw [List.map_cons, List.nodup_cons] at distinct
    have unseen : id ∉ seen := fresh id (List.mem_cons_self ..)
    rw [scanClaims, if_neg unseen, ih distinct.2]
    · rw [List.map_cons, List.reverse_cons, List.append_assoc, List.singleton_append]
    · intro other member
      have notSeen := fresh other (List.mem_cons_of_mem _ member)
      rintro (_ | _)
      · exact distinct.1 member
      · exact notSeen (by assumption)

/-- The first claim that repeats an earlier one is refused. -/
theorem scanClaims_of_repeated {before after : List (NodeKind × NodeId)} {kind : NodeKind}
    {id : NodeId} (distinct : (before.map Prod.snd).Nodup) (again : id ∈ before.map Prod.snd) :
    scanClaims [] (before ++ (kind, id) :: after) = .error (repeated kind id) := by
  rw [scanClaims_append, scanClaims_of_nodup distinct fun _ _ => List.not_mem_nil]
  change scanClaims _ _ = _
  rw [scanClaims, if_pos]
  rw [List.append_nil]
  exact List.mem_reverse.2 again

/-- Where identifiers repeat there is a first repetition. -/
theorem exists_first_repeated {claims : List (NodeKind × NodeId)}
    (repeats : ¬ (claims.map Prod.snd).Nodup) :
    ∃ before kind id after, claims = before ++ (kind, id) :: after ∧
      (before.map Prod.snd).Nodup ∧ id ∈ before.map Prod.snd := by
  induction claims using List.reverseRecOn with
  | nil => exact absurd List.nodup_nil repeats
  | append_singleton rest claim ih =>
    rcases claim with ⟨kind, id⟩
    by_cases distinct : (rest.map Prod.snd).Nodup
    · refine ⟨rest, kind, id, [], rfl, distinct, ?_⟩
      by_contra fresh
      apply repeats
      rw [List.map_append]
      exact List.Nodup.append distinct (List.nodup_singleton id)
        (List.disjoint_singleton.2 fresh)
    · rcases ih distinct with ⟨before, kind', id', after, rfl, first, again⟩
      refine ⟨before, kind', id', after ++ [(kind, id)], ?_, first, again⟩
      rw [List.append_assoc, List.cons_append]

/-- Replaying with identifiers unchecked sees none. -/
theorem Settings.replay_lenient (settings : Settings) (seen : List NodeId) (events : List Event) :
    (settings.rejecting false).replay seen events = .ok seen := by
  induction events generalizing seen with
  | nil => rfl
  | cons event rest ih =>
    cases event with
    | attempt depth value => exact ih seen
    | completion document =>
      rw [replay, finish]
      cases document.id? with
      | none => exact ih seen
      | some id => exact ih seen

theorem Settings.finish_strict (settings : Settings) {document : DocumentNode} {id : NodeId}
    (written : document.id? = some id) (seen : List NodeId) :
    (settings.rejecting true).finish document seen =
      if id ∈ seen then .error (repeated document.kind id) else .ok ((), id :: seen) := by
  have context : document.context = ⟨some document.kind, some id⟩ := by
    rw [DocumentNode.context, written]
  unfold finish
  rw [written, context]
  by_cases again : id ∈ seen
  · rw [if_pos again]
    exact (congrFun (if_pos again) seen :)
  · rw [if_neg again]
    exact (congrFun (if_neg again) seen :)

/-- Replaying with identifiers checked is a scan of the claims. -/
theorem Settings.replay_strict (settings : Settings) (seen : List NodeId) (events : List Event) :
    (settings.rejecting true).replay seen events =
      scanClaims seen (events.filterMap Event.claim?) := by
  induction events generalizing seen with
  | nil => rfl
  | cons event rest ih =>
    cases event with
    | attempt depth value => exact ih seen
    | completion document =>
      have claim : (Event.completion document).claim? =
          document.id?.map fun id => (document.kind, id) := rfl
      rw [replay, List.filterMap_cons, claim]
      cases written : document.id? with
      | none =>
        rw [finish, written]
        exact ih seen
      | some id =>
        rw [settings.finish_strict written, Option.map_some, scanClaims]
        by_cases again : id ∈ seen
        · rw [if_pos again, if_pos again]
        · rw [if_neg again, if_neg again]
          exact ih (id :: seen)

/-- Nothing but the claims matters to a replay. -/
theorem Settings.replay_eq_scanClaims (settings : Settings) (seen : List NodeId)
    (events : List Event) :
    settings.replay seen events =
      if settings.rejectDuplicateIds then scanClaims seen (events.filterMap Event.claim?)
      else .ok seen := by
  cases reject : settings.rejectDuplicateIds with
  | false =>
    have lenient := settings.replay_lenient seen events
    rwa [settings.rejecting_self reject] at lenient
  | true =>
    have strict := settings.replay_strict seen events
    rwa [settings.rejecting_self reject] at strict

/-! ## The claims of a listed document -/

/-- The written identifier of a listed document node is that of its node. -/
theorem Account.claim?_eq {settings : Settings} {depth : Nat} {value : Json}
    {document : DocumentNode} {node : Node}
    (account : Account settings depth value document node) :
    ([Event.completion document].filterMap Event.claim?).map Prod.snd =
      ([(⟨node.summary, document.origin, true⟩ : Entry)].filter Entry.isWritten).map
        fun entry => entry.summary.id := by
  have claim : (Event.completion document).claim? =
      document.id?.map fun id => (document.kind, id) := rfl
  cases written : document.id? with
  | none =>
    have origin : document.origin = .defaulted := by rw [DocumentNode.origin, written]; rfl
    rw [origin, List.filterMap_cons, claim, written]
    rfl
  | some id =>
    have origin : document.origin = .written := by rw [DocumentNode.origin, written]; rfl
    have same : node.id = id := by
      have listed := account.id_eq
      unfold DocumentNode.nodeId? at listed
      rw [written] at listed
      split at listed
      · exact (Option.some.inj listed).symm
      · exact (Option.some.inj listed).symm
    rw [origin, List.filterMap_cons, claim, written, ← same]
    rfl

/-- The identifiers that are claimed are those of the written entries, in another
order. -/
theorem journal_claims_perm {settings : Settings} {depth : Nat} {value : Json} {node : Node}
    (finished : (journal settings depth value).result = .ok node) :
    List.Perm ((journal settings depth value).claims.map Prod.snd)
      (((entries settings value).filter Entry.isWritten).map fun entry => entry.summary.id) := by
  rcases journal_account finished with ⟨document, account⟩
  have places : List.Perm
      ((((document.places settings.layout).flatMap
        (Place.events settings (depth + 1))).filterMap Event.claim?).map Prod.snd)
      ((((document.places settings.layout).flatMap
        (Place.entries settings node.summary)).filter Entry.isWritten).map
          fun entry => entry.summary.id) := by
    rw [List.filterMap_flatMap, List.map_flatMap, List.filter_flatMap, List.map_flatMap]
    refine List.Perm.flatMap_left _ fun place listed => ?_
    cases place with
    | node inner =>
      have smaller := DocumentNode.height_lt_of_mem_places listed rfl
      rcases account.converts _ listed inner rfl with ⟨child, converted⟩
      exact journal_claims_perm converted
    | typeOnly inner =>
      have smaller := DocumentNode.height_lt_of_mem_places listed rfl
      rcases account.converts _ listed inner rfl with ⟨child, converted⟩
      refine (journal_claims_perm converted).trans ?_
      rw [Place.entries, List.filter_map, List.map_map]
      rfl
    | bareName name => exact List.Perm.refl _
  rw [account.entries_eq, ← List.singleton_append, List.filter_append, List.map_append,
    ← account.claim?_eq, Journal.claims, account.events_eq, List.filterMap_cons_none rfl,
    List.filterMap_append, List.map_append]
  exact (places.append_right _).trans List.perm_append_comm
termination_by value.height
decreasing_by
  all_goals
    rw [DocumentNode.ofJson?_eq_ok account.read]
    exact smaller

/-! ## Strict and lenient imports -/

/-- If no identifier is claimed twice, a strict import is a lenient one. -/
theorem importUnit_strict_of_nodup {settings : Settings} {document : Json}
    (distinct : ((journal settings 0 document).claims.map Prod.snd).Nodup) :
    importUnit (settings.rejecting true) document =
      importUnit (settings.rejecting false) document := by
  rw [importUnit_eq_replay, importUnit_eq_replay, journal_rejecting, journal_rejecting,
    Settings.replay_lenient, Settings.replay_strict]
  change scanClaims [] (journal settings 0 document).claims >>= _ = _
  rw [scanClaims_of_nodup distinct fun _ _ => List.not_mem_nil]
  rfl

/-- Otherwise it fails at the first claim that repeats an earlier one. -/
theorem importUnit_strict_of_repeated {settings : Settings} {document : Json}
    {before after : List (NodeKind × NodeId)} {kind : NodeKind} {id : NodeId}
    (claims : (journal settings 0 document).claims = before ++ (kind, id) :: after)
    (distinct : (before.map Prod.snd).Nodup) (again : id ∈ before.map Prod.snd) :
    importUnit (settings.rejecting true) document = .error (repeated kind id) := by
  rw [importUnit_eq_replay, journal_rejecting, Settings.replay_strict]
  change scanClaims [] (journal settings 0 document).claims >>= _ = _
  rw [claims, scanClaims_of_repeated distinct again]
  rfl

/-- Checking identifiers is a scan of the claims of a lenient import.  Without a
repetition both imports have one result.  Otherwise the strict one fails at the first
claim that repeats an earlier one, on the node that made it.  If the strict one returns
a tree, the lenient one returns the same, and the identifiers that were written for the
nodes of the document are distinct. -/
theorem importUnit_rejecting (settings : Settings) (document : Json) :
    let strict := importUnit (settings.rejecting true) document
    let lenient := importUnit (settings.rejecting false) document
    let claims := (journal (settings.rejecting false) 0 document).claims
    ((claims.map Prod.snd).Nodup → strict = lenient) ∧
    (¬ (claims.map Prod.snd).Nodup → ∃ before kind id after,
      claims = before ++ (kind, id) :: after ∧ (before.map Prod.snd).Nodup ∧
        id ∈ before.map Prod.snd ∧ strict = .error (repeated kind id)) ∧
    ∀ unit, strict = .ok unit → lenient = .ok unit ∧
      unit.preorder = ((entries settings document).filter Entry.isKept).map Entry.summary ∧
      (((entries settings document).filter Entry.isWritten).map
        fun entry => entry.summary.id).Nodup := by
  dsimp only
  rw [journal_rejecting]
  refine ⟨importUnit_strict_of_nodup, ?_, ?_⟩
  · intro repeats
    rcases exists_first_repeated repeats with ⟨before, kind, id, after, claims, distinct, again⟩
    exact ⟨before, kind, id, after, claims, distinct, again,
      importUnit_strict_of_repeated claims distinct again⟩
  · intro unit imported
    have distinct : ((journal settings 0 document).claims.map Prod.snd).Nodup := by
      by_contra repeats
      rcases exists_first_repeated repeats with ⟨before, kind, id, after, claims, first, again⟩
      rw [importUnit_strict_of_repeated claims first again] at imported
      cases imported
    have finished := (journal_of_importUnit imported).1
    rw [journal_rejecting] at finished
    refine ⟨(importUnit_strict_of_nodup distinct).symm.trans imported,
      journal_preorder finished, ?_⟩
    exact (journal_claims_perm finished).nodup_iff.1 distinct

/-! ## A unit with an identifier that occurs twice -/

def repeatingUnit : Json :=
  .obj [("nodeType", .str "SourceUnit"), ("id", .int 1), ("src", .str "0:40"), ("nodes", .arr [
    .obj [("nodeType", .str "EnumValue"), ("id", .int 2), ("src", .str "0:20"), ("name", .str "A")],
    .obj [("nodeType", .str "EnumValue"), ("id", .int 2), ("src", .str "20:40"),
      ("name", .str "B")]])]

/-- The second of the two nodes is refused, and only if identifiers are checked. -/
theorem importUnit_repeatingUnit :
    (importUnit { source := "a.sol", rejectDuplicateIds := false } repeatingUnit).isOk = true ∧
      importUnit { source := "a.sol", rejectDuplicateIds := true } repeatingUnit =
        .error (repeated .enumValue 2) := by
  refine ⟨by decide +kernel, ?_⟩
  have claims : (journal { source := "a.sol" } 0 repeatingUnit).claims =
      [(.enumValue, 2), (.enumValue, 2), (.sourceUnit, 1)] := by
    decide +kernel
  have scan := importUnit_rejecting { source := "a.sol" } repeatingUnit
  rcases scan.2.1 (by rw [journal_rejecting, claims]; decide) with
    ⟨before, kind, id, after, found, distinct, again, refused⟩
  rw [journal_rejecting, claims] at found
  match before with
  | [] => exact absurd again List.not_mem_nil
  | [first] =>
    cases found
    exact refused
  | first :: second :: rest =>
    rw [List.cons_append, List.cons_append, List.cons.injEq, List.cons.injEq] at found
    rw [← found.1, ← found.2.1] at distinct
    exact absurd (List.mem_cons_self ..) (List.nodup_cons.1 distinct).1

end ContractTree
