import ContractTree.Proofs.Import.Identifiers
import ContractTree.Proofs.Recovered.Kind
import ContractTree.Proofs.Writing.Places

namespace ContractTree

/-!
# Importing what has been written

Reading undoes writing.  A grammatical tree that is written in a style is imported
from its document, in every layout that the style can be read in.  The one-step
fact is that a form recovers a node from what the node says, and that the document
of the node says just this; the tree follows by induction.
-/

/-- No node of a tree stands deeper than the settings allow. -/
def Settings.Admits (settings : Settings) (depth : Nat) (node : Node) : Prop :=
  ∀ limit, settings.maxDepth = some limit → ∀ entry ∈ node.listing depth, entry.1 < limit

section Step

variable {settings : Settings} {depth : Nat} {node : Node}

theorem Settings.Admits.filter_eq_none (admits : settings.Admits depth node) :
    settings.maxDepth.filter (· ≤ depth) = none := by
  rw [Option.filter_eq_none_iff]
  intro limit given deep
  have first : (depth, node.summary) ∈ node.listing depth := by
    rw [node.listing_eq]
    exact List.mem_cons_self ..
  have above := admits limit given (depth, node.summary) first
  exact absurd (of_decide_eq_true deep) (Nat.not_le.2 above)

theorem Settings.Admits.child (admits : settings.Admits depth node) {child : Node}
    (member : child ∈ node.children) : settings.Admits (depth + 1) child := by
  intro limit given entry listed
  apply admits limit given entry
  rw [node.listing_eq]
  exact List.mem_cons_of_mem _ (List.mem_flatMap.2 ⟨child, member, listed⟩)

/-- A node converts to itself if its children do. -/
theorem Field.Ready.converts_self {style : Style}
    (ready : Field.Ready settings (depth + 1) style node) (reads : style.ReadBy settings.layout)
    (shallow : settings.maxDepth.filter (· ≤ depth) = none) :
    style.Converts settings depth node := by
  have filled : (node.kind.form.fill (style.documentOf node)
      (Field.answer settings (depth + 1) (style.documentOf node))).result = .ok node :=
    (Node.recovers_form ready.grammatical).fill fun field answer said => said.settled reads ready
  rw [← style.kind_documentOf node] at filled
  rw [Style.Converts, journal_eq_fill (style.ofJson?_write node) shallow]
  refine Journal.result_bind_eq_ok.2 ⟨(), rfl, ?_⟩
  exact Journal.result_bind_eq_ok.2 ⟨node, filled, rfl⟩

/-- A grammatical tree converts to itself. -/
theorem Style.converts {style : Style} (reads : style.ReadBy settings.layout)
    (grammatical : node.Everywhere (Node.Grammatical settings.source))
    (admits : settings.Admits depth node) : style.Converts settings depth node := by
  induction node using Node.induction generalizing depth with
  | step node ih =>
    have ready : Field.Ready settings (depth + 1) style node :=
      ⟨grammatical.here, fun child member =>
        ih child member (grammatical.children child member) (admits.child member)⟩
    exact ready.converts_self reads admits.filter_eq_none

end Step

/-- The identifiers that the conversion of a written tree claims are those of its nodes,
in another order. -/
theorem journal_claims_write {settings : Settings} {depth : Nat} {style : Style} {node : Node}
    (reads : style.ReadBy settings.layout)
    (grammatical : node.Everywhere (Node.Grammatical settings.source))
    (converts : style.Converts settings depth node) :
    List.Perm ((journal settings depth (style.write node)).claims.map Prod.snd)
      (node.preorder.map NodeSummary.id) := by
  have claims := journal_claims_perm converts
  have written : (node.preorder.map fun summary => (⟨summary, .written, true⟩ : Entry)).filter
      Entry.isWritten = node.preorder.map fun summary => ⟨summary, .written, true⟩ := by
    refine List.filter_eq_self.2 fun entry member => ?_
    rcases List.mem_map.1 member with ⟨summary, _, rfl⟩
    rfl
  rw [style.entries_write reads grammatical, written, List.map_map] at claims
  exact claims

/-- A grammatical unit is imported from the document that it is written as, in any
style and in every layout that finds what has been written, unless it is too deep or the
identifiers of its nodes have to be distinct and are not. -/
theorem importUnit_write {settings : Settings} {style : Style} {unit : Node}
    (reads : style.ReadBy settings.layout) (isUnit : unit.kind = .sourceUnit)
    (grammatical : unit.Everywhere (Node.Grammatical settings.source))
    (admits : settings.Admits 0 unit)
    (distinct : settings.rejectDuplicateIds = true →
      (unit.preorder.map NodeSummary.id).Nodup) :
    importUnit settings (style.write unit) = .ok unit := by
  have converts : style.Converts settings 0 unit := style.converts reads grammatical admits
  have lenient : importUnit (settings.rejecting false) (style.write unit) = .ok unit := by
    rw [importUnit_eq_replay, journal_rejecting, Settings.replay_lenient, converts]
    exact if_pos isUnit
  cases reject : settings.rejectDuplicateIds with
  | false =>
    rw [settings.rejecting_self reject] at lenient
    exact lenient
  | true =>
    have claims := (journal_claims_write reads grammatical converts).nodup_iff.2 (distinct reject)
    have strict := (importUnit_strict_of_nodup claims).trans lenient
    rw [settings.rejecting_self reject] at strict
    exact strict

/-! ## A unit whose tags are names

The scalars are written as attributes, and the first of two declared variables is a gap.
-/

def gappedType : Node := ⟨4, ⟨"a.sol", ⟨2, 7⟩⟩, .typeName (.elementary (.sizedUint 8))⟩

def gappedVariable : Node :=
  ⟨3, ⟨"a.sol", ⟨2, 9⟩⟩, .declaration (.variableDeclaration {
    typeName := some gappedType
    name := "x"
    value := none
    visibility := .internal
    isStateVariable := false
    isIndexed := false
    isConstant := false
    storageLocation := .unspecified })⟩

def gappedStatement : Node :=
  ⟨2, ⟨"a.sol", ⟨0, 20⟩⟩, .statement (.declareVariables [none, some gappedVariable] none)⟩

def gappedUnit : Node :=
  ⟨1, ⟨"a.sol", ⟨0, 40⟩⟩, .declaration (.sourceUnit none [gappedStatement])⟩

def gappedSettings : Settings :=
  { maxDepth := some 4, rejectDuplicateIds := true, source := "a.sol" }

theorem grammatical_gappedUnit : gappedUnit.Everywhere (Node.Grammatical "a.sol") := by
  have type : gappedType.Everywhere (Node.Grammatical "a.sol") := by
    refine .intro ⟨⟨rfl, by decide⟩, ⟨rfl, by decide⟩, by decide⟩ ?_
    intro child member
    cases member
  have declared : gappedVariable.Everywhere (Node.Grammatical "a.sol") := by
    refine .intro ⟨⟨rfl, by decide⟩, trivial, by decide⟩ ?_
    intro child member
    cases List.mem_singleton.1 member
    exact type
  have statement : gappedStatement.Everywhere (Node.Grammatical "a.sol") := by
    refine .intro ⟨⟨rfl, by decide⟩, trivial, by decide⟩ ?_
    intro child member
    cases List.mem_singleton.1 member
    exact declared
  refine .intro ⟨⟨rfl, by decide⟩, trivial, by decide⟩ ?_
  intro child member
  cases List.mem_singleton.1 member
  exact statement

theorem importUnit_write_gappedUnit :
    importUnit gappedSettings ((Style.split .name).write gappedUnit) = .ok gappedUnit := by
  have admits : gappedSettings.Admits 0 gappedUnit := by
    rintro limit ⟨⟩
    decide +kernel
  exact importUnit_write (by decide) rfl grammatical_gappedUnit admits fun _ => by decide +kernel

end ContractTree
