import ContractTree.Proofs.Conversion.Attempts
import ContractTree.Proofs.Conversion.Bounded
import ContractTree.Proofs.Import.Unit
import ContractTree.Tree.Equality

namespace ContractTree

/-!
# The bound on the depth of an import

An import with a bound has the result of the import without one, unless the latter
attempts a document node that is nested too deeply; then it fails for this reason.  So
a higher bound never changes what has been imported within a lower one.

What is nested is counted in document nodes.  A tree that was imported within a bound
has no more levels than the bound says, except that identifiers made for bare names,
which are no document nodes, may stand one level below.
-/

section Bound

variable (settings : Settings) (document : Json) (limit : Nat)

theorem levelled_importEvents : Event.Levelled 0 (importEvents settings document) :=
  (journal_orderly settings 0 document).levelled.of_prefix (settings.performed_prefix [] _)

theorem importUnit_eq_replayWithin :
    importUnit (settings.limited (some limit)) document =
      (settings.limited none).replayWithin limit []
          (journal (settings.limited none) 0 document).events >>= fun _ =>
        (journal (settings.limited none) 0 document).result >>= requireUnit document :=
  importUnit_of_carryBy (convert_eq_carryBy (settings.limited none) limit 0 document)

/-- An import within its bound is the import without a bound. -/
theorem importUnit_of_shallow
    (shallow : ¬ Event.OverDeep limit (importEvents (settings.limited none) document)) :
    importUnit (settings.limited (some limit)) document =
      importUnit (settings.limited none) document := by
  rw [Event.overDeep_iff (levelled_importEvents _ document)] at shallow
  rw [importUnit_eq_replayWithin, importUnit_eq_replay,
    Settings.replayWithin_of_shallow _ _ shallow]

/-- An import that would go too deep fails for this reason only. -/
theorem importUnit_of_overDeep
    (deep : Event.OverDeep limit (importEvents (settings.limited none) document)) :
    importUnit (settings.limited (some limit)) document = .error (.depthLimitExceeded limit) := by
  rw [Event.overDeep_iff (levelled_importEvents _ document)] at deep
  rw [importUnit_eq_replayWithin, Settings.replayWithin_of_deep _ _ deep]
  rfl

end Bound

/-- What is too deep for a bound is too deep for a lower one. -/
theorem Event.OverDeep.of_le {limit higher : Nat} {events : List Event}
    (deep : OverDeep higher events) (le : limit ≤ higher) : OverDeep limit events := by
  rcases deep with ⟨before, depth, value, document, after, split, read, many⟩
  exact ⟨before, depth, value, document, after, split, read, Nat.le_trans le many⟩

/-- A subtree that has been converted leaves nothing unfinished. -/
theorem unfinished_append_journal {settings : Settings} {depth : Nat} {value : Json} {node : Node}
    (finished : (journal settings depth value).result = .ok node) (before after : List Event) :
    Event.unfinished (before ++ (journal settings depth value).events ++ after) =
      Event.unfinished (before ++ after) := by
  have balanced : (journal settings depth value).events.countP Event.isCompletion =
      (journal settings depth value).events.countP Event.isAttempt :=
    (journal_orderly settings depth value).balanced node finished
  simp only [Event.unfinished, List.countP_append, balanced]
  omega

/-- A conversion that ends with a node was not made too deep. -/
theorem depth_lt_of_journal {settings : Settings} {limit depth : Nat} {value : Json} {node : Node}
    (finished : (journal (settings.limited (some limit)) depth value).result = .ok node) :
    depth < limit := by
  rcases fill_of_journal finished with ⟨_, _, shallow, _⟩
  have within : ∀ bound, some limit = some bound → ¬ decide (bound ≤ depth) = true :=
    Option.filter_eq_none_iff.1 shallow
  exact Nat.not_le.1 fun deep => within limit rfl (decide_eq_true deep)

/-- The levels of a tree that was imported within a bound. -/
theorem level_of_importUnit {settings : Settings} {limit level : Nat} {document : Json}
    {unit node : Node}
    (imported : importUnit (settings.limited (some limit)) document = .ok unit)
    (below : unit.Below level node) :
    level < limit ∨ (level = limit ∧ StandsForName (settings.limited (some limit))
      (importEvents (settings.limited (some limit)) document) level node) := by
  have finished := (journal_of_importUnit imported).1
  rw [importEvents_of_ok imported]
  rw [← Nat.zero_add level]
  rcases journal_source finished below with ⟨inner, _, made⟩ | named
  · exact .inl (depth_lt_of_journal made)
  · have stands := named
    rcases named with ⟨above, value, held, owner, name, same, _, _, _, made, _⟩
    have within : above < limit := depth_lt_of_journal made
    rcases Nat.lt_or_eq_of_le (Nat.succ_le_of_lt within) with less | equal
    · exact .inl (same ▸ less)
    · exact .inr ⟨same.trans equal, stands⟩

/-- A bound on the depth only cuts, and cuts where `limit` document nodes are unfinished
around another.  If the import without a bound makes no attempt there, the import with
the bound has the same result; if it makes one, the bound is exceeded.  A result within
a bound is the result within every higher one.  Subtrees that have been converted do not
count.  The tree has at most `limit` levels, or one more of identifiers that stand for
bare names. -/
theorem importUnit_limited (settings : Settings) (document : Json) (limit : Nat) :
    let unbounded := importUnit (settings.limited none) document
    let bounded := importUnit (settings.limited (some limit)) document
    let events := importEvents (settings.limited none) document
    (¬ Event.OverDeep limit events → bounded = unbounded) ∧
    (Event.OverDeep limit events → bounded = .error (.depthLimitExceeded limit)) ∧
    (∀ higher, limit ≤ higher → bounded ≠ .error (.depthLimitExceeded limit) →
      importUnit (settings.limited (some higher)) document = bounded) ∧
    (∀ depth value node before after,
      (journal (settings.limited none) depth value).result = .ok node →
        Event.unfinished (before ++ (journal (settings.limited none) depth value).events ++ after) =
          Event.unfinished (before ++ after)) ∧
    ∀ unit, bounded = .ok unit → ∀ level node, unit.Below level node →
      level < limit ∨ (level = limit ∧ StandsForName (settings.limited (some limit))
        (importEvents (settings.limited (some limit)) document) level node) := by
  dsimp only
  refine ⟨importUnit_of_shallow settings document limit,
    importUnit_of_overDeep settings document limit, ?_, ?_, ?_⟩
  · intro higher le kept
    have shallow : ¬ Event.OverDeep limit (importEvents (settings.limited none) document) :=
      fun deep => kept (importUnit_of_overDeep settings document limit deep)
    have shallower : ¬ Event.OverDeep higher (importEvents (settings.limited none) document) :=
      fun deep => shallow (deep.of_le le)
    rw [importUnit_of_shallow settings document limit shallow,
      importUnit_of_shallow settings document higher shallower]
  · intro depth value node before after finished
    exact unfinished_append_journal finished before after
  · intro unit imported level node below
    exact level_of_importUnit imported below

/-! ## A unit with a bare name at its last level -/

def aliasUnit : Json :=
  .obj [("nodeType", .str "SourceUnit"), ("id", .int 1), ("src", .str "0:40"), ("nodes", .arr [
    .obj [("nodeType", .str "ImportDirective"), ("id", .int 2), ("src", .str "0:20"),
      ("file", .str "b.sol"), ("symbolAliases", .arr [.obj [("foreign", .str "B")]])]])]

def aliasSettings : Settings := { source := "a.sol" }

def aliasIdentifier : Node := Node.bareIdentifier 2 ⟨"a.sol", ⟨0, 20⟩⟩ "B"

def aliasDirective : Node :=
  ⟨2, ⟨"a.sol", ⟨0, 20⟩⟩, .declaration (.importDirective "b.sol" "" [⟨aliasIdentifier, none⟩])⟩

def aliasUnitTree : Node :=
  ⟨1, ⟨"a.sol", ⟨0, 40⟩⟩, .declaration (.sourceUnit none [aliasDirective])⟩

/-- Two levels of document nodes keep within a bound of two, although the tree has a
third level, and exceed a bound of one. -/
theorem importUnit_limited_aliasUnit :
    importUnit (aliasSettings.limited (some 2)) aliasUnit = .ok aliasUnitTree ∧
      StandsForName (aliasSettings.limited (some 2))
        (importEvents (aliasSettings.limited (some 2)) aliasUnit) 2 aliasIdentifier ∧
      importUnit (aliasSettings.limited (some 1)) aliasUnit =
        .error (.depthLimitExceeded 1) := by
  have unbounded : importUnit (aliasSettings.limited none) aliasUnit = .ok aliasUnitTree := by
    decide +kernel
  have shallow : ¬ Event.OverDeep 2 (importEvents (aliasSettings.limited none) aliasUnit) := by
    rw [Event.overDeep_iff (levelled_importEvents _ _)]
    decide +kernel
  have deep : Event.OverDeep 1 (importEvents (aliasSettings.limited none) aliasUnit) := by
    rw [Event.overDeep_iff (levelled_importEvents _ _)]
    decide +kernel
  have within := importUnit_limited aliasSettings aliasUnit 2
  have exceeded := importUnit_limited aliasSettings aliasUnit 1
  have imported := (within.1 shallow).trans unbounded
  have below : aliasUnitTree.Below 2 aliasIdentifier :=
    .child (.child .root (List.mem_singleton_self aliasDirective))
      (List.mem_singleton_self aliasIdentifier)
  refine ⟨imported, ?_, exceeded.2.1 deep⟩
  rcases within.2.2.2.2 aliasUnitTree imported 2 aliasIdentifier below with above | ⟨_, named⟩
  · exact absurd above (Nat.lt_irrefl 2)
  · exact named

end ContractTree
