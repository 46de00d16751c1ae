import ContractTree.Document.Node

namespace ContractTree

/-!
# Import options

The options of an import, and the settings of one import: its options together
with the name of the source that every location is attributed to.
-/

structure ImportOptions where
  layout : FieldLayout := .auto
  /-- How many nodes may be nested, the root included; unlimited if missing. -/
  maxDepth : Option Nat := none
  /-- Whether two nodes of a document may not have the same identifier. -/
  rejectDuplicateIds : Bool := false
  /-- The end of a source unit that has no source range; zero if missing. -/
  rootLength : Option UInt32 := none
  deriving DecidableEq, Repr, Inhabited

/-- The default options, but identifiers must be distinct. -/
def ImportOptions.strict : ImportOptions := { rejectDuplicateIds := true }

structure Settings extends ImportOptions where
  source : SourceName
  deriving DecidableEq, Repr, Inhabited

/-- The location of a source unit that has no source range. -/
def Settings.wholeSource (settings : Settings) : SourceLocation :=
  ⟨settings.source, ⟨0, settings.rootLength.getD 0⟩⟩

end ContractTree
