import ContractTree.Import.Unit

namespace ContractTree

/-!
# Importing several sources

The documents of several sources are imported independently, in the order of their
names.  A batch has a tree for each source, or the error of the first source that
fails.
-/

/-- Documents by the names of their sources. -/
abbrev Sources := List (SourceName × Json)

/-- The sources in the order of their names. -/
def Sources.sorted (sources : Sources) : Sources :=
  sources.mergeSort fun first second => decide (first.1 ≤ second.1)

/-- The tree of each source with its name, in the order of the names. -/
def importSources (options : ImportOptions) (sources : Sources) :
    Except ImportError (List (SourceName × Node)) :=
  sources.sorted.mapM fun (name, document) => do
    return (name, ← importUnit { options with source := name } document)

end ContractTree
