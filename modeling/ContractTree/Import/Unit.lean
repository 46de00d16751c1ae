import ContractTree.Form.Kind
import ContractTree.Import.Answer

namespace ContractTree

/-!
# Importing a document

Converting a value resolves its tag, checks that it is not nested too deeply, and
then carries out the plan of the form of its kind.  Only the plan converts further
values, each one level below.  If identifiers have to be distinct, the identifiers
of the nodes finished so far are kept, and a node whose own identifier is among
them is refused when it is finished.  An identifier that was not written counts
for nothing.

An import converts the root of a document and admits a source unit only.  The
first error that a conversion meets is the error of the import.
-/

/-- A conversion has the identifiers of the finished nodes, the last one first, and
may fail. -/
abbrev Conversion := StateT (List NodeId) (Except ImportError)

/-- Refuses a finished node if its identifier has been used before. -/
def Settings.finish (settings : Settings) (document : DocumentNode) : Conversion Unit := do
  match document.id? with
  | none => return
  | some id =>
    if settings.rejectDuplicateIds then
      if id ∈ (← get) then
        throw ((Defect.violation (.duplicateId id)).on document.context)
      set (id :: (← get))

/-- The node that a value converts to with `depth` nodes around it. -/
def convert (settings : Settings) (depth : Nat) (value : Json) : Conversion Node :=
  match _read : DocumentNode.ofJson? value with
  | .error cause => throw cause
  | .ok document =>
    match settings.maxDepth.filter (· ≤ depth) with
    | some limit => throw (.depthLimitExceeded limit)
    | none => do
      let node ← (document.kind.form.plan settings document).run fun child _smaller =>
        convert settings (depth + 1) child
      settings.finish document
      return node
termination_by value.height
decreasing_by
  rw [DocumentNode.ofJson?_eq_ok _read]
  exact _smaller

/-- What errors say about the root of a document. -/
def rootContext (document : Json) : NodeContext :=
  match DocumentNode.ofJson? document with
  | .ok node => node.context
  | .error _ => .unknown

/-- The tree of a document. -/
def importUnit (settings : Settings) (document : Json) : Except ImportError Node := do
  let (root, _) ← convert settings 0 document []
  if root.kind = .sourceUnit then return root
  else throw ((Defect.violation (.notASourceUnit root.kind)).on (rootContext document))

end ContractTree
