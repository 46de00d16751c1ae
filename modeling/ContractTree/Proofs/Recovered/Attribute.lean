import ContractTree.Form.Attribute
import ContractTree.Proofs.Document.Readers
import ContractTree.Proofs.Token.Spelling
import ContractTree.Proofs.Tree.Grammar
import ContractTree.Proofs.Tree.Path
import ContractTree.Proofs.Writing.Says

namespace ContractTree

/-!
# Attributes are recovered

The word of an attribute is read as the attribute, the name of a path as the path,
and the text of a token as the token.
-/

theorem Visibility.read_text (visibility : Visibility) : read visibility.text = .ok visibility := by
  cases visibility <;> decide +kernel

theorem StorageLocation.read_text (location : StorageLocation) :
    read location.text = .ok location := by
  cases location <;> decide +kernel

theorem ContractKind.read_text (kind : ContractKind) : read kind.text = .ok kind := by
  cases kind <;> decide +kernel

theorem TypePath.read_name {path : List String} (valid : Valid path) :
    read (name path) = .ok path := by
  have complete : "" ∉ path := fun empty => (valid.2 "" empty).1 rfl
  rw [read, ofName_name valid, if_neg complete]

namespace Token

theorem resolve_of_scan {text : String} {token : Token} (scanned : scan text = .ok token) :
    resolve text = .ok token :=
  resolve_eq_ok_iff.2 scanned

theorem resolveIn_of_scan {expected : TokenClass} {text : String} {token : Token}
    (scanned : scan text = .ok token) (accepted : expected.accepts token = true) :
    resolveIn expected text = .ok token := by
  rw [resolveIn, resolve_of_scan scanned]
  exact if_pos accepted

/-- The text of a type is read as the type if its own token stands for it. -/
theorem resolveElementary_text {type : ElementaryType} (grammatical : type.Grammatical) :
    resolveElementary type.text = .ok type := by
  have resolved := resolve_of_scan (ElementaryType.scan_text grammatical.2)
  simp only [resolveElementary, resolved, bind, Except.bind, grammatical.1]
  rfl

end Token

namespace Form

variable {node : Node}

theorem yields_mutability (isConstant isPayable : Bool)
    (noState : "stateMutability" ∉ reserved ++ node.shape.keys)
    (constant : ("constant", some (.bool isConstant)) ∈ node.shape.scalars)
    (payable : ("payable", some (.bool isPayable)) ∈ node.shape.scalars) :
    mutability.Yields node.Says (isConstant, isPayable) := by
  apply Yields.read (.noText noState)
  apply Yields.read (.flag? (some isConstant) constant)
  apply Yields.read (.flag? (some isPayable) payable)
  rfl

theorem yields_visibility (visibility : Visibility)
    (word : ("visibility", some (.str visibility.text)) ∈ node.shape.scalars) :
    Form.visibility.Yields node.Says visibility := by
  apply Yields.read (.text? (some visibility.text) word)
  exact .lift visibility.read_text

theorem yields_storageLocation (location : StorageLocation)
    (word : ("storageLocation", some (.str location.text)) ∈ node.shape.scalars) :
    storageLocation.Yields node.Says location := by
  apply Yields.read (.text? (some location.text) word)
  exact .lift location.read_text

end Form
end ContractTree
