import ContractTree.Proofs.Form.Parallel
import ContractTree.Proofs.Tree.Relocated

namespace ContractTree

/-!
# Forms whose answers are relocated

A form does not look at the locations that it is answered.  It asks the same questions
if all locations in its answers are changed, and its node is the same but for its
locations, which are changed alike.
-/

/-- An answer with all locations in it changed. -/
def Field.relocate (change : SourceLocation → SourceLocation) :
    (field : Field) → field.Answer → field.Answer
  | location, answer => change answer
  | locationOrWhole, answer => change answer
  | references, answer => answer.map (ExternalReference.relocate change)
  | child _ _, answer => answer.relocate change
  | child? _ _, answer => answer.map (Node.relocate change)
  | children _ _, answer => answer.map (Node.relocate change)
  | gappedChildren _ _, answer => answer.map (Option.map (Node.relocate change))
  | aliases, answer =>
    answer.map (SymbolAlias.map (Sum.map (fun name => name) (Node.relocate change)))
  | _, answer => answer

/-- Answers of which the second is the first with its locations changed. -/
def Field.Relocated (change : SourceLocation → SourceLocation) (field : Field)
    (first second : field.Answer) : Prop :=
  second = field.relocate change first

namespace Form

variable (change : SourceLocation → SourceLocation)

theorem relocated_iff_of_isWord (field : Field) (word : field.IsWord)
    (first second : field.Answer) : field.Relocated change first second ↔ first = second := by
  cases field <;> first | exact eq_comm | exact word.elim

/-- Whether an alias is for a bare name or for a node, its identifier is relocated. -/
theorem foreign_comp_relocate (id : NodeId) (location : SourceLocation) :
    Sum.elim (Node.bareIdentifier id (change location)) (fun node => node) ∘
        Sum.map (fun name => name) (Node.relocate change) =
      Node.relocate change ∘ Sum.elim (Node.bareIdentifier id location) fun node => node := by
  funext foreign
  cases foreign with
  | inl name => exact (Node.relocate_bareIdentifier change id location name).symm
  | inr node => rfl

/-- Where the arguments of a call stand does not matter to how many they are. -/
theorem checkNames_relocate (names : List String) (arguments : List Node) :
    checkNames names (arguments.map (Node.relocate change)) = checkNames names arguments := by
  rw [checkNames, checkNames, List.length_map]

open Opened

/-- Whatever locations a form is answered, they make a difference to locations only. -/
theorem parallel_relocated (kind : NodeKind) :
    kind.form.Parallel (Field.Relocated change) kind.form fun first second =>
      second = first.relocate change := by
  cases kind <;>
    simp [-bind_pure_comp, Field.Relocated, Field.relocate, Field.IsWord, Option.forall,
      Node.relocate_mk, Node.relocate_bareIdentifier, SymbolAlias.map_map,
      foreign_comp_relocate, Shape.relocate, Statement.relocate, Shape.map, Declaration.map,
      TypeName.map, Statement.map, Expression.map, parallel_pure, parallel_ask_bind,
      parallel_words_bind (relocated_iff_of_isWord change), checkNames_relocate,
      declare, nameType, execute, express]

end Form
end ContractTree
