import ContractTree.Proofs.Conversion.Congruent
import ContractTree.Proofs.Form.Carried

namespace ContractTree

/-!
# Forms with a part in another spelling

Of the questions of a form only a few are about what may be spelled in different ways.
If all others are answered alike for two nodes, the form is carried over as soon as this
part of it is.  A documentation is asked for by a question of its own, whatever the kind
of the node.
-/

/-- Questions about none of some keys are answered for one node as for another. -/
def Form.AlikeBut (keys : List String) (given other : (field : Field) → field.Answer → Prop) :
    Prop :=
  ∀ field : Field, field.Avoids keys → ∀ answer, given field answer → other field answer

namespace Form.AlikeBut

variable {given other : (field : Field) → field.Answer → Prop}

theorem mono {keys more : List String} (alike : AlikeBut keys given other) (among : keys ⊆ more) :
    AlikeBut more given other := by
  have kept : "nodeType" :: "attributes" :: keys ⊆ "nodeType" :: "attributes" :: more :=
    List.cons_subset_cons _ (List.cons_subset_cons _ among)
  exact fun field avoids => alike field fun key member inside => avoids key member (kept inside)

theorem carries {keys : List String} (alike : AlikeBut keys given other) {α : Type} {form : Form α}
    (asks : form.Asks (Field.Avoids keys) fun _ => True) : Carries given other form form :=
  .of_asks alike asks

/-! ### Parts that are not about the spelling -/

/-- One question that is answered alike. -/
theorem ask {keys : List String} (alike : AlikeBut keys given other) {field : Field}
    (avoids : field.Avoids keys) : Carries given other (Form.ask field) (Form.ask field) :=
  alike.carries ⟨avoids, fun _ => trivial⟩

theorem carries_mutability (alike : AlikeBut ["isConstructor", "kind"] given other) :
    Carries given other mutability mutability := by
  refine alike.carries ?_
  simp [mutability, text?, flag?, Field.Avoids, Field.structuralKeys, Field.scalarKeys]

theorem carries_isConstructor
    (alike : AlikeBut ["constant", "payable", "stateMutability"] given other) :
    Carries given other isConstructor isConstructor := by
  refine alike.carries ?_
  simp [isConstructor, text?, flag?, Option.forall, Field.Avoids, Field.structuralKeys,
    Field.scalarKeys]

theorem carries_isConstant (alike : AlikeBut ["storageLocation", "location"] given other) :
    Carries given other isConstant isConstant := by
  refine alike.carries ?_
  simp [isConstant, text?, flag?, Option.forall, Field.Avoids, Field.structuralKeys,
    Field.scalarKeys]

theorem carries_storageLocation (alike : AlikeBut ["constant", "mutability"] given other) :
    Carries given other storageLocation storageLocation := by
  refine alike.carries ?_
  simp [storageLocation, text?, Option.forall, Field.Avoids, Field.structuralKeys,
    Field.scalarKeys]

/-! ### Forms -/

theorem carries_sourceUnit (alike : AlikeBut ["nodes", "children"] given other)
    (members : Carries given other unitMembers unitMembers) :
    Carries given other sourceUnit sourceUnit := by
  refine .bind (alike.ask (by decide)) fun location => ?_
  refine .bind (alike.ask (by decide)) fun id => ?_
  refine .bind members fun nodes => ?_
  refine alike.carries ?_
  simp [text?, Field.Avoids, Field.structuralKeys, Field.scalarKeys]

theorem carries_functionDefinition
    (alike : AlikeBut ["isConstructor", "kind", "constant", "payable", "stateMutability"]
      given other)
    (isConstructor : Carries given other isConstructor isConstructor)
    (mutability : Carries given other mutability mutability) :
    Carries given other functionDefinition functionDefinition := by
  refine .bind (alike.ask (by decide)) fun location => ?_
  refine .bind (alike.ask (by decide)) fun id => ?_
  refine .bind isConstructor fun isConstructor => ?_
  refine .bind mutability fun flags => ?_
  refine alike.carries ?_
  simp [child, children, functionBody, flag?, text, text?, visibility, documentation,
    Option.forall, Field.Avoids, Field.structuralKeys, Field.scalarKeys]

theorem carries_variableDeclaration
    (alike : AlikeBut ["constant", "mutability", "storageLocation", "location"] given other)
    (isConstant : Carries given other isConstant isConstant)
    (storageLocation : Carries given other storageLocation storageLocation) :
    Carries given other variableDeclaration variableDeclaration := by
  refine .bind (alike.ask (by decide)) fun location => ?_
  refine .bind (alike.ask (by decide)) fun typeName => ?_
  refine .bind (alike.ask (by decide)) fun value => ?_
  refine .bind isConstant fun isConstant => ?_
  refine .bind (alike.ask (by decide)) fun id => ?_
  refine .bind (alike.ask (by decide)) fun name => ?_
  refine .bind (alike.carries ?_) fun visibility => ?_
  · simp [visibility, text?, Option.forall, Field.Avoids, Field.structuralKeys, Field.scalarKeys]
  refine .bind (alike.carries ?_) fun isStateVariable => ?_
  · simp [flagOrFalse, flag?, Field.Avoids, Field.structuralKeys, Field.scalarKeys]
  refine .bind (alike.carries ?_) fun isIndexed => ?_
  · simp [flagOrFalse, flag?, Field.Avoids, Field.structuralKeys, Field.scalarKeys]
  exact .bind storageLocation fun storageLocation => .done _

theorem carries_elementaryTypeName (alike : AlikeBut ["name", "typeDescriptions"] given other)
    (word : Carries given other typeWord typeWord) :
    Carries given other elementaryTypeName elementaryTypeName := by
  refine .bind (alike.ask (by decide)) fun location => ?_
  refine .bind word fun word => ?_
  refine alike.carries ?_
  simp [Form.id, Field.Avoids, Field.structuralKeys, Field.scalarKeys]

theorem carries_functionTypeName
    (alike : AlikeBut ["constant", "payable", "stateMutability"] given other)
    (mutability : Carries given other mutability mutability) :
    Carries given other functionTypeName functionTypeName := by
  refine .bind mutability fun flags => ?_
  refine alike.carries ?_
  simp [Form.id, location, child, visibility, text?, Option.forall, Field.Avoids,
    Field.structuralKeys, Field.scalarKeys]

theorem carries_forStatement
    (alike : AlikeBut ["initializationExpression", "initExpression"] given other)
    (newer : ∀ held, given (.holds "initializationExpression") held → held = true)
    (older : other (.holds "initializationExpression") false)
    (initialization : Carries given other (child? "initializationExpression" .statement)
      (child? "initExpression" .statement)) :
    Carries given other forStatement forStatement := by
  refine .known newer ?_
  refine .told older ?_
  refine .bind (alike.ask (by decide)) fun id => ?_
  refine .bind (alike.ask (by decide)) fun location => ?_
  refine .bind initialization fun initialization => ?_
  refine alike.carries ?_
  simp [child?, child, Field.Avoids, Field.structuralKeys, Field.scalarKeys]

theorem carries_elementaryTypeNameExpression (alike : AlikeBut ["typeName"] given other)
    (type : Carries given other expressedType expressedType) :
    Carries given other elementaryTypeNameExpression elementaryTypeNameExpression := by
  refine .bind (alike.ask (by decide)) fun location => ?_
  refine .bind type fun type => ?_
  exact .bind (alike.ask (by decide)) fun id => .done _

theorem carries_literal (alike : AlikeBut ["kind", "token"] given other)
    (kind : Carries given other literalKind literalKind) :
    Carries given other literal literal := by
  refine .bind (alike.ask (by decide)) fun location => ?_
  refine .bind kind fun word => ?_
  refine alike.carries ?_
  simp [Form.id, text?, denomination, Option.forall, Field.Avoids, Field.structuralKeys,
    Field.scalarKeys]

end Form.AlikeBut

namespace Form

open Opened OpenedWords

/-- Only the question for the documentation is about the documentation. -/
theorem asks_documentation (kind : NodeKind) :
    kind.form.Asks (fun field => field = .documentation ∨ field.Avoids ["documentation"])
      fun _ => True := by
  cases kind <;>
    simp [Field.Avoids, Field.structuralKeys, Field.scalarKeys, Option.forall]

end Form
end ContractTree
