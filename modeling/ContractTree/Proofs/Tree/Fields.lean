import ContractTree.Proofs.Tree.Fold
import Mathlib.Control.Fold
import Mathlib.Control.Traversable.Instances
import Mathlib.Tactic.DeriveTraversable

namespace ContractTree

/-!
# The nodes in the fields of a shape

The places of a shape are written down by hand, and a child that is missing there would be
missing from every listing.  The type of a shape says by itself which nodes it holds: it is
traversed from its first field to its last, and what is met on the way is met once, whether
it stands alone, may be missing, or stands in a list, with gaps or in aliases.  The places
hold these nodes in this order.  Only a function is visited in another order, its results
before its modifiers.
-/

/-! ## Shapes are traversed field by field -/

section Identity

variable {α : Type}

theorem SymbolAlias.map_id (symbol : SymbolAlias α) : symbol.map id = symbol := rfl

theorem Declaration.map_id (shape : Declaration α) : shape.map id = shape := by
  have aliases : (SymbolAlias.map id : SymbolAlias α → SymbolAlias α) = id := rfl
  cases shape <;> simp [map, aliases]

theorem TypeName.map_id (shape : TypeName α) : shape.map id = shape := by
  cases shape <;> simp [map]

theorem Statement.map_id (shape : Statement α) : shape.map id = shape := by
  cases shape <;> simp [map]

theorem Expression.map_id (shape : Expression α) : shape.map id = shape := by
  cases shape <;> simp [map]

end Identity

instance : Functor SymbolAlias where
  map := SymbolAlias.map

instance : Functor Declaration where
  map := Declaration.map

instance : Functor TypeName where
  map := TypeName.map

instance : Functor Statement where
  map := Statement.map

instance : Functor Expression where
  map := Expression.map

instance : LawfulFunctor SymbolAlias where
  map_const := rfl
  id_map := SymbolAlias.map_id
  comp_map f g symbol := (symbol.map_map g f).symm

instance : LawfulFunctor Declaration where
  map_const := rfl
  id_map := Declaration.map_id
  comp_map f g shape := (shape.map_map g f).symm

instance : LawfulFunctor TypeName where
  map_const := rfl
  id_map := TypeName.map_id
  comp_map f g shape := (shape.map_map g f).symm

instance : LawfulFunctor Statement where
  map_const := rfl
  id_map := Statement.map_id
  comp_map f g shape := (shape.map_map g f).symm

instance : LawfulFunctor Expression where
  map_const := rfl
  id_map := Expression.map_id
  comp_map f g shape := (shape.map_map g f).symm

deriving instance Functor for ContractDefinition
deriving instance Functor for FunctionDefinition
deriving instance Functor for VariableDeclaration

instance : LawfulFunctor ContractDefinition where
  map_const := rfl
  id_map contract := by
    cases contract
    simp [Functor.map, ContractDefinition.map]
  comp_map f g contract := by
    cases contract
    simp [Functor.map, ContractDefinition.map]

instance : LawfulFunctor FunctionDefinition where
  map_const := rfl
  id_map function := by
    cases function
    simp [Functor.map, FunctionDefinition.map]
  comp_map f g function := by
    cases function
    simp [Functor.map, FunctionDefinition.map]

instance : LawfulFunctor VariableDeclaration where
  map_const := rfl
  id_map declared := by
    cases declared
    simp [Functor.map, VariableDeclaration.map]
  comp_map f g declared := by
    cases declared
    simp [Functor.map, VariableDeclaration.map]

deriving instance Traversable, LawfulTraversable for ContractDefinition
deriving instance Traversable, LawfulTraversable for FunctionDefinition
deriving instance Traversable, LawfulTraversable for VariableDeclaration
deriving instance Traversable, LawfulTraversable for SymbolAlias
deriving instance Traversable, LawfulTraversable for Declaration
deriving instance Traversable, LawfulTraversable for TypeName
deriving instance Traversable, LawfulTraversable for Statement
deriving instance Traversable, LawfulTraversable for Expression

open Traversable (toList toList_spec traverse)

example : toList (Statement.forLoop (some 1) none (some 2) 3) = [1, 2, 3] := rfl

example : toList (Statement.declareVariables [some 1, none, some 2] (some 3)) = [1, 2, 3] := rfl

/-! ## What a traversal meets -/

section Met

variable {α β γ : Type}

/-- The traversal that notes every node down. -/
abbrev note (child : α) : Functor.Const (FreeMonoid α) PUnit :=
  Functor.Const.mk' (FreeMonoid.of child)

/-- What has been noted down. -/
def met (noted : Functor.Const (FreeMonoid α) β) : List α := FreeMonoid.toList noted.run

@[simp] theorem met_note (child : α) : met (note child) = [child] := rfl

@[simp] theorem met_pure (result : β) :
    met (pure result : Functor.Const (FreeMonoid α) β) = [] := rfl

@[simp] theorem met_seq (first : Functor.Const (FreeMonoid α) (β → γ))
    (second : Functor.Const (FreeMonoid α) β) :
    met (first <*> second) = met first ++ met second := rfl

@[simp] theorem met_map (f : β → γ) (noted : Functor.Const (FreeMonoid α) β) :
    met (f <$> noted) = met noted := rfl

variable (step : β → Functor.Const (FreeMonoid α) γ)

@[simp] theorem met_option (child : Option β) :
    met (traverse step child) = child.toList.flatMap fun inner => met (step inner) := by
  cases child with
  | none => rfl
  | some inner => simp [traverse, Option.traverse]

@[simp] theorem met_list (children : List β) :
    met (traverse step children) = children.flatMap fun inner => met (step inner) := by
  induction children with
  | nil => rfl
  | cons first rest ih =>
    simp only [traverse] at ih
    simp [traverse, List.traverse, ih]

@[simp] theorem met_alias (symbol : SymbolAlias β) :
    met (traverse step symbol) = met (step symbol.foreign) := by
  cases symbol
  change met (SymbolAlias.traverse step _) = _
  simp [SymbolAlias.traverse]

@[simp] theorem met_contract (contract : ContractDefinition β) :
    met (traverse step contract) =
      (contract.baseContracts ++ contract.members).flatMap fun inner => met (step inner) := by
  cases contract
  change met (ContractDefinition.traverse step _) = _
  simp [ContractDefinition.traverse]

@[simp] theorem met_function (function : FunctionDefinition β) :
    met (traverse step function) =
      (function.parameters :: (function.modifiers ++ function.returnParameters ::
        function.body.toList)).flatMap fun inner => met (step inner) := by
  cases function
  change met (FunctionDefinition.traverse step _) = _
  simp [FunctionDefinition.traverse]

@[simp] theorem met_variable (declared : VariableDeclaration β) :
    met (traverse step declared) =
      (declared.typeName.toList ++ declared.value.toList).flatMap fun inner =>
        met (step inner) := by
  cases declared
  change met (VariableDeclaration.traverse step _) = _
  simp [VariableDeclaration.traverse]

end Met

/-! ## The places hold what the fields hold -/

section Children

variable {α : Type}

/-- The nodes of a declaration in the order of traversal. -/
def Declaration.visited : Declaration α → List α
  | .functionDefinition function =>
    function.parameters :: function.returnParameters ::
      (function.modifiers ++ function.body.toList)
  | shape => toList shape

theorem Declaration.toList_eq (shape : Declaration α) :
    toList shape = met (shape.traverse note) := toList_spec shape

theorem Shape.children_declaration (shape : Declaration α) :
    (Shape.declaration shape).children = shape.visited := by
  cases shape <;>
    simp [Declaration.visited, Declaration.toList_eq, Declaration.traverse, children, parts,
      Declaration.parts, Part.children, Slot.children, List.map_eq_flatMap]

theorem Declaration.visited_perm (shape : Declaration α) : shape.visited.Perm (toList shape) := by
  cases shape with
  | functionDefinition function =>
    have fields : toList (Declaration.functionDefinition function) =
        function.parameters :: (function.modifiers ++ function.returnParameters ::
          function.body.toList) := by
      simp [toList_eq, Declaration.traverse]
    rw [fields]
    exact .cons _ List.perm_middle.symm
  | _ => exact .refl _

theorem Shape.children_typeName (shape : TypeName α) :
    (Shape.typeName shape).children = toList shape := by
  have noted : toList shape = met (shape.traverse note) := toList_spec shape
  rw [noted]
  cases shape <;>
    simp [TypeName.traverse, children, parts, TypeName.parts, Part.children, Slot.children]

theorem Shape.children_statement (shape : Statement α) :
    (Shape.statement shape).children = toList shape := by
  have noted : toList shape = met (shape.traverse note) := toList_spec shape
  rw [noted]
  cases shape <;>
    simp [Statement.traverse, children, parts, Statement.parts, Part.children, Slot.children,
      List.filterMap_eq_flatMap_toList]

theorem Shape.children_expression (shape : Expression α) :
    (Shape.expression shape).children = toList shape := by
  have noted : toList shape = met (shape.traverse note) := toList_spec shape
  rw [noted]
  cases shape <;>
    simp [Expression.traverse, children, parts, Expression.parts, Part.children, Slot.children,
      List.filterMap_eq_flatMap_toList]

end Children

end ContractTree
