import ContractTree.Document.Scalar
import ContractTree.Form.Basic
import ContractTree.Import.Options
import ContractTree.Import.Plan

namespace ContractTree

/-!
# Answering a form

A question of a form is answered from a document node under the settings of the
import.  Questions about scalars, identifiers and locations are answered from the
node alone.  A question about children asks for their nodes and checks that each
is of the category of its place; a child in a wrong place is a defect of the node
that holds it, not of the child.
-/

namespace Plan

variable {bound : Nat} {α : Type}

/-- A plan that asks for no nodes. -/
def ofChecked (node : DocumentNode) : Checked α → Plan bound α
  | .ok result => done result
  | .error defect => fail (defect.on node.context)

/-- Asks for the node of the value in a place, and narrows it to what the place
admits. -/
def narrowed (parent : DocumentNode) (key : String) (category : Category) (value : Json)
    (smaller : value.height < bound) (narrow : Node → Option α) : Plan bound α :=
  if value.isObject then
    convert value smaller fun node =>
      match narrow node with
      | some result => done result
      | none => ofChecked parent (.error (.violation (.unexpectedChild key category node.kind)))
  else ofChecked parent (.error (.wrongType key .node))

/-- Asks for a node of a category. -/
def inCategory (parent : DocumentNode) (key : String) (category : Category) (value : Json)
    (smaller : value.height < bound) : Plan bound Node :=
  narrowed parent key category value smaller fun node =>
    if category.accepts node.kind then some node else none

/-- What stands under a structural key, which nests less deeply than the node. -/
def structural (node : DocumentNode) (key : String)
    (next : Option { value : Json // value.height < node.height } → Plan node.height α) :
    Plan node.height α :=
  match found : node.structural? key with
  | some value => next (some ⟨value, DocumentNode.height_structural_lt found⟩)
  | none => next none

/-- A result for each item of a list. -/
def items (node : DocumentNode) (key : String)
    (step : (item : Json) → item.height < node.height → Plan node.height α) :
    Plan node.height (List α) :=
  match read : node.readItems key with
  | .ok items => each items (fun _ member => DocumentNode.height_item_lt read member) step []
  | .error defect => ofChecked node (.error defect)

/-- An item of a list without gaps. -/
def entry (node : DocumentNode) (key : String) (category : Category) (item : Json)
    (smaller : item.height < node.height) : Plan node.height Node :=
  if item.isNull then ofChecked node (.error (.violation (.emptyEntry key)))
  else inCategory node key category item smaller

/-- An item of a list in which null is a gap. -/
def gappedEntry (node : DocumentNode) (key : String) (category : Category) (item : Json)
    (smaller : item.height < node.height) : Plan node.height (Option Node) :=
  if item.isNull then done none
  else (inCategory node key category item smaller).bind fun child => done (some child)

end Plan

namespace SymbolAlias

/-- The name that an alias gives, if it gives one. -/
def readLocalName (members : Members) : Checked (Option String) :=
  match members.find? "local" with
  | none => .ok none
  | some (.str name) => .ok (some name)
  | some _ => .error (.wrongType "symbolAliases" .aliasLocal)

/-- What an alias is for: a bare name, or an identifier. -/
def planForeign (node : DocumentNode) (members : Members)
    (smaller : (Json.obj members).height < node.height) : Plan node.height (String ⊕ Node) :=
  match found : members.find? "foreign" with
  | some (.str name) => .done (.inl name)
  | some (.obj inner) =>
    (Plan.inCategory node "symbolAliases" .identifier (.obj inner)
      (Nat.lt_trans (Members.height_lt_of_find? found) smaller)).bind fun child =>
        .done (.inr child)
  | _ => .ofChecked node (.error (.wrongType "symbolAliases" .aliasForeign))

def plan (node : DocumentNode) (item : Json) (smaller : item.height < node.height) :
    Plan node.height (SymbolAlias (String ⊕ Node)) :=
  match item, smaller with
  | .obj members, smaller =>
    (planForeign node members smaller).bind fun foreign =>
      (Plan.ofChecked node (readLocalName members)).bind fun localName =>
        .done ⟨foreign, localName⟩
  | _, _ => .ofChecked node (.error (.wrongType "symbolAliases" .aliasList))

end SymbolAlias

namespace Field

/-- How a question is answered. -/
def plan (settings : Settings) (node : DocumentNode) :
    (field : Field) → Plan node.height field.Answer
  | id => .ofChecked node node.readId
  | idOrZero => .done (node.id?.getD 0)
  | location => .ofChecked node (node.readLocation settings.source)
  | locationOrWhole =>
    .ofChecked node ((node.readLocation? settings.source).map (·.getD settings.wholeSource))
  | text key => .ofChecked node (node.readText settings.layout key)
  | text? key => .ofChecked node (node.readText? settings.layout key)
  | flag key => .ofChecked node (node.readFlag settings.layout key)
  | flag? key => .ofChecked node (node.readFlag? settings.layout key)
  | documentation => .ofChecked node (node.readDocumentation? settings.layout)
  | typeString => .done (node.readTypeString? settings.layout)
  | typeText => .ofChecked node (node.readTypeText settings.layout)
  | texts key => .ofChecked node (node.readTexts key)
  | holds key => .done (node.structural? key).isSome
  | holdsObject key => .done ((node.structural? key).any Json.isObject)
  | references => .ofChecked node (node.readReferences settings.source)
  | child key category =>
    .structural node key fun
      | some ⟨value, smaller⟩ => .inCategory node key category value smaller
      | none => .ofChecked node (.error (.violation (.missingChild key category)))
  | child? key category =>
    .structural node key fun
      | some ⟨value, smaller⟩ =>
        (Plan.inCategory node key category value smaller).bind fun child => .done (some child)
      | none => .done none
  | children key category => .items node key (.entry node key category)
  | gappedChildren key category => .items node key (.gappedEntry node key category)
  | elementaryChild key =>
    .structural node key fun
      | some ⟨value, smaller⟩ =>
        .narrowed node key .elementaryTypeName value smaller Node.elementaryType?
      | none => .ofChecked node (.error (.violation (.missingChild key .elementaryTypeName)))
  | aliases => .items node "symbolAliases" (SymbolAlias.plan node)

end Field

/-- How a form is filled in for a document node. -/
def Form.plan {α : Type} (settings : Settings) (node : DocumentNode) :
    Form α → Plan node.height α
  | done result => .done result
  | fail defect => .fail (defect.on node.context)
  | read field next =>
    (field.plan settings node).bind fun answer => (next answer).plan settings node

end ContractTree
