import ContractTree.Proofs.Document.Entries
import ContractTree.Proofs.Writing.Settled
import Mathlib.Data.List.Basic

namespace ContractTree

/-!
# The places of a written node

In the places of a written node stand its children, each as a node, in the order of
traversal.  So the document of a tree lists the tree: every entry has an identifier
that was written, and the tree has a node for it.
-/

section Places

variable {style : Style} {node : Node} {key : String}

theorem Style.itemPlaces_write (child : Node) :
    DocumentNode.itemPlaces (style.write child) = [.node (style.write child)] :=
  if_neg (Bool.eq_false_iff.1 (style.isNull_write child))

/-- Gaps have no places. -/
theorem Style.flatMap_itemPlaces_gapped (children : List (Option Node)) :
    ((children.map (Option.map style.write)).map fun child => child.getD .null).flatMap
        DocumentNode.itemPlaces =
      (Slot.gapped children).children.map fun child => .node (style.write child) := by
  induction children with
  | nil => rfl
  | cons child rest ih =>
    cases child with
    | none => exact ih
    | some child =>
      simp only [List.map_cons, Option.map_some, Option.getD_some, List.flatMap_cons,
        itemPlaces_write, ih]
      rfl

/-- What stands under the key of a part are its children. -/
theorem Style.under_part {category : Category} {slot : Slot Node}
    (part : ⟨key, category, slot⟩ ∈ node.shape.plainParts) :
    (style.documentOf node).under key =
      slot.children.map fun child => .node (style.write child) := by
  have alone : ∀ child, (style.documentOf node).structural? key = some (style.write child) →
      (style.documentOf node).under key = [.node (style.write child)] := by
    intro child found
    rw [style.write_eq, DocumentNode.toJson] at found ⊢
    rw [DocumentNode.under, found]
  have found := style.structural?_part part
  cases slot with
  | one child => exact alone child found
  | maybe child =>
    cases child with
    | none =>
      rw [DocumentNode.under, found]
      rfl
    | some child => exact alone child found
  | many children =>
    rw [DocumentNode.under, found]
    change (children.map style.write).flatMap DocumentNode.itemPlaces = children.map _
    rw [List.flatMap_map, List.map_eq_flatMap]
    exact List.flatMap_congr fun child _ => itemPlaces_write child
  | gapped children =>
    rw [DocumentNode.under, found]
    exact flatMap_itemPlaces_gapped children

theorem Style.under_of_not_mem (missing : key ∉ reserved ++ node.shape.keys)
    (noTag : key ≠ "name" ∧ key ≠ "kind") : (style.documentOf node).under key = [] := by
  rw [DocumentNode.under, structural?_of_not_mem missing noTag]

/-- The children in all plain parts stand under their keys. -/
theorem Style.flatMap_under (node : Node) :
    (node.shape.plainParts.flatMap fun part => (style.documentOf node).under part.key) =
      (node.shape.plainParts.flatMap Part.children).map fun child => .node (style.write child) := by
  rw [List.map_flatMap]
  exact List.flatMap_congr fun part member => under_part member

variable {layout : FieldLayout}

/-! ## Places that the kind alone does not settle -/

theorem Style.membersKey_documentOf {absolutePath : Option String} {nodes : List Node}
    (shape : node.shape = .declaration (.sourceUnit absolutePath nodes)) :
    (style.documentOf node).membersKey = "nodes" := by
  have part : ⟨"nodes", .anyNode, .many nodes⟩ ∈ node.shape.plainParts := by simp [shape]
  rw [DocumentNode.membersKey, structural?_part part]
  rfl

theorem Style.foreignPlaces_write (symbol : SymbolAlias Node) :
    DocumentNode.foreignPlaces (symbol.map style.write).write =
      [.node (style.write symbol.foreign)] := by
  have found := (symbol.map style.write).find?_field (.head _)
    (Fields.present_some (style.isNull_write symbol.foreign))
  change Members.find? _ "foreign" = some (style.write symbol.foreign) at found
  rw [style.write_eq, DocumentNode.toJson] at found ⊢
  rw [SymbolAlias.write, DocumentNode.foreignPlaces, found]

theorem Style.aliasPlaces_documentOf {path unitAlias : String} {symbols : List (SymbolAlias Node)}
    (shape : node.shape = .declaration (.importDirective path unitAlias symbols)) :
    (style.documentOf node).aliasPlaces =
      symbols.map fun symbol => .node (style.write symbol.foreign) := by
  rw [DocumentNode.aliasPlaces, structural?_aliases shape]
  change (symbols.map _).flatMap DocumentNode.foreignPlaces = symbols.map _
  rw [List.flatMap_map, List.map_eq_flatMap]
  exact List.flatMap_congr fun symbol _ => foreignPlaces_write symbol

/-- A function that says it is not implemented has nothing under the key of its body. -/
theorem Style.body_documentOf (reads : style.ReadBy layout) {function : FunctionDefinition Node}
    (shape : node.shape = .declaration (.functionDefinition function)) :
    (if (style.documentOf node).isUnimplemented layout then []
      else (style.documentOf node).under "body") = (style.documentOf node).under "body" := by
  have part : ⟨"body", .block, .maybe function.body⟩ ∈ node.shape.plainParts := by simp [shape]
  cases body : function.body with
  | none =>
    rw [under_part part, body]
    exact ite_self []
  | some block =>
    have field : ("implemented", none) ∈ node.shape.scalars := by simp [shape, body]
    have missing : (style.documentOf node).scalar? layout "implemented" = none :=
      scalar?_of_mem reads field (by rintro _ ⟨⟩)
    rw [DocumentNode.isUnimplemented, missing]
    rfl

theorem Style.modifierPlaces_documentOf {name : Node} {arguments : List Node}
    (shape : node.shape = .declaration (.modifierInvocation name arguments)) :
    (style.documentOf node).modifierPlaces layout =
      (style.documentOf node).under "modifierName" := by
  have part : ⟨"modifierName", .identifier, .one name⟩ ∈ node.shape.plainParts := by simp [shape]
  rw [under_part part, DocumentNode.modifierPlaces, structural?_part part]
  rfl

/-- Under the short key of an initialization stands nothing, so if nothing stands under
the long key either, it does not matter which is taken. -/
theorem Style.under_initializationKey {initialization condition loopExpression : Option Node}
    {body : Node} (shape : node.shape =
      .statement (.forLoop initialization condition loopExpression body)) :
    (style.documentOf node).under (style.documentOf node).initializationKey =
      (style.documentOf node).under "initializationExpression" := by
  have part : ⟨"initializationExpression", .statement, .maybe initialization⟩ ∈
      node.shape.plainParts := by simp [shape]
  rw [DocumentNode.initializationKey, structural?_part part]
  cases initialization with
  | some start => rfl
  | none =>
    have missing : "initExpression" ∉ reserved ++ node.shape.keys := by simp [shape]
    have nothing : (style.documentOf node).under "initExpression" = [] :=
      under_of_not_mem missing (by decide)
    rw [under_part part]
    exact nothing

theorem Style.typeOnlyPlaces_documentOf {type : ElementaryType}
    (shape : node.shape = .expression (.elementaryTypeName type)) :
    (style.documentOf node).typeOnlyPlaces "typeName" = [] := by
  have field : ("typeName", some (.str type.text)) ∈ node.shape.scalars := by simp [shape]
  rw [DocumentNode.typeOnlyPlaces,
    structural?_of_mem field (Fields.present_some rfl) (by decide)]

/-! ## All places -/

/-- The places of a written node hold its children. -/
theorem Style.places_documentOf (reads : style.ReadBy layout) (node : Node) :
    (style.documentOf node).places layout =
      node.children.map fun child => .node (style.write child) := by
  have kind := style.kind_documentOf node
  have under := style.flatMap_under node
  rw [DocumentNode.places, kind]
  rcases node with ⟨id, location, shape⟩
  cases shape with
  | declaration shape =>
    cases shape with
    | sourceUnit absolutePath nodes =>
      change DocumentNode.under _ (DocumentNode.membersKey _) = _
      rw [membersKey_documentOf rfl]
      exact (List.append_nil _).symm.trans under
    | importDirective path unitAlias aliases =>
      refine (aliasPlaces_documentOf rfl).trans ?_
      change _ = (aliases.map SymbolAlias.foreign ++ []).map _
      rw [List.append_nil, List.map_map]
      rfl
    | functionDefinition function =>
      change DocumentNode.under _ "parameters" ++ DocumentNode.under _ "returnParameters" ++
        DocumentNode.under _ "modifiers" ++ ite _ [] (DocumentNode.under _ "body") = _
      rw [body_documentOf reads rfl, List.append_assoc, List.append_assoc,
        ← List.append_nil (DocumentNode.under _ "body")]
      exact under
    | modifierInvocation name arguments =>
      change DocumentNode.modifierPlaces _ layout ++ DocumentNode.under _ "arguments" = _
      rw [modifierPlaces_documentOf rfl, ← List.append_nil (DocumentNode.under _ "arguments")]
      exact under
    | _ => exact under
  | typeName shape => cases shape <;> exact under
  | statement shape =>
    cases shape with
    | loop condition body isDoWhile => cases isDoWhile <;> exact under
    | forLoop initialization condition loopExpression body =>
      change DocumentNode.under _ (DocumentNode.initializationKey _) ++
        DocumentNode.under _ "condition" ++ DocumentNode.under _ "loopExpression" ++
          DocumentNode.under _ "body" = _
      rw [under_initializationKey rfl, List.append_assoc, List.append_assoc,
        ← List.append_nil (DocumentNode.under _ "body")]
      exact under
    | _ => exact under
  | expression shape =>
    cases shape with
    | elementaryTypeName type => exact typeOnlyPlaces_documentOf rfl
    | _ => exact under

end Places

/-! ## Entries -/

section Entries

variable {settings : Settings} {style : Style} {node : Node}

/-- A written node is listed with its identifier and its span. -/
theorem Style.listed_documentOf (within : node.location.Within settings.source) :
    DocumentNode.ownEntry? (style.documentOf node) settings =
      some ⟨node.summary, .written, true⟩ := by
  have written : (style.documentOf node).id? = some node.id := id?_documentOf
  have id : (style.documentOf node).nodeId? = some node.id := by
    rw [DocumentNode.nodeId?, written]
    exact ite_self _
  have location : (style.documentOf node).location? settings = some node.location := by
    rw [DocumentNode.location?, documentOf, structural?_src]
    exact SourceLocation.ofMarker?_text within.source_eq within.ordered
  have origin : (style.documentOf node).origin = .written := by
    rw [DocumentNode.origin, written]
    rfl
  rw [DocumentNode.ownEntry?, id, location, origin, kind_documentOf]
  rfl

/-- The document of a tree lists the tree. -/
theorem Style.entries_write (reads : style.ReadBy settings.layout)
    (grammatical : node.Everywhere (Node.Grammatical settings.source)) :
    entries settings (style.write node) =
      node.preorder.map fun summary => ⟨summary, .written, true⟩ := by
  induction node using Node.induction with
  | step node ih =>
    rw [entries_of_ok (style.ofJson?_write node) (listed_documentOf grammatical.here.location),
      places_documentOf reads, Node.preorder_eq, List.map_cons, List.flatMap_map, List.map_flatMap]
    congr 1
    exact List.flatMap_congr fun child member => ih child member (grammatical.children child member)

end Entries
end ContractTree
