import ContractTree.Proofs.Conversion.Answers
import ContractTree.Proofs.Document.Readers
import ContractTree.Proofs.Token.Numeral
import ContractTree.Proofs.Tree.Grammar
import ContractTree.Proofs.Writing.Says
import ContractTree.Proofs.Writing.Style

namespace ContractTree

/-!
# What a written node answers

The document of a node answers every question with what the node says, once the
children convert to themselves.  A scalar is found under its key whatever the style,
and a child is the node that its value converts to.
-/

/-! ## References of inline assembly -/

namespace ExternalReference

theorem find?_field (reference : ExternalReference) {key : String} {value : Option Json}
    (field : (key, value) ∈ reference.fields) (present : Fields.Present value) :
    reference.fields.members.find? key = value := by
  refine Fields.find?_of_mem ?_ field present
  have keys : reference.fields.keys = ["declaration", "isOffset", "isSlot", "valueSize", "src"] :=
    rfl
  rw [keys]
  decide

variable {reference : ExternalReference}

theorem readDeclaration?_fields :
    readDeclaration? reference.fields.members = .ok reference.declaration := by
  have found := reference.find?_field (.head _) (Fields.present_map (fun _ => rfl) _)
  rw [readDeclaration?, found]
  cases reference.declaration with
  | none => rfl
  | some id =>
    have integral : (Json.int id.toInt).asInt?.bind NodeId.ofInt? = some id :=
      NodeId.ofInt?_toInt id
    simp only [Option.map_some, integral]

theorem readFlag_isOffset :
    readFlag reference.fields.members "isOffset" = .ok reference.isOffset := by
  have found := reference.find?_field (.tail _ (.head _)) (Fields.present_some rfl)
  rw [readFlag, found]

theorem readFlag_isSlot : readFlag reference.fields.members "isSlot" = .ok reference.isSlot := by
  have found := reference.find?_field (.tail _ (.tail _ (.head _)))
    (Fields.present_some rfl)
  rw [readFlag, found]

theorem readValueSize_fields :
    readValueSize reference.fields.members = .ok reference.valueSize := by
  have found := reference.find?_field (.tail _ (.tail _ (.tail _ (.head _))))
    (Fields.present_some rfl)
  have bounds : 0 ≤ (reference.valueSize.toNat : Int) ∧
      (reference.valueSize.toNat : Int) < UInt32.size :=
    ⟨Int.natCast_nonneg _, Int.ofNat_lt.2 reference.valueSize.toNat_lt⟩
  rw [readValueSize, found]
  change (if _ then Except.ok (UInt32.ofNat (Int.toNat reference.valueSize.toNat)) else _) = _
  rw [if_pos bounds, Int.toNat_natCast, UInt32.ofNat_toNat]

theorem readLocation?_fields {source : SourceName}
    (within : ∀ location, reference.location = some location → location.Within source) :
    readLocation? source reference.fields.members = .ok reference.location := by
  have found := reference.find?_field (.tail _ (.tail _ (.tail _ (.tail _ (.head _)))))
    (Fields.present_map (fun _ => rfl) _)
  rw [readLocation?, found]
  cases placed : reference.location with
  | none => rfl
  | some location =>
    have inside := within location placed
    change (readPlace source location.span.text).map some = _
    rw [readPlace, SourceLocation.ofMarker?_text inside.source_eq inside.ordered]
    rfl

/-- A reference is read back, with its location in the source. -/
theorem read_write {source : SourceName}
    (within : ∀ location, reference.location = some location → location.Within source) :
    read source reference.write = .ok reference := by
  simp only [write, read, readDeclaration?_fields, readValueSize_fields,
    readLocation?_fields within, readFlag_isOffset, readFlag_isSlot]
  rfl

end ExternalReference

/-! ## What is found in a written node -/

section Found

variable {style : Style} {node : Node} {key : String}

theorem Style.isObject_write (node : Node) : (style.write node).isObject = true := by
  rw [write_eq]
  rfl

theorem Style.isNull_write (node : Node) : (style.write node).isNull = false := by
  rw [write_eq]
  rfl

/-- A scalar of a node is found among the scalars of its document. -/
theorem Style.find?_scalar {value : Option Json} (field : (key, value) ∈ node.shape.scalars)
    (present : Fields.Present value) :
    (node.shape.map style.write).scalars.members.find? key = value := by
  refine Fields.find?_of_mem (Shape.nodup_keys_scalars _) ?_ present
  rw [Shape.scalars_map]
  exact field

/-- What is written for a place is not null. -/
theorem Style.present_written (slot : Slot Node) :
    Fields.Present (slot.map style.write).written := by
  cases slot with
  | one child => exact Fields.present_some (isNull_write child)
  | maybe child => exact Fields.present_map isNull_write child
  | many children => exact Fields.present_some rfl
  | gapped children => exact Fields.present_some rfl

theorem Style.field_of_part {category : Category} {slot : Slot Node}
    (part : ⟨key, category, slot⟩ ∈ node.shape.plainParts) :
    (key, (slot.map style.write).written) ∈ (node.shape.map style.write).childFields := by
  have listed : (Part.mk key category slot).map style.write ∈
      (node.shape.map style.write).plainParts := by
    rw [Shape.plainParts_map]
    exact List.mem_map_of_mem part
  exact Shape.field_mem_childFields listed

/-- A key of a scalar is neither reserved nor that of a child. -/
theorem Style.apart_of_scalar {value : Option Json} (field : (key, value) ∈ node.shape.scalars) :
    key ∉ reserved ∧ key ∉ (node.shape.map style.write).childFields.keys := by
  have listed : key ∈ (node.shape.map style.write).scalars.keys := by
    rw [Shape.scalars_map]
    exact Fields.mem_keys_of_mem field
  exact ⟨Shape.not_mem_reserved (List.mem_append_left _ listed),
    Shape.not_mem_childFields listed⟩

/-- A key that the node does not have is missing in its document. -/
theorem Style.apart_of_missing (missing : key ∉ reserved ++ node.shape.keys) :
    key ∉ reserved ∧ key ∉ (node.shape.map style.write).scalars.keys ∧
      key ∉ (node.shape.map style.write).childFields.keys := by
  rw [List.mem_append, not_or, ← Shape.keys_map style.write, Shape.keys,
    ← Shape.keys_childFields, List.mem_append, not_or] at missing
  exact missing

theorem Style.id?_documentOf : (style.documentOf node).id? = some node.id := by
  rw [DocumentNode.id?, documentOf, structural?_id]
  exact NodeId.ofInt?_toInt node.id

variable {layout : FieldLayout}

theorem Style.scalar?_of_mem (reads : style.ReadBy layout) {value : Option Json}
    (field : (key, value) ∈ node.shape.scalars) (present : Fields.Present value) :
    (style.documentOf node).scalar? layout key = value := by
  have apart := style.apart_of_scalar field
  rw [documentOf, scalar?_document reads apart.1 apart.2, find?_scalar field present]

theorem Style.scalar?_of_not_mem (reads : style.ReadBy layout)
    (missing : key ∉ reserved ++ node.shape.keys) :
    (style.documentOf node).scalar? layout key = none := by
  have apart := style.apart_of_missing missing
  rw [documentOf, scalar?_document reads apart.1 apart.2.2, Fields.find?_of_not_mem apart.2.1]

/-- What has no key of a tag is found in both places. -/
theorem Style.structural?_of_mem {value : Option Json} (field : (key, value) ∈ node.shape.scalars)
    (present : Fields.Present value) (noTag : key ≠ "name" ∧ key ≠ "kind") :
    (style.documentOf node).structural? key = value := by
  have apart := style.apart_of_scalar field
  rw [documentOf, structural?_scalar apart.1 noTag apart.2, find?_scalar field present]

theorem Style.structural?_of_not_mem (missing : key ∉ reserved ++ node.shape.keys)
    (noTag : key ≠ "name" ∧ key ≠ "kind") : (style.documentOf node).structural? key = none := by
  have apart := style.apart_of_missing missing
  rw [documentOf, structural?_scalar apart.1 noTag apart.2.2, Fields.find?_of_not_mem apart.2.1]

/-- What is written for a place is found under its key. -/
theorem Style.structural?_of_child {value : Option Json}
    (field : (key, value) ∈ (node.shape.map style.write).childFields)
    (present : Fields.Present value) : (style.documentOf node).structural? key = value := by
  have listed := Fields.mem_keys_of_mem field
  have noScalar : key ∉ (node.shape.map style.write).scalars.keys :=
    fun scalar => Shape.not_mem_childFields scalar listed
  have part : key ∈ (node.shape.map style.write).parts.map Part.key := by
    rw [← Shape.keys_childFields]
    exact listed
  have free : key ∉ reserved := Shape.not_mem_reserved (List.mem_append_right _ part)
  rw [documentOf, structural?_child free (Shape.key_ne_of_mem_parts part) noScalar]
  exact Fields.find?_of_mem (Shape.nodup_keys_childFields _) field present

theorem Style.structural?_part {category : Category} {slot : Slot Node}
    (part : ⟨key, category, slot⟩ ∈ node.shape.plainParts) :
    (style.documentOf node).structural? key = (slot.map style.write).written :=
  structural?_of_child (field_of_part part) (present_written slot)

/-- The aliases of an import are found under their key. -/
theorem Style.structural?_aliases {path unitAlias : String} {symbols : List (SymbolAlias Node)}
    (shape : node.shape = .declaration (.importDirective path unitAlias symbols)) :
    (style.documentOf node).structural? "symbolAliases" =
      some (.arr (symbols.map fun symbol => (symbol.map style.write).write)) := by
  refine structural?_of_child ?_ (Fields.present_some rfl)
  rw [shape]
  change _ ∈ [("symbolAliases", some (Json.arr
    ((symbols.map (SymbolAlias.map style.write)).map SymbolAlias.write)))]
  rw [List.map_map]
  exact .head _

end Found

/-! ## Converting what is found -/

section Conversion

/-- A list of written items is converted to the items. -/
theorem Journal.result_mapM {α β : Type} {convert : Json → Journal β} {items : List α}
    {written : α → Json} {answer : α → β}
    (each : ∀ item ∈ items, (convert (written item)).result = .ok (answer item)) :
    ((items.map written).mapM convert).result = .ok (items.map answer) := by
  induction items with
  | nil => rfl
  | cons item rest ih =>
    have first := each item (List.mem_cons_self ..)
    have later := ih fun other member => each other (List.mem_cons_of_mem _ member)
    rw [List.map_cons, List.mapM_cons, Journal.result_bind_eq_ok]
    exact ⟨answer item, first, Journal.result_bind_eq_ok.2 ⟨rest.map answer, later, rfl⟩⟩

variable {settings : Settings} {depth : Nat} {style : Style} {parent : DocumentNode} {key : String}
  {category : Category}

/-- A written node that converts to itself. -/
abbrev Style.Converts (style : Style) (settings : Settings) (depth : Nat) (node : Node) : Prop :=
  (journal settings depth (style.write node)).result = .ok node

variable {child : Node}

theorem Journal.result_inCategory (converts : style.Converts settings depth child)
    (accepted : category.accepts child.kind = true) :
    (inCategory settings depth parent key category (style.write child)).result = .ok child := by
  rw [inCategory, narrowed, if_pos (Style.isObject_write child), result_bind_eq_ok]
  refine ⟨child, converts, ?_⟩
  rw [if_pos accepted]
  rfl

theorem Journal.result_entry (converts : style.Converts settings depth child)
    (accepted : category.accepts child.kind = true) :
    (entry settings depth parent key category (style.write child)).result = .ok child := by
  rw [entry, if_neg (Bool.eq_false_iff.1 (Style.isNull_write child))]
  exact result_inCategory converts accepted

theorem Journal.result_gappedEntry {child : Option Node}
    (converts : ∀ node, child = some node → style.Converts settings depth node)
    (accepted : ∀ node, child = some node → category.accepts node.kind = true) :
    (gappedEntry settings depth parent key category
      ((child.map style.write).getD .null)).result = .ok child := by
  cases child with
  | none => rfl
  | some child =>
    rw [gappedEntry, Option.map_some, Option.getD_some,
      if_neg (Bool.eq_false_iff.1 (Style.isNull_write child)), result_bind_eq_ok]
    exact ⟨child, result_inCategory (converts child rfl) (accepted child rfl), rfl⟩

theorem SymbolAlias.find?_field (symbol : SymbolAlias Json) {name : String} {value : Option Json}
    (field : (name, value) ∈ symbol.fields) (present : Fields.Present value) :
    symbol.fields.members.find? name = value := by
  refine Fields.find?_of_mem ?_ field present
  have keys : symbol.fields.keys = ["foreign", "local"] := rfl
  rw [keys]
  decide

theorem SymbolAlias.readLocalName_fields (symbol : SymbolAlias Json) :
    readLocalName symbol.fields.members = .ok symbol.localName := by
  have found := symbol.find?_field (.tail _ (.head _)) (Fields.present_map (fun _ => rfl) _)
  rw [readLocalName, found]
  cases symbol.localName <;> rfl

variable {symbol : SymbolAlias Node}

theorem Journal.result_foreign (converts : style.Converts settings depth symbol.foreign)
    (accepted : Category.identifier.accepts symbol.foreign.kind = true) :
    (foreign settings depth parent (symbol.map style.write).fields.members).result =
      .ok (.inr symbol.foreign) := by
  have found := (symbol.map style.write).find?_field (.head _)
    (Fields.present_some (Style.isNull_write symbol.foreign))
  have child : (inCategory settings depth parent "symbolAliases" .identifier
      (style.write symbol.foreign)).result = .ok symbol.foreign :=
    result_inCategory converts accepted
  change Members.find? _ "foreign" = some (style.write symbol.foreign) at found
  rw [style.write_eq, DocumentNode.toJson] at found child
  rw [foreign, found, result_bind_eq_ok]
  exact ⟨symbol.foreign, child, rfl⟩

/-- An alias is read back with its identifier as a node. -/
theorem Journal.result_symbolAlias (converts : style.Converts settings depth symbol.foreign)
    (accepted : Category.identifier.accepts symbol.foreign.kind = true) :
    (symbolAlias settings depth parent (symbol.map style.write).write).result =
      .ok (symbol.map .inr) := by
  rw [SymbolAlias.write, symbolAlias, SymbolAlias.readLocalName_fields, result_bind_eq_ok]
  exact ⟨.inr symbol.foreign, result_foreign converts accepted, rfl⟩

end Conversion

end ContractTree
