import ContractTree.Json.Basic
import ContractTree.Tree.Node
import ContractTree.Tree.Path

namespace ContractTree

/-!
# The fields that a node is written with

A node is written with the fields of its kind, each under the key that is asked for
first.  A field without a value is left out.  The children stand under the keys of
their parts; the other fields are the scalars, in which operators, units and types
are written as the text of their token and attributes as their word.
-/

/-- Fields in order, some of them without a value. -/
abbrev Fields := List (String × Option Json)

namespace Fields

/-- The members that fields make. -/
def members (fields : Fields) : Members :=
  fields.filterMap fun (key, value) => value.map fun value => (key, value)

def keys (fields : Fields) : List String := fields.map Prod.fst

variable {fields : Fields} {key : String} {value : Option Json}

theorem mem_keys_of_mem (member : (key, value) ∈ fields) : key ∈ fields.keys :=
  List.mem_map.2 ⟨(key, value), member, rfl⟩

/-- A key without a field finds nothing. -/
theorem find?_of_not_mem (missing : key ∉ fields.keys) : fields.members.find? key = none := by
  induction fields with
  | nil => rfl
  | cons field rest ih =>
    rcases field with ⟨name, content⟩
    have different : name ≠ key := fun same => missing (same ▸ List.mem_cons_self ..)
    have later := ih fun inside => missing (List.mem_cons_of_mem _ inside)
    cases content with
    | none => exact later
    | some content =>
      change Members.find? ((name, content) :: members rest) key = none
      rw [Members.find?, if_neg fun both => different both.1]
      exact later

/-- A field that is not null, if it has a value. -/
def Present (value : Option Json) : Prop :=
  ∀ content, value = some content → content.isNull = false

theorem present_some {content : Json} (solid : content.isNull = false) :
    Present (some content) := by
  rintro _ ⟨⟩
  exact solid

theorem present_map {α : Type} {f : α → Json} (solid : ∀ answer, (f answer).isNull = false)
    (answer : Option α) : Present (answer.map f) := by
  intro content given
  rcases Option.map_eq_some_iff.1 given with ⟨answer, _, rfl⟩
  exact solid answer

/-- Among distinct keys, a key finds the value of its field. -/
theorem find?_of_mem (distinct : fields.keys.Nodup) (member : (key, value) ∈ fields)
    (present : Present value) : fields.members.find? key = value := by
  induction fields with
  | nil => cases member
  | cons field rest ih =>
    rcases field with ⟨name, content⟩
    have apart := List.nodup_cons.1 distinct
    rcases List.mem_cons.1 member with same | inside
    · cases same
      cases value with
      | none =>
        change Members.find? (members rest) key = none
        exact find?_of_not_mem apart.1
      | some value =>
        change Members.find? ((key, value) :: members rest) key = some value
        rw [Members.find?, if_pos ⟨rfl, present value rfl⟩]
    · have different : name ≠ key := fun same => apart.1 (same ▸ mem_keys_of_mem inside)
      have later := ih apart.2 inside
      cases content with
      | none => exact later
      | some content =>
        change Members.find? ((name, content) :: members rest) key = value
        rw [Members.find?, if_neg fun both => different both.1]
        exact later

theorem find?_append (first second : Fields) :
    (members (first ++ second)).find? key =
      (first.members.find? key).or (second.members.find? key) := by
  rw [members, List.filterMap_append, Members.find?_append]
  rfl

end Fields

/-! ## Scalars -/

/-- An optional text. -/
def textField (key : String) (text : Option String) : String × Option Json := (key, text.map .str)

/-- The word for the kind of a literal. -/
def Literal.word (literal : Literal) : String :=
  match literal.token with
  | .number => "number"
  | .string => "string"
  | .hexString => "hexString"
  | _ => "bool"

def ExternalReference.fields (reference : ExternalReference) : Fields :=
  [("declaration", reference.declaration.map fun id => .int id.toInt),
    ("isOffset", some (.bool reference.isOffset)), ("isSlot", some (.bool reference.isSlot)),
    ("valueSize", some (.int reference.valueSize.toNat)),
    textField "src" (reference.location.map fun location => location.span.text)]

/-- A reference is written as an object with one member, named for what it refers to. -/
def ExternalReference.write (reference : ExternalReference) : Json :=
  .obj [(reference.name, .obj reference.fields.members)]

section Scalars

variable {α : Type}

/-- A function without a body says that it is not implemented. -/
def Declaration.scalars : Declaration α → Fields
  | sourceUnit absolutePath _ => [textField "absolutePath" absolutePath]
  | pragmaDirective _ literals => [("literals", some (.arr (literals.map .str)))]
  | importDirective path unitAlias _ =>
    [("file", some (.str path)), ("unitAlias", some (.str unitAlias))]
  | contractDefinition contract =>
    [("name", some (.str contract.name)), ("contractKind", some (.str contract.kind.text)),
      textField "documentation" contract.documentation]
  | inheritanceSpecifier _ _ => []
  | usingForDirective _ _ => []
  | structDefinition name _ => [("name", some (.str name))]
  | enumDefinition name _ => [("name", some (.str name))]
  | enumValue name => [("name", some (.str name))]
  | parameterList _ => []
  | functionDefinition function =>
    [("name", some (.str function.name)), ("visibility", some (.str function.visibility.text)),
      ("isConstructor", some (.bool function.isConstructor)),
      textField "documentation" function.documentation,
      ("constant", some (.bool function.isDeclaredConst)),
      ("payable", some (.bool function.isPayable)),
      ("implemented", if function.body.isSome then none else some (.bool false))]
  | variableDeclaration declared =>
    [("name", some (.str declared.name)), ("visibility", some (.str declared.visibility.text)),
      ("storageLocation", some (.str declared.storageLocation.text)),
      ("constant", some (.bool declared.isConstant)),
      ("stateVariable", some (.bool declared.isStateVariable)),
      ("indexed", some (.bool declared.isIndexed))]
  | modifierDefinition name documentation _ _ =>
    [("name", some (.str name)), textField "documentation" documentation]
  | modifierInvocation _ _ => []
  | eventDefinition name documentation _ isAnonymous =>
    [("name", some (.str name)), textField "documentation" documentation,
      ("anonymous", some (.bool isAnonymous))]

def TypeName.scalars : TypeName α → Fields
  | elementary type => [("name", some (.str type.text))]
  | userDefined path => [("name", some (.str (TypePath.name path)))]
  | function _ _ visibility isDeclaredConst isPayable =>
    [("visibility", some (.str visibility.text)), ("constant", some (.bool isDeclaredConst)),
      ("payable", some (.bool isPayable))]
  | mapping _ _ => []
  | array _ _ => []

def Statement.scalars : Statement α → Fields
  | inlineAssembly operations references =>
    [("operations", some (.str operations)),
      ("externalReferences", some (.arr (references.map ExternalReference.write)))]
  | _ => []

def Expression.scalars : Expression α → Fields
  | assignment _ operator _ => [("operator", some (.str operator.text))]
  | tuple _ isInlineArray => [("isInlineArray", some (.bool isInlineArray))]
  | unary operator _ isPrefix =>
    [("operator", some (.str operator.text)), ("prefix", some (.bool isPrefix))]
  | binary _ operator _ => [("operator", some (.str operator.text))]
  | functionCall _ _ names => [("names", some (.arr (names.map .str)))]
  | memberAccess _ memberName => [("memberName", some (.str memberName))]
  | identifier name => [("name", some (.str name))]
  | elementaryTypeName type => [("typeName", some (.str type.text))]
  | .literal constant =>
    [("kind", some (.str constant.word)), textField "value" constant.value,
      textField "hexValue" constant.hexValue,
      textField "subdenomination" (constant.denomination.map Token.text)]
  | _ => []

def Shape.scalars : Shape α → Fields
  | declaration shape => shape.scalars
  | typeName shape => shape.scalars
  | statement shape => shape.scalars
  | expression shape => shape.scalars

end Scalars

/-! ## Children -/

/-- What stands in a place, a gap being written as null. -/
def Slot.written : Slot Json → Option Json
  | one child => some child
  | maybe child => child
  | many children => some (.arr children)
  | gapped children => some (.arr (children.map fun child => child.getD .null))

def Part.field (part : Part Json) : String × Option Json := (part.key, part.slot.written)

def SymbolAlias.fields (symbol : SymbolAlias Json) : Fields :=
  [("foreign", some symbol.foreign), textField "local" symbol.localName]

/-- An alias is written with the identifier that it is for. -/
def SymbolAlias.write (symbol : SymbolAlias Json) : Json := .obj symbol.fields.members

/-- The parts whose children are written as they stand.  Those of an import are
written in its aliases. -/
def Shape.plainParts {α : Type} (shape : Shape α) : List (Part α) :=
  shape.parts.filter fun part => part.key ≠ "symbolAliases"

def Shape.childFields : Shape Json → Fields
  | .declaration (.importDirective _ _ aliases) =>
    [("symbolAliases", some (.arr (aliases.map SymbolAlias.write)))]
  | shape => shape.parts.map Part.field

/-- The keys of a node, those of its scalars before those of its parts. -/
def Shape.keys {α : Type} (shape : Shape α) : List String :=
  shape.scalars.keys ++ shape.parts.map Part.key

theorem Shape.keys_childFields (shape : Shape Json) :
    shape.childFields.keys = shape.parts.map Part.key := by
  unfold childFields
  split
  · rfl
  · exact List.map_map

/-- Keys under which no node has a field of its own. -/
def reserved : List String := ["nodeType", "id", "src", "attributes"]

/-- No two fields of a node have one key, and none has a key that is reserved. -/
theorem Shape.nodup_keys {α : Type} (shape : Shape α) : (reserved ++ shape.keys).Nodup := by
  rcases shape with shape | shape | shape | shape <;> cases shape <;>
    simp [reserved, keys, scalars, Fields.keys, textField, parts, Declaration.scalars,
      Declaration.parts, TypeName.scalars, TypeName.parts, Statement.scalars, Statement.parts,
      Expression.scalars, Expression.parts]

theorem Shape.not_mem_reserved {α : Type} {shape : Shape α} {key : String}
    (member : key ∈ shape.keys) : key ∉ reserved :=
  fun inside => (List.nodup_append.1 shape.nodup_keys).2.2 key inside key member rfl

section Apart

variable {shape : Shape Json} {key : String}

theorem Shape.nodup_scalars_childFields (shape : Shape Json) :
    (shape.scalars.keys ++ shape.childFields.keys).Nodup := by
  rw [shape.keys_childFields]
  exact (List.nodup_append.1 shape.nodup_keys).2.1

theorem Shape.nodup_keys_scalars (shape : Shape Json) : shape.scalars.keys.Nodup :=
  (List.nodup_append.1 shape.nodup_scalars_childFields).1

theorem Shape.nodup_keys_childFields (shape : Shape Json) : shape.childFields.keys.Nodup :=
  (List.nodup_append.1 shape.nodup_scalars_childFields).2.1

/-- No key is that of a scalar and of a child. -/
theorem Shape.not_mem_childFields (scalar : key ∈ shape.scalars.keys) :
    key ∉ shape.childFields.keys :=
  fun child => (List.nodup_append.1 shape.nodup_scalars_childFields).2.2 key scalar key child rfl

end Apart

/-- A child never stands under a key that may hold a tag. -/
theorem Shape.key_ne_of_mem_parts {α : Type} {shape : Shape α} {key : String}
    (member : key ∈ shape.parts.map Part.key) : key ≠ "name" ∧ key ≠ "kind" := by
  have each : ∀ key ∈ shape.parts.map Part.key, key ≠ "name" ∧ key ≠ "kind" := by
    rcases shape with shape | shape | shape | shape <;> cases shape <;>
      simp [parts, Declaration.parts, TypeName.parts, Statement.parts, Expression.parts]
  exact each key member

/-! ## Fields of a mapped shape -/

section Map

variable {α β : Type} (f : α → β)

theorem Declaration.scalars_map (shape : Declaration α) :
    (shape.map f).scalars = shape.scalars := by
  cases shape with
  | functionDefinition function =>
    rcases function with ⟨_, _, _, _, _, _, _, _, _, body⟩
    cases body <;> rfl
  | _ => rfl

theorem Shape.scalars_map (shape : Shape α) : (shape.map f).scalars = shape.scalars := by
  cases shape with
  | declaration shape => exact shape.scalars_map f
  | typeName shape => cases shape <;> rfl
  | statement shape => cases shape <;> rfl
  | expression shape => cases shape <;> rfl

theorem Shape.keys_map (shape : Shape α) : (shape.map f).keys = shape.keys := by
  rw [keys, keys, scalars_map, parts_map, List.map_map]
  rfl

theorem Shape.plainParts_map (shape : Shape α) :
    (shape.map f).plainParts = shape.plainParts.map (Part.map f) := by
  rw [plainParts, parts_map, List.filter_map]
  rfl

end Map

theorem Shape.field_mem_childFields {shape : Shape Json} {part : Part Json}
    (member : part ∈ shape.plainParts) : part.field ∈ shape.childFields := by
  rcases List.mem_filter.1 member with ⟨listed, noAliases⟩
  unfold childFields
  split
  · cases List.mem_singleton.1 listed
    cases noAliases
  · exact List.mem_map_of_mem listed

end ContractTree
