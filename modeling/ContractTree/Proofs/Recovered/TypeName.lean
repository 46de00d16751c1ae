import ContractTree.Form.TypeName
import ContractTree.Proofs.Recovered.Attribute

namespace ContractTree

/-!
# Type names are recovered
-/

namespace Form

variable {id : NodeId} {location : SourceLocation} {node : Node}

/-- The name of a type comes before its description. -/
theorem yields_typeWord (word : String) (field : ("name", some (.str word)) ∈ node.shape.scalars) :
    typeWord.Yields node.Says word := by
  apply Yields.read (.text? (some word) field)
  rfl

theorem recovers_elementaryTypeName {type : ElementaryType} (grammatical : type.Grammatical) :
    elementaryTypeName.Recovers ⟨id, location, .typeName (.elementary type)⟩ := by
  apply Yields.read .location
  simp only [done_bind]
  apply Yields.bind (yields_typeWord type.text (by simp))
  apply Yields.read .id
  simp only [done_bind]
  apply Yields.bind (.lift (Token.resolveElementary_text grammatical))
  rfl

theorem recovers_userDefinedTypeName {path : List String} (valid : TypePath.Valid path) :
    userDefinedTypeName.Recovers ⟨id, location, .typeName (.userDefined path)⟩ := by
  apply Yields.read .location
  apply Yields.read (.text (TypePath.name path) (by simp))
  simp only [done_bind]
  apply Yields.bind (.lift (TypePath.read_name valid))
  apply Yields.read .id
  rfl

theorem recovers_functionTypeName {parameterTypes returnTypes : Node} {visibility : Visibility}
    {isDeclaredConst isPayable : Bool} :
    functionTypeName.Recovers ⟨id, location,
      .typeName (.function parameterTypes returnTypes visibility isDeclaredConst isPayable)⟩ := by
  apply Yields.bind (yields_mutability isDeclaredConst isPayable (by simp) (by simp) (by simp))
  apply Yields.read .id
  apply Yields.read .location
  apply Yields.read (.child parameterTypes (by simp))
  apply Yields.read (.child returnTypes (by simp))
  simp only [done_bind]
  apply Yields.bind (yields_visibility visibility (by simp))
  rfl

theorem recovers_mapping {keyType valueType : Node} :
    mapping.Recovers ⟨id, location, .typeName (.mapping keyType valueType)⟩ := by
  apply Yields.read .id
  apply Yields.read .location
  apply Yields.read (.child keyType (by simp))
  apply Yields.read (.child valueType (by simp))
  rfl

theorem recovers_arrayTypeName {baseType : Node} {length : Option Node} :
    arrayTypeName.Recovers ⟨id, location, .typeName (.array baseType length)⟩ := by
  apply Yields.read .id
  apply Yields.read .location
  apply Yields.read (.child baseType (by simp))
  apply Yields.read (.child? length (by simp))
  rfl

end Form
end ContractTree
