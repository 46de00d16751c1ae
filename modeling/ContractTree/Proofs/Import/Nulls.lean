import ContractTree.Proofs.Document.Grouping
import ContractTree.Proofs.Import.Edits
import ContractTree.Tree.Equality

namespace ContractTree

/-!
# Null members

A null says as much as nothing.  Wherever a field is looked up by its key, on a node or
among its attributes, in an alias or in what is said of a reference, a member that is null
is passed over, and a value further down is found that it seems to hide.  So members that
are null may be left out or put in, at any depth of a document and in as many objects as
one likes, and nothing comes of it.

Nulls in lists are not members, and they do say something.
-/

/-- Whether fields are looked up by their keys in an object of a role. -/
def Role.hasFields : Role → Bool
  | of .node | of (.attributes _) | of .symbolAlias | info => true
  | _ => false

/-- The members of an object with fields before and after some that are null are left out
and others are put in. -/
structure Role.NullsApart (role : Role) (before after : Members) : Prop where
  hasFields : role.hasFields = true
  present_eq : after.present = before.present

/-- Nulls are not noticed. -/
theorem Role.NullsApart.unnoticed {role : Role} {before after : Members}
    (apart : role.NullsApart before after) : role.Unnoticed before after := by
  have same : ∀ key, after.find? key = before.find? key := by
    intro key
    rw [← after.find?_present, apart.present_eq, before.find?_present]
  have agrees : ∀ keys, before.AgreeOn keys after := fun _ key _ => same key
  have attributes : after.attributes = before.attributes := by
    rw [Members.attributes, same, Members.attributes]
  cases role with
  | info => exact agrees _
  | references | reference => cases apart.hasFields
  | of position =>
    cases position with
    | node =>
      refine ⟨TagKey.resolve_congr (fun tagKey => ?_) ?_, fun kind _ => ⟨agrees _, ?_⟩⟩
      · rw [TagKey.string?, same, TagKey.string?]
      · rw [TagKey.idBeside?, same, TagKey.idBeside?]
      · rw [attributes]
        exact fun _ _ => rfl
    | attributes kind => exact fun _ _ => agrees _
    | symbolAlias => exact agrees _
    | plain | nodes | symbolAliases => cases apart.hasFields

/-- Whichever members that are null are left out of the nodes of a document, of their
attributes, of aliases and of what is said of references, and whichever are put in, the
document is imported with the same result, be it a tree or an error. -/
theorem importUnit_nulls (settings : Settings) {document other : Json}
    (apart : Relation.ReflTransGen (Json.Edited Role.NullsApart .node) document other) :
    importUnit settings other = importUnit settings document :=
  importUnit_edits settings (fun _ _ _ => Role.NullsApart.unnoticed) apart

/-! ## A unit with nulls of all sorts -/

/-- An import with some members of its own, among its attributes, and in its alias. -/
def sparseDirective (own among aliased : Members) : Json :=
  .obj (own ++ [("nodeType", .str "ImportDirective"), ("id", .int 2), ("src", .str "0:20"),
    ("attributes", .obj (among ++ [("file", .str "b.sol")])),
    ("symbolAliases", .arr [.obj (aliased ++ [("foreign", .str "A")])])])

/-- Inline assembly with something said of a reference. -/
def sparseAssembly (said : Members) : Json :=
  .obj [("nodeType", .str "InlineAssembly"), ("id", .int 3), ("src", .str "20:60"),
    ("operations", .str "{ x := 1 }"),
    ("externalReferences", .arr [.obj [("x", .obj (said ++ [("declaration", .int 9)]))]])]

def sparseUnit (directive assembly : Json) : Json :=
  .obj [("nodeType", .str "SourceUnit"), ("id", .int 1), ("src", .str "0:80"),
    ("nodes", .arr [directive, assembly])]

def sparseTree : Node :=
  ⟨1, ⟨"a.sol", ⟨0, 80⟩⟩, .declaration (.sourceUnit none [
    ⟨2, ⟨"a.sol", ⟨0, 20⟩⟩, .declaration (.importDirective "b.sol" "" [
      ⟨⟨2, ⟨"a.sol", ⟨0, 20⟩⟩, .expression (.identifier "A")⟩, none⟩])⟩,
    ⟨3, ⟨"a.sol", ⟨20, 60⟩⟩, .statement (.inlineAssembly "{ x := 1 }" [
      ⟨"x", some 9, false, false, 1, none⟩])⟩])⟩

/-- An import whose file is null where it is looked up first, and more nulls around it. -/
def nullUnit : Json :=
  sparseUnit
    (sparseDirective [("file", .null), ("attributes", .null)] [("unitAlias", .null)]
      [("local", .null)])
    (sparseAssembly [("valueSize", .null), ("src", .null)])

def solidUnit : Json := sparseUnit (sparseDirective [] [] []) (sparseAssembly [])

/-- The nulls are left out of one object after the other. -/
theorem nullUnit_nullsApart :
    Relation.ReflTransGen (Json.Edited Role.NullsApart .node) nullUnit solidUnit := by
  have inUnit : ∀ {front back : List Json} {before after : Json},
      Json.Edited Role.NullsApart .node before after →
        Json.Edited Role.NullsApart .node
          (.obj [("nodeType", .str "SourceUnit"), ("id", .int 1), ("src", .str "0:80"),
            ("nodes", .arr (front ++ before :: back))])
          (.obj [("nodeType", .str "SourceUnit"), ("id", .int 1), ("src", .str "0:80"),
            ("nodes", .arr (front ++ after :: back))]) :=
    fun inner => .member [("nodeType", .str "SourceUnit"), ("id", .int 1), ("src", .str "0:80")] []
      (.item _ _ inner)
  have own : Json.Edited Role.NullsApart .node
      (sparseDirective [("file", .null), ("attributes", .null)] [("unitAlias", .null)]
        [("local", .null)])
      (sparseDirective [] [("unitAlias", .null)] [("local", .null)]) :=
    .here ⟨rfl, rfl⟩
  have among : Json.Edited Role.NullsApart .node
      (sparseDirective [] [("unitAlias", .null)] [("local", .null)])
      (sparseDirective [] [] [("local", .null)]) :=
    .member [("nodeType", .str "ImportDirective"), ("id", .int 2), ("src", .str "0:20")]
      [("symbolAliases", .arr [.obj [("local", .null), ("foreign", .str "A")]])] (.here ⟨rfl, rfl⟩)
  have aliased : Json.Edited Role.NullsApart .node
      (sparseDirective [] [] [("local", .null)]) (sparseDirective [] [] []) :=
    .member [("nodeType", .str "ImportDirective"), ("id", .int 2), ("src", .str "0:20"),
      ("attributes", .obj [("file", .str "b.sol")])] [] (.item [] [] (.here ⟨rfl, rfl⟩))
  have said : Json.Edited Role.NullsApart .node
      (sparseAssembly [("valueSize", .null), ("src", .null)]) (sparseAssembly []) :=
    .member [("nodeType", .str "InlineAssembly"), ("id", .int 3), ("src", .str "20:60"),
      ("operations", .str "{ x := 1 }")] [] (.item [] [] (.member [] [] (.here ⟨rfl, rfl⟩)))
  have withoutOwn : Relation.ReflTransGen (Json.Edited Role.NullsApart .node) nullUnit _ :=
    .tail .refl (@inUnit [] _ _ _ own)
  have withoutAmong := withoutOwn.tail (@inUnit [] _ _ _ among)
  have withoutAliased := withoutAmong.tail (@inUnit [] _ _ _ aliased)
  exact withoutAliased.tail (@inUnit [_] [] _ _ said)

/-- With or without its nulls the unit is imported as the same tree. -/
theorem importUnit_nulls_nullUnit :
    importUnit { source := "a.sol" } solidUnit = .ok sparseTree ∧
      importUnit { source := "a.sol" } nullUnit = .ok sparseTree := by
  have imported : importUnit { source := "a.sol" } solidUnit = .ok sparseTree := by
    decide +kernel
  exact ⟨imported, (importUnit_nulls _ nullUnit_nullsApart).symm.trans imported⟩

end ContractTree
