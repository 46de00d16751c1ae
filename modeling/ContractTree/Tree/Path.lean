namespace ContractTree

/-!
# Type paths

A contract, a struct or an enum is named by a dotted path.  A name is cut at its
dots into segments, at least one, and joining the segments of a name with dots
gives the name back.  A name that has an empty segment names no type.
-/

namespace TypePath

/-- The runs of characters between the dots of a text. -/
def cut : List Char → List (List Char)
  | [] => [[]]
  | c :: rest =>
    if c = '.' then [] :: cut rest
    else
      match cut rest with
      | [] => [[c]]
      | segment :: segments => (c :: segment) :: segments

def ofName (name : String) : List String := (cut name.toList).map String.ofList

/-- The name that a path spells. -/
def name (path : List String) : String := ".".intercalate path

/-- A path whose segments can be told apart again once they are joined. -/
def Valid (path : List String) : Prop :=
  path ≠ [] ∧ ∀ segment ∈ path, segment ≠ "" ∧ '.' ∉ segment.toList

instance (path : List String) : Decidable (Valid path) :=
  inferInstanceAs (Decidable (_ ∧ _))

end TypePath
end ContractTree
