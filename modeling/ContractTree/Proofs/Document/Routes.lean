import ContractTree.Proofs.Document.Sites

namespace ContractTree

/-!
# Routes through a document

A route leads from the root of a document to a place of a node below it, and says at
each node which place comes next, in the order of traversal.  What stands at the end of
a route can be replaced, and everything else in the document stays as it is.
-/

namespace Json

/-- The place at the end of a route, with the node that has it. -/
def siteAt? (layout : FieldLayout) : List Nat → Json → Option (DocumentNode × Site)
  | [], _ => none
  | index :: route, value =>
    match DocumentNode.ofJson? value with
    | .error _ => none
    | .ok document =>
      match (document.sites layout)[index]? with
      | none => none
      | some site =>
        if route = [] then some (document, site)
        else site.place.value?.bind (siteAt? layout route)

/-- A document with another value in the place at the end of a route. -/
def putAt (layout : FieldLayout) : List Nat → Json → Json → Json
  | [], _, new => new
  | index :: route, value, new =>
    match DocumentNode.ofJson? value with
    | .error _ => value
    | .ok document =>
      match (document.sites layout)[index]? with
      | none => value
      | some site =>
        match site.place.value? with
        | none => value
        | some inner => (document.put site.seat (inner.putAt layout route new)).toJson

variable {layout : FieldLayout} {index : Nat} {route : List Nat} {value new : Json}
  {parent : DocumentNode} {site : Site}

theorem siteAt?_cons (position : value.siteAt? layout (index :: route) = some (parent, site)) :
    ∃ document here, DocumentNode.ofJson? value = .ok document ∧
      (document.sites layout)[index]? = some here ∧
      ((route = [] ∧ parent = document ∧ site = here) ∨
        (route ≠ [] ∧ ∃ inner, here.place.value? = some inner ∧
          inner.siteAt? layout route = some (parent, site))) := by
  rw [siteAt?] at position
  split at position
  · cases position
  · next document read =>
    split at position
    · cases position
    · next here found =>
      refine ⟨document, here, read, found, ?_⟩
      split at position
      · next last =>
        cases position
        exact .inl ⟨last, rfl, rfl⟩
      · next more =>
        rcases Option.bind_eq_some_iff.1 position with ⟨inner, stands, inside⟩
        exact .inr ⟨more, inner, stands, inside⟩

theorem siteAt?_here {document : DocumentNode} {here : Site}
    (read : DocumentNode.ofJson? value = .ok document)
    (found : (document.sites layout)[index]? = some here) :
    value.siteAt? layout [index] = some (document, here) := by
  rw [siteAt?, read]
  simp only [found, if_true]

theorem siteAt?_below {document : DocumentNode} {here : Site} {inner : Json}
    (read : DocumentNode.ofJson? value = .ok document)
    (found : (document.sites layout)[index]? = some here)
    (stands : here.place.value? = some inner)
    (position : inner.siteAt? layout route = some (parent, site)) :
    value.siteAt? layout (index :: route) = some (parent, site) := by
  have more : route ≠ [] := by
    rintro rfl
    cases position
  rw [siteAt?, read]
  simp only [found, if_neg more, stands, Option.bind_some, position]

theorem putAt_cons {document : DocumentNode} {here : Site} {inner : Json}
    (read : DocumentNode.ofJson? value = .ok document)
    (found : (document.sites layout)[index]? = some here)
    (stands : here.place.value? = some inner) :
    value.putAt layout (index :: route) new =
      (document.put here.seat (inner.putAt layout route new)).toJson := by
  rw [putAt, read]
  simp only [found, stands]

/-- With an object put into a place, an object is an object. -/
theorem isObject_putAt (object : new.isObject = true) (wasObject : value.isObject = true) :
    (value.putAt layout route new).isObject = true := by
  cases route with
  | nil => exact object
  | cons index route =>
    rw [putAt]
    split
    · exact wasObject
    · split
      · exact wasObject
      · split
        · exact wasObject
        · rfl

end Json

end ContractTree
