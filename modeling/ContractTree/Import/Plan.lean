import ContractTree.Document.Node
import ContractTree.Tree.Node

namespace ContractTree

/-!
# Plans

Converting a document node alternates between reading its fields and converting
its children, and how it goes on may depend on what a child was converted to.  A
plan is such a conversion with the work on the children left open: it asks for one
child after the other, each by its value, until it has a result or fails.

Every value that a plan asks for nests less deeply than its bound.  A plan says
nothing about how a child is converted, and so nothing about depth limits or about
identifiers that occur twice.
-/

/-- A computation that may ask for the nodes of values of less than some height. -/
inductive Plan (bound : Nat) (α : Type) where
  | done (result : α)
  | fail (cause : ImportError)
  | convert (value : Json) (smaller : value.height < bound) (next : Node → Plan bound α)

namespace Plan

variable {bound : Nat} {α β : Type}

def bind : Plan bound α → (α → Plan bound β) → Plan bound β
  | done result, next => next result
  | fail cause, _ => fail cause
  | convert value smaller rest, next => convert value smaller fun node => (rest node).bind next

/-- A step for each item of a list in turn, the results of earlier items being kept
last first. -/
def each : (items : List Json) → (∀ item ∈ items, item.height < bound) →
    ((item : Json) → item.height < bound → Plan bound α) → List α → Plan bound (List α)
  | [], _, _, results => done results.reverse
  | item :: rest, smaller, step, results =>
    (step item (smaller item (List.mem_cons_self ..))).bind fun result =>
      each rest (fun later member => smaller later (List.mem_cons_of_mem _ member)) step
        (result :: results)

/-- Carries a plan out, given how to convert a value. -/
def run {m : Type → Type} [Monad m] [MonadExceptOf ImportError m]
    (convertValue : (value : Json) → value.height < bound → m Node) : Plan bound α → m α
  | done result => pure result
  | fail cause => throw cause
  | convert value smaller next => do
    let node ← convertValue value smaller
    (next node).run convertValue

end Plan
end ContractTree
