import ContractTree.Tree.Node
import ContractTree.Import.Error

namespace ContractTree

/-!
# Forms

For each kind of node there is a form: the fields that are read of a document node
of the kind, one after the other, and the node that they make.  Which field comes
next may depend on what earlier ones hold.  The order matters, since the first
defect that is met is the one that is reported.

A form mentions neither layout nor source, nor does it touch the document.  It is
a list of questions, and what answers them is defined elsewhere.
-/

/-- A question about a document node. -/
inductive Field where
  /-- The identifier, which must be there. -/
  | id
  /-- The identifier, or zero if there is no integral one. -/
  | idOrZero
  /-- The location, which must be there. -/
  | location
  /-- The location, or that of the whole source. -/
  | locationOrWhole
  | text (key : String)
  | text? (key : String)
  | flag (key : String)
  | flag? (key : String)
  | documentation
  /-- The type in the type description. -/
  | typeString
  /-- The type that stands as a text under `typeName`. -/
  | typeText
  | texts (key : String)
  /-- Whether anything stands under a key. -/
  | holds (key : String)
  /-- Whether an object stands under a key. -/
  | holdsObject (key : String)
  | references
  | child (key : String) (category : Category)
  | child? (key : String) (category : Category)
  | children (key : String) (category : Category)
  /-- A list of children in which a null stands for a gap. -/
  | gappedChildren (key : String) (category : Category)
  /-- A child that is an elementary type name, of which only the type is kept. -/
  | elementaryChild (key : String)
  /-- Aliases, each of a name or of an identifier that is a node. -/
  | aliases
  deriving DecidableEq, Repr

/-- What a question is answered with. -/
abbrev Field.Answer : Field → Type
  | id => NodeId
  | idOrZero => NodeId
  | location => SourceLocation
  | locationOrWhole => SourceLocation
  | text _ => String
  | text? _ => Option String
  | flag _ => Bool
  | flag? _ => Option Bool
  | documentation => Option String
  | typeString => Option String
  | typeText => String
  | texts _ => List String
  | holds _ => Bool
  | holdsObject _ => Bool
  | references => List ExternalReference
  | child _ _ => Node
  | child? _ _ => Option Node
  | children _ _ => List Node
  | gappedChildren _ _ => List (Option Node)
  | elementaryChild _ => ElementaryType
  | aliases => List (SymbolAlias (String ⊕ Node))

inductive Form (α : Type) where
  | done (result : α)
  | fail (defect : Defect)
  | read (field : Field) (next : field.Answer → Form α)

namespace Form

variable {α β : Type}

def bind : Form α → (α → Form β) → Form β
  | done result, next => next result
  | fail defect, _ => fail defect
  | read field rest, next => read field fun answer => (rest answer).bind next

instance : Monad Form where
  pure := done
  bind := bind

theorem bind_done (form : Form α) : form.bind done = form := by
  induction form with
  | done result => rfl
  | fail defect => rfl
  | read field rest ih => exact congrArg (read field) (funext ih)

theorem bind_assoc {γ : Type} (form : Form α) (next : α → Form β) (last : β → Form γ) :
    (form.bind next).bind last = form.bind fun result => (next result).bind last := by
  induction form with
  | done result => rfl
  | fail defect => rfl
  | read field rest ih => exact congrArg (read field) (funext ih)

instance : LawfulMonad Form :=
  LawfulMonad.mk' Form (fun form => bind_done form) (fun _ _ => rfl)
    (fun form next last => bind_assoc form next last)

/-- A question and its answer. -/
def ask (field : Field) : Form field.Answer := read field done

/-- The result of looking at an answer. -/
def ofChecked : Except Defect α → Form α
  | .ok result => done result
  | .error defect => fail defect

instance : MonadLift (Except Defect) Form := ⟨ofChecked⟩

def id : Form NodeId := ask .id
def location : Form SourceLocation := ask .location
def text (key : String) : Form String := ask (.text key)
def text? (key : String) : Form (Option String) := ask (.text? key)
def flag (key : String) : Form Bool := ask (.flag key)
def flag? (key : String) : Form (Option Bool) := ask (.flag? key)

/-- A flag that is false unless it says otherwise. -/
def flagOrFalse (key : String) : Form Bool := (flag? key).bind fun answer => done (answer.getD false)

def documentation : Form (Option String) := ask .documentation
def texts (key : String) : Form (List String) := ask (.texts key)
def holds (key : String) : Form Bool := ask (.holds key)

def child (key : String) (category : Category) : Form Node := ask (.child key category)

def child? (key : String) (category : Category) : Form (Option Node) :=
  ask (.child? key category)

def children (key : String) (category : Category) : Form (List Node) :=
  ask (.children key category)

def gappedChildren (key : String) (category : Category) : Form (List (Option Node)) :=
  ask (.gappedChildren key category)

end Form
end ContractTree
