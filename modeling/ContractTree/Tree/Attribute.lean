namespace ContractTree

/-!
# Attributes

The properties of a declaration that a document writes as one word out of a fixed
set.  Each has a decoder that accepts these words, case and all, and nothing else.
Only a visibility has two spellings of each word, with and without a capital.
-/

inductive Visibility where
  /-- None was written; the effective one depends on the declaration. -/
  | unspecified
  | «private»
  | internal
  | «public»
  | external
  deriving DecidableEq, Repr

namespace Visibility

def all : List Visibility :=
  [unspecified, «private», internal, «public», external]

def text : Visibility → String
  | unspecified => "default"
  | «private» => "private"
  | internal => "internal"
  | «public» => "public"
  | external => "external"

/-- Reachable from outside of the contract. -/
def isPublic : Visibility → Bool
  | «public» | external => true
  | _ => false

/-- The visibility that a word names, in lower case or with a capital letter. -/
def ofText? (word : String) : Option Visibility :=
  all.find? fun visibility => word = visibility.text || word = visibility.text.capitalize

end Visibility

/-- Where a variable of a reference type keeps its data. -/
inductive StorageLocation where
  | unspecified
  | storage
  | memory
  deriving DecidableEq, Repr

namespace StorageLocation

def all : List StorageLocation := [unspecified, storage, memory]

def text : StorageLocation → String
  | unspecified => "default"
  | storage => "storage"
  | memory => "memory"

def ofText? (word : String) : Option StorageLocation :=
  all.find? fun location => word = location.text

end StorageLocation

inductive ContractKind where
  | contract
  | interface
  | library
  deriving DecidableEq, Repr

namespace ContractKind

def all : List ContractKind := [contract, interface, library]

def text : ContractKind → String
  | contract => "contract"
  | interface => "interface"
  | library => "library"

def ofText? (word : String) : Option ContractKind :=
  all.find? fun kind => word = kind.text

end ContractKind
end ContractTree
