namespace ContractTree

/-!
# Keywords

The reserved words that are neither types, nor literals, nor units.  A keyword is
its own spelling, and its name in diagnostics is that spelling with a capital
first letter.
-/

/-- The reserved words, `delete` among them although it acts as an operator. -/
def reservedWords : List String :=
  ["delete", "anonymous", "as", "assembly", "break", "constant", "continue", "contract", "do",
    "else", "emit", "enum", "event", "external", "for", "function", "hex", "if", "import",
    "indexed", "interface", "internal", "is", "library", "mapping", "memory", "modifier", "new",
    "payable", "pragma", "private", "public", "pure", "return", "returns", "storage", "struct",
    "throw", "using", "var", "view", "while"]

structure Keyword where
  word : String
  isReserved : word ∈ reservedWords
  deriving DecidableEq, Repr

namespace Keyword

/-- The one keyword that is an operator. -/
def delete : Keyword := ⟨"delete", by decide⟩

def label (keyword : Keyword) : String := keyword.word.capitalize

end Keyword
end ContractTree
