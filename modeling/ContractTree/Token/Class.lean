import ContractTree.Token.Basic

namespace ContractTree

/-!
# Token classes

A document writes operators, literals and types as text, and each place admits
only some tokens.  A class names those tokens and says what they are called when
another one stands in their place.
-/

inductive TokenClass where
  | assignment
  | binary
  | unary
  | denomination
  | boolean
  | elementary
  deriving DecidableEq, Repr

namespace TokenClass

def description : TokenClass → String
  | assignment => "an assignment operator"
  | binary => "a binary operator"
  | unary => "a unary operator"
  | denomination => "a subdenomination"
  | boolean => "`true` or `false`"
  | elementary => "an elementary type"

def accepts : TokenClass → Token → Bool
  | assignment => Token.isAssignment
  | binary => Token.isBinary
  | unary => Token.isUnary
  | denomination => Token.isDenomination
  | boolean => Token.isBoolean
  | elementary => Token.isElementary

end TokenClass
end ContractTree
