import ContractTree.Token.Lexeme
import ContractTree.Token.Trivia

namespace ContractTree

/-!
# Texts of one token

Operators, literals and types are each written as a text of their own, and such a
text must hold exactly one token.  Trivia may stand around it.  A text that does
not hold one token is refused at an offset, counted in the bytes of its UTF-8
form: where the first lexeme should have been, or where something follows it.

Offsets are numbers without a bound here.  Offsets of 32 bits, which stay at the
largest such number in what is longer, are the same for every text of less than 2^32
bytes; longer texts are left out.
-/

inductive ScanError where
  /-- The text is trivia only. -/
  | empty
  /-- No lexeme starts at the offset. -/
  | unrecognized (offset : Nat)
  /-- Something other than trivia follows the first token. -/
  | trailing (first : Token) (offset : Nat)
  deriving DecidableEq, Repr

def ScanError.message : ScanError → String
  | empty => "no token found"
  | unrecognized offset => s!"unrecognized input at offset {offset}"
  | trailing first offset => s!"unexpected input at offset {offset} after `{first.text}`"

namespace Token

/-- The number of bytes that a text takes in UTF-8. -/
def byteLength (input : List Char) : Nat :=
  input.foldr (fun c length => c.utf8Size + length) 0

/-- Where in a text what is left of it starts. -/
def offsetOf (input rest : List Char) : Nat :=
  byteLength input - byteLength rest

/-- The only token of a list of characters. -/
def scanChars (input : List Char) : Except ScanError Token :=
  match Trivia.skip input with
  | [] => .error .empty
  | first :: rest =>
    match Lexeme.atStart? (first :: rest) with
    | none => .error (.unrecognized (offsetOf input (first :: rest)))
    | some (token, after) =>
      match Trivia.skip after with
      | [] => .ok token
      | next :: more => .error (.trailing token (offsetOf input (next :: more)))

/-- The only token of a text. -/
def scan (text : String) : Except ScanError Token :=
  scanChars text.toList

end Token
end ContractTree
