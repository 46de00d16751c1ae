import ContractTree.Token.Basic

namespace ContractTree

/-!
# Lexemes

The token that a text starts with is the longest one that it starts with, except
that `hex` directly before a quote is never a word: it opens a hexadecimal string,
and where no such string is closed there is no token at all.  The lexer that is
generated from the rules does the same, as it has no way back to the word once it is
behind the quote.

The first character settles which rules can apply, and every rule reads on for as
long as it can, so no alternatives have to be compared:

* a digit starts a number, as does a period before a digit;
* a quote starts a string, and `hex` directly before a quote a hexadecimal one;
* a letter, an underscore or a dollar starts a word;
* everything else is a symbol.

Where a longer token breaks off, a shorter one that is complete is taken instead:
`1e` and `0x` start with the numbers `1` and `0`.  Strings have no shorter form, so an
unfinished string of either sort is no lexeme.  Nor is an opened block comment.
-/

namespace Lexeme

def isHexDigit (c : Char) : Bool :=
  c.isDigit || ('a' ≤ c && c ≤ 'f') || ('A' ≤ c && c ≤ 'F')

def isWordStart (c : Char) : Bool :=
  c.isAlpha || c = '_' || c = '$'

def isWordPart (c : Char) : Bool :=
  c.isAlphanum || c = '_' || c = '$'

def isQuote (c : Char) : Bool :=
  c = '"' || c = '\''

/-- Whether a text starts with a character of some sort. -/
def startsWith (p : Char → Bool) : List Char → Bool
  | c :: _ => p c
  | [] => false

/-- The text behind an exponent, or the whole text if it does not start with one. -/
def afterExponent : List Char → List Char
  | c :: '-' :: rest =>
    if (c = 'e' || c = 'E') && startsWith Char.isDigit rest then rest.dropWhile Char.isDigit
    else c :: '-' :: rest
  | c :: rest =>
    if (c = 'e' || c = 'E') && startsWith Char.isDigit rest then rest.dropWhile Char.isDigit
    else c :: rest
  | [] => []

/-- The text behind a fraction, or the whole text if it does not start with one. -/
def afterFraction : List Char → List Char
  | '.' :: rest =>
    if startsWith Char.isDigit rest then rest.dropWhile Char.isDigit else '.' :: rest
  | rest => rest

/-- The text behind a number that starts with a digit. -/
def afterNumber (input : List Char) : List Char :=
  match input with
  | '0' :: x :: rest =>
    if (x = 'x' || x = 'X') && startsWith isHexDigit rest then rest.dropWhile isHexDigit
    else afterExponent (afterFraction (input.dropWhile Char.isDigit))
  | _ => afterExponent (afterFraction (input.dropWhile Char.isDigit))

/-- The text behind the closing quote of a string.  A backslash takes the next
character with it, and a line feed may stand nowhere. -/
def afterString? (quote : Char) : List Char → Option (List Char)
  | '\\' :: c :: rest => if c = '\n' then none else afterString? quote rest
  | c :: rest =>
    if c = quote then some rest
    else if c = '\n' || c = '\\' then none
    else afterString? quote rest
  | [] => none

/-- The text behind the closing quote of a run of hexadecimal digits. -/
def afterHexString? (quote : Char) (input : List Char) : Option (List Char) :=
  match input.dropWhile isHexDigit with
  | c :: rest => if c = quote then some rest else none
  | [] => none

/-- A word, or a hexadecimal string. -/
def word? (input : List Char) : Option (Token × List Char) :=
  let word := String.ofList (input.takeWhile isWordPart)
  match input.dropWhile isWordPart with
  | c :: rest =>
    if word = "hex" && isQuote c then
      (afterHexString? c rest).map fun after => (Token.hexString, after)
    else some (Token.ofWord word, c :: rest)
  | [] => some (Token.ofWord word, [])

/-- A symbol; what opens a block comment is none. -/
def symbol? (input : List Char) : Option (Token × List Char) :=
  match input with
  | '/' :: '*' :: _ => none
  | _ =>
    (Symbol.atStart? input).map fun symbol =>
      (Token.symbol symbol, input.drop symbol.text.length)

/-- The token that a text starts with, and the text behind its lexeme. -/
def atStart? : List Char → Option (Token × List Char)
  | [] => none
  | c :: rest =>
    if c.isDigit then some (.number, afterNumber (c :: rest))
    else if c = '.' && startsWith Char.isDigit rest then
      some (.number, afterExponent (rest.dropWhile Char.isDigit))
    else if isQuote c then (afterString? c rest).map fun after => (Token.string, after)
    else if isWordStart c then word? (c :: rest)
    else symbol? (c :: rest)

end Lexeme
end ContractTree
