import ContractTree.Span
import ContractTree.Token.Symbol
import ContractTree.Token.Keyword
import ContractTree.Token.ElementaryType

namespace ContractTree

/-!
# Tokens

A token is what a lexeme is read as.  Most tokens stand for a single spelling.
The exceptions are the sized types, which stand for one spelling for each size,
and the open classes of numbers, strings and names, whose text a token does not
keep.
-/

inductive Token where
  | symbol (symbol : Symbol)
  | keyword (keyword : Keyword)
  | elementary (type : ElementaryType)
  | denomination (unit : Denomination)
  | boolean (value : Bool)
  | number
  | string
  | hexString
  | identifier
  deriving DecidableEq, Repr

namespace Token

/-- The spelling of a token that has one, sized types aside. -/
def fixedText? : Token → Option String
  | symbol op => some op.text
  | keyword reserved => some reserved.word
  | elementary type => type.fixedText?
  | denomination unit => some unit.text
  | boolean value => some (if value then "true" else "false")
  | _ => none

/-- What a token is called when neither text nor size matters. -/
def displayName : Token → String
  | symbol op => op.text
  | keyword reserved => reserved.word
  | elementary type => type.displayName
  | denomination unit => unit.text
  | boolean value => if value then "true" else "false"
  | number => "number"
  | string => "string literal"
  | hexString => "hex string literal"
  | identifier => "identifier"

/-- The spelling of a token, or the name of its class. -/
def text : Token → String
  | elementary type => type.text
  | token => token.displayName

/-- The name of a token in diagnostics. -/
def label : Token → String
  | symbol op => op.label
  | keyword reserved => reserved.label
  | elementary type => type.label
  | denomination unit => unit.label
  | boolean value => if value then "TrueLiteral" else "FalseLiteral"
  | number => "Number"
  | string => "StringLiteral"
  | hexString => "HexStringLiteral"
  | identifier => "Identifier"

/-- A token as diagnostics show it where it stands. -/
def labelAt (token : Token) (span : Span) : String := s!"{token.label} @ {span.label}"

def isAssignment : Token → Bool
  | symbol op => op.isAssignment
  | _ => false

def isComparison : Token → Bool
  | symbol op => op.isComparison
  | _ => false

def isBinary : Token → Bool
  | symbol op => op.isBinary
  | _ => false

def isUnary : Token → Bool
  | symbol op => op.isUnary
  | keyword reserved => reserved = Keyword.delete
  | _ => false

def elementaryType? : Token → Option ElementaryType
  | elementary type => some type
  | _ => none

def denomination? : Token → Option Denomination
  | denomination unit => some unit
  | _ => none

def isElementary (token : Token) : Bool := token.elementaryType?.isSome

def isDenomination (token : Token) : Bool := token.denomination?.isSome

def isBoolean : Token → Bool
  | boolean _ => true
  | _ => false

/-! ## Words -/

def reserved (word : String) (isReserved : word ∈ reservedWords := by decide) : Token :=
  keyword ⟨word, isReserved⟩

/-- The words of one spelling, by the number of bytes in them, and what they are read as. -/
def wordsOfSize : Nat → List (String × Token)
  | 2 =>
    [("as", reserved "as"), ("do", reserved "do"), ("if", reserved "if"), ("is", reserved "is")]
  | 3 =>
    [("for", reserved "for"), ("hex", reserved "hex"), ("int", elementary .int),
      ("new", reserved "new"), ("var", reserved "var"), ("wei", denomination .wei)]
  | 4 =>
    [("bool", elementary .bool), ("byte", elementary .byte), ("days", denomination .day),
      ("else", reserved "else"), ("emit", reserved "emit"), ("enum", reserved "enum"),
      ("pure", reserved "pure"), ("true", boolean true), ("uint", elementary .uint),
      ("view", reserved "view")]
  | 5 =>
    [("break", reserved "break"), ("bytes", elementary .bytes), ("event", reserved "event"),
      ("false", boolean false), ("fixed", elementary .fixed), ("hours", denomination .hour),
      ("szabo", denomination .szabo), ("throw", reserved "throw"), ("using", reserved "using"),
      ("weeks", denomination .week), ("while", reserved "while"), ("years", denomination .year),
      ("ether", denomination .ether)]
  | 6 =>
    [("delete", keyword .delete), ("finney", denomination .finney),
      ("import", reserved "import"), ("memory", reserved "memory"),
      ("pragma", reserved "pragma"), ("public", reserved "public"),
      ("return", reserved "return"), ("string", elementary .string),
      ("struct", reserved "struct"), ("ufixed", elementary .ufixed)]
  | 7 =>
    [("address", elementary .address), ("indexed", reserved "indexed"),
      ("library", reserved "library"), ("mapping", reserved "mapping"),
      ("minutes", denomination .minute), ("payable", reserved "payable"),
      ("private", reserved "private"), ("returns", reserved "returns"),
      ("seconds", denomination .second), ("storage", reserved "storage")]
  | 8 =>
    [("assembly", reserved "assembly"), ("constant", reserved "constant"),
      ("continue", reserved "continue"), ("contract", reserved "contract"),
      ("external", reserved "external"), ("function", reserved "function"),
      ("internal", reserved "internal"), ("modifier", reserved "modifier")]
  | 9 =>
    [("anonymous", reserved "anonymous"), ("interface", reserved "interface")]
  | _ => []

/-- What a word with a fixed spelling is read as. -/
def lookup? (word : String) : Option Token :=
  (wordsOfSize word.utf8ByteSize).lookup word

/-- The token that a word is read as.  A word with no meaning of its own is a
name. -/
def ofWord (word : String) : Token :=
  match lookup? word with
  | some token => token
  | none =>
  match ElementaryType.ofSizedWord? word with
  | some type => elementary type
  | none => identifier

end Token
end ContractTree
