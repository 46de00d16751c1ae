namespace ContractTree

/-!
# Symbols

The punctuation and operators of the contract language.  Each has exactly one
spelling, and no two share one.  `Symbol.all` lists longer spellings before
shorter ones, so the first symbol of the list that a text starts with is the
longest one.
-/

inductive Symbol where
  | leftParen
  | rightParen
  | leftBracket
  | rightBracket
  | leftBrace
  | rightBrace
  | colon
  | semicolon
  | period
  | question
  | arrow
  | assign
  | assignBitOr
  | assignBitXor
  | assignBitAnd
  | assignShiftLeft
  | assignShiftRight
  | assignLogicalShiftRight
  | assignAdd
  | assignSub
  | assignMul
  | assignDiv
  | assignMod
  | comma
  | or
  | and
  | bitOr
  | bitXor
  | bitAnd
  | shiftLeft
  | shiftRight
  | logicalShiftRight
  | add
  | sub
  | mul
  | div
  | mod
  | exp
  | equal
  | notEqual
  | lessThan
  | greaterThan
  | lessThanOrEqual
  | greaterThanOrEqual
  | not
  | bitNot
  | increment
  | decrement
  deriving DecidableEq, Repr

namespace Symbol

def all : List Symbol :=
  [assignLogicalShiftRight,
    assignShiftLeft, assignShiftRight, logicalShiftRight,
    arrow, assignBitOr, assignBitXor, assignBitAnd, assignAdd, assignSub, assignMul, assignDiv,
    assignMod, or, and, shiftLeft, shiftRight, exp, equal, notEqual, lessThanOrEqual,
    greaterThanOrEqual, increment, decrement,
    leftParen, rightParen, leftBracket, rightBracket, leftBrace, rightBrace, colon, semicolon,
    period, question, assign, comma, bitOr, bitXor, bitAnd, add, sub, mul, div, mod, lessThan,
    greaterThan, not, bitNot]

theorem mem_all (symbol : Symbol) : symbol ∈ all := by
  cases symbol <;> decide

/-- The spelling of a symbol. -/
def text : Symbol → String
  | leftParen => "("
  | rightParen => ")"
  | leftBracket => "["
  | rightBracket => "]"
  | leftBrace => "\x7b"
  | rightBrace => "\x7d"
  | colon => ":"
  | semicolon => ";"
  | period => "."
  | question => "?"
  | arrow => "=>"
  | assign => "="
  | assignBitOr => "|="
  | assignBitXor => "^="
  | assignBitAnd => "&="
  | assignShiftLeft => "<<="
  | assignShiftRight => ">>="
  | assignLogicalShiftRight => ">>>="
  | assignAdd => "+="
  | assignSub => "-="
  | assignMul => "*="
  | assignDiv => "/="
  | assignMod => "%="
  | comma => ","
  | or => "||"
  | and => "&&"
  | bitOr => "|"
  | bitXor => "^"
  | bitAnd => "&"
  | shiftLeft => "<<"
  | shiftRight => ">>"
  | logicalShiftRight => ">>>"
  | add => "+"
  | sub => "-"
  | mul => "*"
  | div => "/"
  | mod => "%"
  | exp => "**"
  | equal => "=="
  | notEqual => "!="
  | lessThan => "<"
  | greaterThan => ">"
  | lessThanOrEqual => "<="
  | greaterThanOrEqual => ">="
  | not => "!"
  | bitNot => "~"
  | increment => "++"
  | decrement => "--"

/-- The name of a symbol in diagnostics.  An arithmetic right shift is named for
its sign, `Sar`, and a logical one `Shr`. -/
def label : Symbol → String
  | leftParen => "LParen"
  | rightParen => "RParen"
  | leftBracket => "LBrack"
  | rightBracket => "RBrack"
  | leftBrace => "LBrace"
  | rightBrace => "RBrace"
  | colon => "Colon"
  | semicolon => "Semicolon"
  | period => "Period"
  | question => "Conditional"
  | arrow => "Arrow"
  | assign => "Assign"
  | assignBitOr => "AssignBitOr"
  | assignBitXor => "AssignBitXor"
  | assignBitAnd => "AssignBitAnd"
  | assignShiftLeft => "AssignShl"
  | assignShiftRight => "AssignSar"
  | assignLogicalShiftRight => "AssignShr"
  | assignAdd => "AssignAdd"
  | assignSub => "AssignSub"
  | assignMul => "AssignMul"
  | assignDiv => "AssignDiv"
  | assignMod => "AssignMod"
  | comma => "Comma"
  | or => "Or"
  | and => "And"
  | bitOr => "BitOr"
  | bitXor => "BitXor"
  | bitAnd => "BitAnd"
  | shiftLeft => "Shl"
  | shiftRight => "Sar"
  | logicalShiftRight => "Shr"
  | add => "Add"
  | sub => "Sub"
  | mul => "Mul"
  | div => "Div"
  | mod => "Mod"
  | exp => "Exp"
  | equal => "Equal"
  | notEqual => "NotEqual"
  | lessThan => "LessThan"
  | greaterThan => "GreaterThan"
  | lessThanOrEqual => "LessThanOrEqual"
  | greaterThanOrEqual => "GreaterThanOrEqual"
  | not => "Not"
  | bitNot => "BitNot"
  | increment => "Inc"
  | decrement => "Dec"

/-- Symbols that store into their left operand. -/
def isAssignment : Symbol → Bool
  | assign | assignBitOr | assignBitXor | assignBitAnd | assignShiftLeft | assignShiftRight
  | assignLogicalShiftRight | assignAdd | assignSub | assignMul | assignDiv | assignMod => true
  | _ => false

def isComparison : Symbol → Bool
  | equal | notEqual | lessThan | greaterThan | lessThanOrEqual | greaterThanOrEqual => true
  | _ => false

/-- Symbols that may join two operands.  The comma is one of them. -/
def isBinary : Symbol → Bool
  | comma | or | and | bitOr | bitXor | bitAnd | shiftLeft | shiftRight | logicalShiftRight | add
  | sub | mul | div | mod | exp => true
  | symbol => symbol.isComparison

/-- Symbols that may stand before or after a single operand. -/
def isUnary : Symbol → Bool
  | not | bitNot | increment | decrement | add | sub => true
  | _ => false

/-- The longest symbol that a text starts with. -/
def atStart? (input : List Char) : Option Symbol :=
  all.find? fun symbol => symbol.text.toList.isPrefixOf input

end Symbol
end ContractTree
