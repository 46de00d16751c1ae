import ContractTree.Json.Basic

namespace ContractTree
namespace Json

/-!
# The words of JSON text

A JSON text is a sequence of brackets, separators, strings and plain scalars with
blanks between them.  This module cuts a text into that sequence.  It settles
everything that depends on single characters: the escapes of strings, with pairs
of surrogates joined into one character, and the form of a number.

A number is an integer when its literal has neither a fraction nor an exponent,
however many digits it has.  The one exception is `-0`, which denotes no integer
here.
-/

/-- A smallest meaningful piece of JSON text. -/
inductive Lexeme where
  | openArray
  | closeArray
  | openObject
  | closeObject
  | comma
  | colon
  | text (value : String)
  /-- A null, a boolean or a number. -/
  | scalar (value : Json)

namespace Lexeme

def isBlank (c : Char) : Bool :=
  c = ' ' || c = '\t' || c = '\n' || c = '\r'

/-- The value of a hexadecimal digit of either case. -/
def hexDigit? (c : Char) : Option Nat :=
  if c.isDigit then some (c.toNat - '0'.toNat)
  else if 'a' ≤ c ∧ c ≤ 'f' then some (c.toNat - 'a'.toNat + 10)
  else if 'A' ≤ c ∧ c ≤ 'F' then some (c.toNat - 'A'.toNat + 10)
  else none

/-- The number that four hexadecimal digits write. -/
def unit? (a b c d : Char) : Option Nat := do
  return 4096 * (← hexDigit? a) + 256 * (← hexDigit? b) + 16 * (← hexDigit? c) + (← hexDigit? d)

/-- The character of a one-letter escape. -/
def escape? : Char → Option Char
  | '"' => some '"'
  | '\\' => some '\\'
  | '/' => some '/'
  | 'b' => some '\x08'
  | 'f' => some '\x0c'
  | 'n' => some '\n'
  | 'r' => some '\r'
  | 't' => some '\t'
  | _ => none

def isHighSurrogate (unit : Nat) : Bool := 0xD800 ≤ unit && unit < 0xDC00

def isLowSurrogate (unit : Nat) : Bool := 0xDC00 ≤ unit && unit < 0xE000

/-- The character beyond the first plane that two surrogates stand for. -/
def join (high low : Nat) : Char :=
  Char.ofNat (0x10000 + (high - 0xD800) * 0x400 + (low - 0xDC00))

/-- Reads a string from behind its opening quote.  The characters read so far are
kept last first; the answer holds the text behind the closing quote too. -/
def string? : List Char → List Char → Option (String × List Char)
  | '"' :: rest, done => some (String.ofList done.reverse, rest)
  | '\\' :: 'u' :: a :: b :: c :: d :: '\\' :: 'u' :: e :: f :: g :: h :: rest, done =>
    match unit? a b c d with
    | none => none
    | some unit =>
      if isHighSurrogate unit then
        match unit? e f g h with
        | none => none
        | some low => if isLowSurrogate low then string? rest (join unit low :: done) else none
      else if isLowSurrogate unit then none
      else string? ('\\' :: 'u' :: e :: f :: g :: h :: rest) (Char.ofNat unit :: done)
  | '\\' :: 'u' :: a :: b :: c :: d :: rest, done =>
    match unit? a b c d with
    | none => none
    | some unit =>
      if isHighSurrogate unit || isLowSurrogate unit then none
      else string? rest (Char.ofNat unit :: done)
  | '\\' :: c :: rest, done =>
    match escape? c with
    | none => none
    | some character => string? rest (character :: done)
  | c :: rest, done => if c < ' ' then none else string? rest (c :: done)
  | [], _ => none

theorem string?_shorter {input done : List Char} {value : String} {rest : List Char}
    (read : string? input done = some (value, rest)) : rest.length < input.length := by
  fun_induction string? input done <;> simp_all only [reduceCtorEq, List.length_cons,
    Option.some.injEq, Prod.mk.injEq, forall_const] <;> omega

/-- An exponent, with its letter, or nothing. -/
def isExponent : List Char → Bool
  | [] => true
  | e :: '+' :: digits => (e = 'e' || e = 'E') && !digits.isEmpty && digits.all Char.isDigit
  | e :: '-' :: digits => (e = 'e' || e = 'E') && !digits.isEmpty && digits.all Char.isDigit
  | e :: digits => (e = 'e' || e = 'E') && !digits.isEmpty && digits.all Char.isDigit

/-- What may follow the integral digits of a number. -/
def isTail : List Char → Bool
  | '.' :: rest =>
    !(rest.takeWhile Char.isDigit).isEmpty && isExponent (rest.dropWhile Char.isDigit)
  | rest => isExponent rest

/-- The integer of some digits with a sign; `-0` is none. -/
def integer (negative : Bool) (magnitude : Nat) : Json :=
  if negative then
    if magnitude = 0 then .decimal "-0" else .int (-(magnitude : Int))
  else .int magnitude

/-- The value of a number literal, or of one of the three constants. -/
def scalar? (literal : List Char) : Option Json :=
  let negative := literal.head? = some '-'
  let unsigned := if negative then literal.drop 1 else literal
  let digits := unsigned.takeWhile Char.isDigit
  let tail := unsigned.dropWhile Char.isDigit
  if literal = "null".toList then some .null
  else if literal = "true".toList then some (.bool true)
  else if literal = "false".toList then some (.bool false)
  else if digits.isEmpty || (digits.head? = some '0' && digits.length ≠ 1) then none
  else if tail.isEmpty then some (integer negative (Nat.ofDigitChars 10 digits 0))
  else if isTail tail then some (.decimal (String.ofList literal))
  else none

/-- The characters that numbers and constants are made of. -/
def isScalarChar (c : Char) : Bool :=
  c.isAlphanum || c = '-' || c = '+' || c = '.'

theorem length_dropWhile_le (p : Char → Bool) (input : List Char) :
    (input.dropWhile p).length ≤ input.length :=
  (List.dropWhile_sublist p).length_le

/-- Cuts a text into its lexemes, those found so far being kept last first. -/
def cut (input : List Char) (done : List Lexeme) : Option (List Lexeme) :=
  match input with
  | [] => some done.reverse
  | '[' :: rest => cut rest (openArray :: done)
  | ']' :: rest => cut rest (closeArray :: done)
  | '{' :: rest => cut rest (openObject :: done)
  | '}' :: rest => cut rest (closeObject :: done)
  | ',' :: rest => cut rest (comma :: done)
  | ':' :: rest => cut rest (colon :: done)
  | '"' :: rest =>
    match _read : string? rest [] with
    | none => none
    | some (value, after) => cut after (text value :: done)
  | c :: rest =>
    if isBlank c then cut rest done
    else if isScalarChar c then
      match scalar? (c :: rest.takeWhile isScalarChar) with
      | none => none
      | some value => cut (rest.dropWhile isScalarChar) (scalar value :: done)
    else none
termination_by input.length
decreasing_by
  all_goals simp only [List.length_cons]
  all_goals first
    | omega
    | exact Nat.lt_succ_of_lt (string?_shorter _read)
    | exact Nat.lt_succ_of_le (length_dropWhile_le _ _)

end Lexeme
end Json
end ContractTree
