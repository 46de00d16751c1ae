import ContractTree.Decimal

namespace ContractTree

/-!
# Elementary types and units

An elementary type is one of the types that the language names by a word of its
own.  Some of these words carry sizes, `uint256`, `bytes32`, `fixed128x18`, and
only certain sizes are legal: a number of bits is a multiple of eight from 8 to
256, a number of bytes is between 1 and 32, and a fixed-point type has at most 80
decimal digits.  A word with any other size, or with a size in another spelling,
is not a type at all.
-/

inductive ElementaryType where
  | int
  | uint
  | sizedInt (bits : Nat)
  | sizedUint (bits : Nat)
  | bytes
  | sizedBytes (count : Nat)
  | byte
  | string
  | address
  | bool
  | fixed
  | ufixed
  | sizedFixed (bits digits : Nat)
  | sizedUfixed (bits digits : Nat)
  deriving DecidableEq, Repr

namespace ElementaryType

def IsBitWidth (bits : Nat) : Prop := 8 ≤ bits ∧ bits ≤ 256 ∧ bits % 8 = 0

instance (bits : Nat) : Decidable (IsBitWidth bits) :=
  inferInstanceAs (Decidable (_ ∧ _))

/-- The sizes of a type are ones that the language has. -/
def Legal : ElementaryType → Prop
  | sizedInt bits | sizedUint bits => IsBitWidth bits
  | sizedBytes count => 1 ≤ count ∧ count ≤ 32
  | sizedFixed bits digits | sizedUfixed bits digits => IsBitWidth bits ∧ digits ≤ 80
  | _ => True

instance (type : ElementaryType) : Decidable type.Legal := by
  cases type <;> unfold Legal <;> infer_instance

/-- The word for a type without sizes. -/
def fixedText? : ElementaryType → Option String
  | int => some "int"
  | uint => some "uint"
  | bytes => some "bytes"
  | byte => some "byte"
  | string => some "string"
  | address => some "address"
  | bool => some "bool"
  | fixed => some "fixed"
  | ufixed => some "ufixed"
  | _ => none

/-- The word for a type, sizes included. -/
def text : ElementaryType → String
  | int => "int"
  | uint => "uint"
  | sizedInt bits => s!"int{bits}"
  | sizedUint bits => s!"uint{bits}"
  | bytes => "bytes"
  | sizedBytes count => s!"bytes{count}"
  | byte => "byte"
  | string => "string"
  | address => "address"
  | bool => "bool"
  | fixed => "fixed"
  | ufixed => "ufixed"
  | sizedFixed bits digits => s!"fixed{bits}x{digits}"
  | sizedUfixed bits digits => s!"ufixed{bits}x{digits}"

/-- The name of a type in diagnostics. -/
def label : ElementaryType → String
  | int => "Int"
  | uint => "UInt"
  | sizedInt bits => s!"IntM({bits})"
  | sizedUint bits => s!"UIntM({bits})"
  | bytes => "Bytes"
  | sizedBytes count => s!"BytesM({count})"
  | byte => "Byte"
  | string => "String"
  | address => "Address"
  | bool => "Bool"
  | fixed => "Fixed"
  | ufixed => "UFixed"
  | sizedFixed bits digits => s!"FixedMxN({bits}, {digits})"
  | sizedUfixed bits digits => s!"UFixedMxN({bits}, {digits})"

/-- What a type is called when its sizes do not matter. -/
def displayName : ElementaryType → String
  | sizedInt _ | sizedUint _ => "sized integer type"
  | sizedBytes _ => "fixed bytes type"
  | sizedFixed _ _ | sizedUfixed _ _ => "sized fixed-point type"
  | type => type.text

/-- The number of bits, or of bytes for a bytes type; zero without a size. -/
def firstSize : ElementaryType → Nat
  | sizedInt bits | sizedUint bits | sizedFixed bits _ | sizedUfixed bits _ => bits
  | sizedBytes count => count
  | _ => 0

/-- The number of decimal digits of a fixed-point type, otherwise zero. -/
def secondSize : ElementaryType → Nat
  | sizedFixed _ digits | sizedUfixed _ digits => digits
  | _ => 0

/-- A size is a numeral of 16 bits without leading zeros. -/
def size? (text : List Char) : Option Nat :=
  if Decimal.IsCanonical text then
    (Decimal.value? text).filter fun number => decide (number < UInt16.size)
  else none

/-- The two sizes of a fixed-point type, which an `x` separates. -/
def sizes? (text : List Char) : Option (Nat × Nat) :=
  match size? (text.takeWhile (· ≠ 'x')), size? ((text.dropWhile (· ≠ 'x')).drop 1) with
  | some bits, some digits => some (bits, digits)
  | _, _ => none

/-- A sized type by its word, whether or not its sizes are legal. -/
def sized? (word : List Char) : Option ElementaryType :=
  match word with
  | 'i' :: 'n' :: 't' :: size => (size? size).map sizedInt
  | 'u' :: 'i' :: 'n' :: 't' :: size => (size? size).map sizedUint
  | 'b' :: 'y' :: 't' :: 'e' :: 's' :: size => (size? size).map sizedBytes
  | 'f' :: 'i' :: 'x' :: 'e' :: 'd' :: sizes =>
    (sizes? sizes).map fun (bits, digits) => sizedFixed bits digits
  | 'u' :: 'f' :: 'i' :: 'x' :: 'e' :: 'd' :: sizes =>
    (sizes? sizes).map fun (bits, digits) => sizedUfixed bits digits
  | _ => none

/-- The sized type that a word names, if its sizes are legal. -/
def ofSizedWord? (word : String) : Option ElementaryType :=
  (sized? word.toList).filter fun type => decide type.Legal

theorem legal_of_ofSizedWord? {word : String} {type : ElementaryType}
    (named : ofSizedWord? word = some type) : type.Legal :=
  of_decide_eq_true (Option.filter_eq_some_iff.1 named).2

end ElementaryType

/-- The units that a number may be counted in. -/
inductive Denomination where
  | wei
  | szabo
  | finney
  | ether
  | second
  | minute
  | hour
  | day
  | week
  | year
  deriving DecidableEq, Repr

namespace Denomination

/-- The word for a unit; units of time are written in the plural. -/
def text : Denomination → String
  | wei => "wei"
  | szabo => "szabo"
  | finney => "finney"
  | ether => "ether"
  | second => "seconds"
  | minute => "minutes"
  | hour => "hours"
  | day => "days"
  | week => "weeks"
  | year => "years"

/-- The name of a unit in diagnostics. -/
def label : Denomination → String
  | wei => "SubWei"
  | szabo => "SubSzabo"
  | finney => "SubFinney"
  | ether => "SubEther"
  | second => "SubSecond"
  | minute => "SubMinute"
  | hour => "SubHour"
  | day => "SubDay"
  | week => "SubWeek"
  | year => "SubYear"

end Denomination
end ContractTree
