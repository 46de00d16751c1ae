import ContractTree.Proofs.Token.Decimal
import ContractTree.Proofs.Token.Spelling

namespace ContractTree

/-!
# The sizes in the words of types

It is said here which sizes the types of the language have.  A word is read as a sized type
if it is the one that is written for the type, sizes in numerals without leading zeros
included, and no other word is.

Words that only look like those of sized types have a size that is left out, that has a
leading zero, or that is no size of the language, however large the number is.  None of
them is the word of a legal type.
-/

namespace ElementaryType

open Lexeme (Digit Several)

variable {type : ElementaryType}

/-! ## The sizes that types have -/

/-- A multiple of eight from 8 to 256. -/
def BitSize (bits : Nat) : Prop := 8 ∣ bits ∧ 8 ≤ bits ∧ bits ≤ 256

def ByteSize (count : Nat) : Prop := 1 ≤ count ∧ count ≤ 32

def DigitSize (digits : Nat) : Prop := digits ≤ 80

instance (bits : Nat) : Decidable (BitSize bits) := inferInstanceAs (Decidable (_ ∧ _))

instance (count : Nat) : Decidable (ByteSize count) := inferInstanceAs (Decidable (_ ∧ _))

instance (digits : Nat) : Decidable (DigitSize digits) := inferInstanceAs (Decidable (_ ≤ _))

/-- The sized types that the language has. -/
inductive Sized : ElementaryType → Prop where
  | int {bits : Nat} (bitSize : BitSize bits) : Sized (.sizedInt bits)
  | uint {bits : Nat} (bitSize : BitSize bits) : Sized (.sizedUint bits)
  | bytes {count : Nat} (byteSize : ByteSize count) : Sized (.sizedBytes count)
  | fixed {bits digits : Nat} (bitSize : BitSize bits) (digitSize : DigitSize digits) :
    Sized (.sizedFixed bits digits)
  | ufixed {bits digits : Nat} (bitSize : BitSize bits) (digitSize : DigitSize digits) :
    Sized (.sizedUfixed bits digits)

theorem isBitWidth_iff {bits : Nat} : IsBitWidth bits ↔ BitSize bits := by
  unfold IsBitWidth BitSize
  omega

theorem sized_iff : Sized type ↔ type.fixedText? = none ∧ type.Legal := by
  constructor
  · intro sized
    cases sized with
    | int bitSize | uint bitSize => exact ⟨rfl, isBitWidth_iff.2 bitSize⟩
    | bytes byteSize => exact ⟨rfl, byteSize⟩
    | fixed bitSize digitSize | ufixed bitSize digitSize =>
      exact ⟨rfl, isBitWidth_iff.2 bitSize, digitSize⟩
  · rintro ⟨sized, legal⟩
    cases type with
    | sizedInt => exact .int (isBitWidth_iff.1 legal)
    | sizedUint => exact .uint (isBitWidth_iff.1 legal)
    | sizedBytes => exact .bytes legal
    | sizedFixed => exact .fixed (isBitWidth_iff.1 legal.1) legal.2
    | sizedUfixed => exact .ufixed (isBitWidth_iff.1 legal.1) legal.2
    | _ => cases sized

/-! ## Words of types -/

theorem toList_toString_of_size? {text : List Char} {number : Nat}
    (read : size? text = some number) : (toString number).toList = text := by
  rcases size?_eq_some_iff.1 read with ⟨writes, canonical, _⟩
  exact (writes.eq_toString canonical).symm

theorem eq_of_sizes? {text : List Char} {bits digits : Nat}
    (read : sizes? text = some (bits, digits)) :
    (toString bits).toList ++ 'x' :: (toString digits).toList = text := by
  unfold sizes? at read
  split at read
  · next bits digits readBits readDigits =>
    cases read
    rw [toList_toString_of_size? readBits, toList_toString_of_size? readDigits]
    exact (Lexeme.append_separator (size?_eq_some_iff.1 readDigits).1.ne_nil).symm
  · cases read

/-- A word that is read as a sized type is the one that spells the type. -/
theorem toList_text_of_sized? {word : List Char} (named : sized? word = some type) :
    type.text.toList = word := by
  rw [toList_text]
  unfold sized? at named
  split at named
  · rcases Option.map_eq_some_iff.1 named with ⟨bits, read, rfl⟩
    exact congrArg (stem int ++ ·) (toList_toString_of_size? read)
  · rcases Option.map_eq_some_iff.1 named with ⟨bits, read, rfl⟩
    exact congrArg (stem uint ++ ·) (toList_toString_of_size? read)
  · rcases Option.map_eq_some_iff.1 named with ⟨count, read, rfl⟩
    exact congrArg (stem bytes ++ ·) (toList_toString_of_size? read)
  · rcases Option.map_eq_some_iff.1 named with ⟨both, read, rfl⟩
    exact congrArg (stem fixed ++ ·) (eq_of_sizes? read)
  · rcases Option.map_eq_some_iff.1 named with ⟨both, read, rfl⟩
    exact congrArg (stem ufixed ++ ·) (eq_of_sizes? read)
  · cases named

theorem text_of_ofSizedWord? {word : String} (named : ofSizedWord? word = some type) :
    type.text = word := by
  rw [← String.toList_inj]
  exact toList_text_of_sized? (Option.filter_eq_some_iff.1 named).1

/-! ## Words with sizes that no type has -/

/-- What stands for a size but is none that the language has. -/
inductive Unfit (legal : Nat → Prop) : List Char → Prop where
  | missing : Unfit legal []
  | leadingZero {digits : List Char} (several : Several Digit digits) :
    Unfit legal ('0' :: digits)
  | illegal {digits : List Char} {number : Nat} (writes : Decimal.Writes digits number)
    (isIllegal : ¬ legal number) : Unfit legal digits

/-- The words that are made as those of sized types are, with sizes that these do not have.
Without any size a stem is the word of another type. -/
inductive MisSized : List Char → Prop where
  | integer {type : ElementaryType} {size : List Char} (isInteger : type = .int ∨ type = .uint)
    (given : size ≠ []) (unfit : Unfit BitSize size) : MisSized (type.stem ++ size)
  | bytes {size : List Char} (given : size ≠ []) (unfit : Unfit ByteSize size) :
    MisSized (stem .bytes ++ size)
  | fixedPoint {type : ElementaryType} {bits digits : List Char}
    (isFixed : type = .fixed ∨ type = .ufixed) (bitsRun : ∀ c ∈ bits, Digit c)
    (digitsRun : ∀ c ∈ digits, Digit c) (unfit : Unfit BitSize bits ∨ Unfit DigitSize digits) :
    MisSized (type.stem ++ (bits ++ 'x' :: digits))
  | undivided {type : ElementaryType} {size : List Char}
    (isFixed : type = .fixed ∨ type = .ufixed) (several : Several Digit size) :
    MisSized (type.stem ++ size)

theorem Unfit.not_legal {legal : Nat → Prop} {text : List Char} {number : Nat}
    (unfit : Unfit legal text) (read : size? text = some number) : ¬ legal number := by
  rcases size?_eq_some_iff.1 read with ⟨writes, canonical, _⟩
  cases unfit with
  | missing => exact absurd rfl writes.ne_nil
  | leadingZero several =>
    have alone := canonical rfl
    exact absurd (List.eq_nil_of_length_eq_zero (Nat.succ.inj alone)) several.1
  | illegal written isIllegal => exact written.unique writes ▸ isIllegal

theorem Unfit.digits {legal : Nat → Prop} {text : List Char} (unfit : Unfit legal text) :
    ∀ c ∈ text, Digit c := by
  cases unfit with
  | missing => exact fun c member => nomatch member
  | leadingZero several => exact List.forall_mem_cons.2 ⟨by decide, several.2⟩
  | illegal writes _ => exact writes.digits

theorem x_not_mem {run : List Char} (digits : ∀ c ∈ run, Digit c) : 'x' ∉ run :=
  mt (digits 'x') (by decide)

theorem integer_of_sized? {stemmed : ElementaryType} {size : List Char}
    (isInteger : stemmed = .int ∨ stemmed = .uint)
    (named : sized? (stemmed.stem ++ size) = some type) :
    ∃ bits, size? size = some bits ∧ (type.Legal → BitSize bits) := by
  rcases isInteger with rfl | rfl
  · have read : (size? size).map sizedInt = some type := named
    rcases Option.map_eq_some_iff.1 read with ⟨bits, found, rfl⟩
    exact ⟨bits, found, isBitWidth_iff.1⟩
  · have read : (size? size).map sizedUint = some type := named
    rcases Option.map_eq_some_iff.1 read with ⟨bits, found, rfl⟩
    exact ⟨bits, found, isBitWidth_iff.1⟩

theorem fixedPoint_of_sized? {stemmed : ElementaryType} {sizes : List Char}
    (isFixed : stemmed = .fixed ∨ stemmed = .ufixed)
    (named : sized? (stemmed.stem ++ sizes) = some type) :
    ∃ bits digits, sizes? sizes = some (bits, digits) ∧
      (type.Legal → BitSize bits ∧ DigitSize digits) := by
  rcases isFixed with rfl | rfl
  · have read : ((sizes? sizes).map fun both => sizedFixed both.1 both.2) = some type := named
    rcases Option.map_eq_some_iff.1 read with ⟨⟨bits, digits⟩, found, rfl⟩
    exact ⟨bits, digits, found, fun legal => ⟨isBitWidth_iff.1 legal.1, legal.2⟩⟩
  · have read : ((sizes? sizes).map fun both => sizedUfixed both.1 both.2) = some type := named
    rcases Option.map_eq_some_iff.1 read with ⟨⟨bits, digits⟩, found, rfl⟩
    exact ⟨bits, digits, found, fun legal => ⟨isBitWidth_iff.1 legal.1, legal.2⟩⟩

theorem MisSized.not_legal {letters : List Char} (misSized : MisSized letters)
    (named : sized? letters = some type) : ¬ type.Legal := by
  intro legal
  cases misSized with
  | integer isInteger _ unfit =>
    rcases integer_of_sized? isInteger named with ⟨bits, read, bitSize⟩
    exact unfit.not_legal read (bitSize legal)
  | @bytes size _ unfit =>
    have read : (size? size).map sizedBytes = some type := named
    rcases Option.map_eq_some_iff.1 read with ⟨count, found, rfl⟩
    exact unfit.not_legal found legal
  | fixedPoint isFixed bitsRun _ unfit =>
    rcases fixedPoint_of_sized? isFixed named with ⟨bits, digits, read, sizes⟩
    rcases (sizes?_append_iff (x_not_mem bitsRun)).1 read with ⟨readBits, readDigits⟩
    rcases unfit with unfitBits | unfitDigits
    · exact unfitBits.not_legal readBits (sizes legal).1
    · exact unfitDigits.not_legal readDigits (sizes legal).2
  | undivided isFixed several =>
    rcases fixedPoint_of_sized? isFixed named with ⟨bits, digits, read, _⟩
    have divided : 'x' ∈ (toString bits).toList ++ 'x' :: (toString digits).toList := by simp
    rw [eq_of_sizes? read] at divided
    exact x_not_mem several.2 divided

theorem MisSized.exists_digit {letters : List Char} (misSized : MisSized letters) :
    (∃ c ∈ letters, Digit c) ∨
      letters = stem .fixed ++ ['x'] ∨ letters = stem .ufixed ++ ['x'] := by
  have behind {stemLetters size : List Char} (given : size ≠ []) (digits : ∀ c ∈ size, Digit c) :
      ∃ c ∈ stemLetters ++ size, Digit c := by
    rcases List.exists_mem_of_ne_nil size given with ⟨c, member⟩
    exact ⟨c, List.mem_append_right _ member, digits c member⟩
  cases misSized with
  | integer _ given unfit => exact .inl (behind given unfit.digits)
  | bytes given unfit => exact .inl (behind given unfit.digits)
  | undivided _ several => exact .inl (behind several.1 several.2)
  | @fixedPoint stemmed bits digits isFixed bitsRun digitsRun _ =>
    cases bits with
    | cons c bits => exact .inl ⟨c, by simp, bitsRun c (List.mem_cons_self ..)⟩
    | nil =>
      cases digits with
      | cons c digits => exact .inl ⟨c, by simp, digitsRun c (List.mem_cons_self ..)⟩
      | nil =>
        right
        rcases isFixed with rfl | rfl
        · exact .inl rfl
        · exact .inr rfl

end ElementaryType
end ContractTree
