import ContractTree.Proofs.Token.Legal
import ContractTree.Proofs.Token.Numeral
import Mathlib.Data.List.TakeWhile

namespace ContractTree

/-!
# Tokens are scanned from their spellings

The spelling of an operator, of a keyword, of a unit or of a legal type is read as the
token that it spells.  All but the sized types are finitely many.  A sized type is a word
with a digit in it, and no other word that has a meaning has one.
-/

namespace Lexeme

/-- What starts a word starts no other lexeme. -/
theorem isWordStart_cases {c : Char} (start : isWordStart c = true) :
    c.isDigit = false ∧ c ≠ '.' ∧ isQuote c = false ∧ c ≠ '/' ∧ Trivia.isBlank c = false := by
  have alpha : c.isAlpha = true ∨ c = '_' ∨ c = '$' := by
    simpa [isWordStart, or_assoc] using start
  rcases alpha with letter | rfl | rfl
  · have range : 65 ≤ c.val.toNat := by
      have letters : (decide (c.val ≥ 'A'.val ∧ c.val ≤ 'Z'.val) ||
          (decide (c.val ≥ 'a'.val) && decide (c.val ≤ 'z'.val))) = true := letter
      simp only [Bool.or_eq_true, Bool.and_eq_true, decide_eq_true_eq, UInt32.le_iff_toNat_le,
        ge_iff_le] at letters
      rcases letters with ⟨lower, _⟩ | ⟨lower, _⟩
      · exact lower
      · exact Nat.le_trans (by decide) lower
    have different : ∀ d : Char, d.val.toNat < 65 → c ≠ d := by
      rintro d small rfl
      omega
    refine ⟨?_, different _ (by decide), ?_, different _ (by decide), ?_⟩
    · simp only [Char.isDigit, Bool.and_eq_false_iff, decide_eq_false_iff_not,
        UInt32.le_iff_toNat_le, ge_iff_le]
      right
      intro small
      exact absurd (Nat.le_trans range small) (by decide)
    · simp [isQuote, different _ (by decide : '"'.val.toNat < 65),
        different _ (by decide : '\''.val.toNat < 65)]
    · simp [Trivia.isBlank, different _ (by decide : ' '.val.toNat < 65),
        different _ (by decide : '\t'.val.toNat < 65),
        different _ (by decide : '\r'.val.toNat < 65),
        different _ (by decide : '\n'.val.toNat < 65),
        different _ (by decide : '\x0c'.val.toNat < 65)]
  · decide
  · decide

theorem skip_of_wordStart {c : Char} {rest : List Char} (start : isWordStart c = true) :
    Trivia.skip (c :: rest) = c :: rest := by
  rcases isWordStart_cases start with ⟨_, _, _, slash, blank⟩
  rw [Trivia.skip]
  · rw [blank]
    rfl
  · rintro after rfl
    exact fun _ => slash rfl
  · rintro after rfl
    exact fun _ => slash rfl

theorem word?_of_isWordPart {input : List Char} (parts : ∀ c ∈ input, isWordPart c = true) :
    word? input = some (Token.ofWord (String.ofList input), []) := by
  have whole : input.takeWhile isWordPart = input := List.takeWhile_eq_self_iff.2 parts
  have nothing : input.dropWhile isWordPart = [] := List.dropWhile_eq_nil_iff.2 parts
  unfold word?
  rw [whole, nothing]

end Lexeme

/-- A word is scanned as what it is read as. -/
theorem Token.scan_word {word : String} {c : Char} {rest : List Char}
    (letters : word.toList = c :: rest) (start : Lexeme.isWordStart c = true)
    (parts : ∀ d ∈ word.toList, Lexeme.isWordPart d = true) :
    scan word = .ok (ofWord word) := by
  rcases Lexeme.isWordStart_cases start with ⟨digit, period, quote, _, _⟩
  rw [letters] at parts
  have lexeme : Lexeme.atStart? (c :: rest) = some (ofWord word, []) := by
    rw [Lexeme.atStart?, if_neg (Bool.eq_false_iff.1 digit), if_neg, if_neg, if_pos start,
      Lexeme.word?_of_isWordPart parts, ← letters, String.ofList_toList]
    · rw [quote]
      exact Bool.false_ne_true
    · simp [period]
  unfold scan scanChars
  rw [letters, Lexeme.skip_of_wordStart start]
  simp only [lexeme, Trivia.skip]

/-! ## Sized types -/

/-- Whether a digit stands anywhere in a word. -/
def HasDigit (word : String) : Prop := word.toList.any Char.isDigit = true

instance (word : String) : Decidable (HasDigit word) :=
  inferInstanceAs (Decidable (_ = true))

/-- The words of one spelling have no digits. -/
theorem Token.lookup?_of_digit {word : String} (digit : HasDigit word) : lookup? word = none := by
  have plain : ∀ size, (wordsOfSize size).all (fun entry =>
      !entry.1.toList.any Char.isDigit) = true := by
    intro size
    unfold wordsOfSize
    split <;> rfl
  refine Option.eq_none_iff_forall_ne_some.2 fun token found => ?_
  have noDigit := List.all_eq_true.1 (plain _) _ (mem_of_lookup? found)
  rw [Bool.not_eq_true'] at noDigit
  exact Bool.false_ne_true (noDigit.symm.trans digit)

/-- No word with a digit has another meaning than that of a type with legal sizes. -/
theorem Token.ofWord_of_digit {word : String} (digit : HasDigit word) :
    ofWord word = (ElementaryType.ofSizedWord? word).elim identifier elementary := by
  unfold ofWord
  rw [lookup?_of_digit digit]
  cases ElementaryType.ofSizedWord? word with
  | none => rfl
  | some type => rfl

theorem Token.ofWord_of_sized {word : String} {type : ElementaryType} (digit : HasDigit word)
    (named : ElementaryType.sized? word.toList = some type) (legal : type.Legal) :
    ofWord word = .elementary type := by
  rw [ofWord_of_digit digit, ElementaryType.ofSizedWord?, named, Option.filter_some,
    if_pos (decide_eq_true legal), Option.elim_some]

/-- A word with a digit is a name, unless it names a type with legal sizes. -/
theorem Token.ofWord_of_unsized {word : String} (digit : HasDigit word)
    (unsized : ∀ type, ElementaryType.sized? word.toList = some type → ¬ type.Legal) :
    ofWord word = .identifier := by
  rw [ofWord_of_digit digit, ElementaryType.ofSizedWord?]
  cases named : ElementaryType.sized? word.toList with
  | none => rfl
  | some type =>
    have illegal : ¬ decide type.Legal = true := by simpa using unsized type named
    rw [Option.filter_some, if_neg illegal, Option.elim_none]

namespace ElementaryType

variable {type : ElementaryType}

/-- What the word of a type is without its sizes. -/
def stem : ElementaryType → List Char
  | int | sizedInt _ => ['i', 'n', 't']
  | uint | sizedUint _ => ['u', 'i', 'n', 't']
  | bytes | sizedBytes _ => ['b', 'y', 't', 'e', 's']
  | byte => ['b', 'y', 't', 'e']
  | string => ['s', 't', 'r', 'i', 'n', 'g']
  | address => ['a', 'd', 'd', 'r', 'e', 's', 's']
  | bool => ['b', 'o', 'o', 'l']
  | fixed | sizedFixed _ _ => ['f', 'i', 'x', 'e', 'd']
  | ufixed | sizedUfixed _ _ => ['u', 'f', 'i', 'x', 'e', 'd']

/-- The sizes in the word of a type. -/
def sizes : ElementaryType → List Char
  | sizedInt size | sizedUint size | sizedBytes size => (toString size).toList
  | sizedFixed bits digits | sizedUfixed bits digits =>
    (toString bits).toList ++ 'x' :: (toString digits).toList
  | _ => []

theorem toList_text (type : ElementaryType) :
    type.text.toList = type.stem ++ type.sizes := by
  cases type with
  | sizedInt | sizedUint | sizedBytes =>
    rw [text, String.toList_append]
    rfl
  | sizedFixed | sizedUfixed =>
    simp only [text, String.toList_append, List.append_assoc]
    rfl
  | _ => rfl

theorem exists_stem (type : ElementaryType) :
    ∃ first rest, type.stem = first :: rest ∧ Lexeme.isWordStart first = true := by
  cases type <;> exact ⟨_, _, rfl, rfl⟩

theorem isWordPart_of_mem_stem {c : Char} (member : c ∈ type.stem) :
    Lexeme.isWordPart c = true := by
  have each : type.stem.all Lexeme.isWordPart = true := by
    cases type <;> rfl
  exact List.all_eq_true.1 each c member

/-- Sizes are digits, with an `x` between those of a fixed-point type. -/
theorem mem_sizes {c : Char} (member : c ∈ type.sizes) : c.isDigit = true ∨ c = 'x' := by
  have digits {number : Nat} (inNumber : c ∈ (toString number).toList) :
      c.isDigit = true ∨ c = 'x' :=
    .inl (Decimal.isDigit_of_mem_toString inNumber)
  have both {bits count : Nat}
      (inBoth : c ∈ (toString bits).toList ++ 'x' :: (toString count).toList) :
      c.isDigit = true ∨ c = 'x' := by
    rcases List.mem_append.1 inBoth with before | behind
    · exact digits before
    · rcases List.mem_cons.1 behind with separator | after
      · exact .inr separator
      · exact digits after
  cases type with
  | sizedInt | sizedUint | sizedBytes => exact digits member
  | sizedFixed | sizedUfixed => exact both member
  | _ => cases member

theorem isWordPart_of_mem_text {c : Char} (member : c ∈ type.text.toList) :
    Lexeme.isWordPart c = true := by
  rw [toList_text] at member
  rcases List.mem_append.1 member with inStem | inSizes
  · exact isWordPart_of_mem_stem inStem
  · rcases mem_sizes inSizes with digit | rfl
    · simp [Lexeme.isWordPart, Char.isAlphanum, digit]
    · decide

theorem exists_digit (number : Nat) : ∃ c ∈ (toString number).toList, c.isDigit = true := by
  have shape := Decimal.value?_eq_some_iff.1 (Decimal.value?_toString number)
  cases digits : (toString number).toList with
  | nil => exact absurd digits shape.1
  | cons first rest =>
    rw [digits] at shape
    exact ⟨first, List.mem_cons_self .., shape.2.1 first (List.mem_cons_self ..)⟩

/-- The digits of a size stand in the word of a sized type. -/
theorem hasDigit_text (sized : type.fixedText? = none) : HasDigit type.text := by
  have digit : ∃ c ∈ type.sizes, c.isDigit = true := by
    cases type with
    | sizedInt size | sizedUint size | sizedBytes size => exact exists_digit size
    | sizedFixed bits | sizedUfixed bits =>
      rcases exists_digit bits with ⟨c, member, isDigit⟩
      exact ⟨c, List.mem_append_left _ member, isDigit⟩
    | _ => cases sized
  rcases digit with ⟨c, member, isDigit⟩
  refine List.any_eq_true.2 ⟨c, ?_, isDigit⟩
  rw [toList_text]
  exact List.mem_append_right _ member

/-- The `x` stands behind the first size, which has none. -/
theorem sizes?_append_iff {first second : List Char} {bits digits : Nat} (noX : 'x' ∉ first) :
    sizes? (first ++ 'x' :: second) = some (bits, digits) ↔
      size? first = some bits ∧ size? second = some digits := by
  rcases Decimal.cut_at_separator noX with ⟨before, behind⟩
  rw [sizes?, before, behind]
  cases size? first <;> cases size? second <;> simp

theorem sizes?_toString {bits digits : Nat} (bitsBounded : bits < UInt16.size)
    (digitsBounded : digits < UInt16.size) :
    sizes? ((toString bits).toList ++ 'x' :: (toString digits).toList) = some (bits, digits) :=
  (sizes?_append_iff (Decimal.not_mem_toString (by decide))).2
    ⟨size?_toString bitsBounded, size?_toString digitsBounded⟩

theorem IsBitWidth.bounded {bits : Nat} (width : IsBitWidth bits) : bits < UInt16.size :=
  Nat.lt_of_le_of_lt width.2.1 (by decide)

/-- Legal sizes fit into 16 bits, so they are read from the word of the type. -/
theorem sized?_text (sized : type.fixedText? = none) (legal : type.Legal) :
    sized? type.text.toList = some type := by
  rw [toList_text]
  cases type with
  | sizedInt bits => exact congrArg (Option.map sizedInt) (size?_toString legal.bounded)
  | sizedUint bits => exact congrArg (Option.map sizedUint) (size?_toString legal.bounded)
  | sizedBytes count =>
    have bounded : count < UInt16.size := Nat.lt_of_le_of_lt legal.2 (by decide)
    exact congrArg (Option.map sizedBytes) (size?_toString bounded)
  | sizedFixed bits digits =>
    have bounded : digits < UInt16.size := Nat.lt_of_le_of_lt legal.2 (by decide)
    exact congrArg (Option.map _) (sizes?_toString legal.1.bounded bounded)
  | sizedUfixed bits digits =>
    have bounded : digits < UInt16.size := Nat.lt_of_le_of_lt legal.2 (by decide)
    exact congrArg (Option.map _) (sizes?_toString legal.1.bounded bounded)
  | _ => cases sized

/-- The spelling of a legal type is scanned as the type. -/
theorem scan_text (legal : type.Legal) : Token.scan type.text = .ok (.elementary type) := by
  cases sized : type.fixedText? with
  | none =>
    rcases type.exists_stem with ⟨first, rest, stem, start⟩
    have letters : type.text.toList = first :: (rest ++ type.sizes) := by
      rw [toList_text, stem, List.cons_append]
    rw [Token.scan_word letters start fun c => isWordPart_of_mem_text,
      Token.ofWord_of_sized (hasDigit_text sized) (sized?_text sized legal) legal]
  | some text =>
    cases type with
    | sizedInt | sizedUint | sizedBytes | sizedFixed | sizedUfixed => cases sized
    | _ => decide +kernel

end ElementaryType

/-! ## Operators, keywords and units -/

theorem Symbol.scan_text (symbol : Symbol) : Token.scan symbol.text = .ok (.symbol symbol) := by
  have each : ∀ symbol ∈ all, Token.scan symbol.text = .ok (.symbol symbol) := by decide +kernel
  exact each symbol (mem_all symbol)

theorem Keyword.scan_text (reserved : Keyword) :
    Token.scan reserved.word = .ok (.keyword reserved) := by
  have each : ∀ entry ∈ reservedWords.attach,
      Token.scan entry.1 = .ok (.keyword ⟨entry.1, entry.2⟩) := by
    decide +kernel
  exact each ⟨reserved.word, reserved.isReserved⟩ (List.mem_attach ..)

theorem Denomination.scan_text (unit : Denomination) :
    Token.scan unit.text = .ok (.denomination unit) := by
  cases unit <;> decide +kernel

namespace Token

/-- A unary operator is a symbol or the one keyword that is an operator. -/
theorem scan_text_of_isUnary {operator : Token} (unary : operator.isUnary = true) :
    scan operator.text = .ok operator := by
  cases operator with
  | symbol symbol => exact symbol.scan_text
  | keyword reserved => exact reserved.scan_text
  | _ => cases unary

theorem scan_text_of_isBinary {operator : Token} (binary : operator.isBinary = true) :
    scan operator.text = .ok operator := by
  cases operator with
  | symbol symbol => exact symbol.scan_text
  | _ => cases binary

theorem scan_text_of_isAssignment {operator : Token} (assignment : operator.isAssignment = true) :
    scan operator.text = .ok operator := by
  cases operator with
  | symbol symbol => exact symbol.scan_text
  | _ => cases assignment

theorem scan_text_of_isDenomination {unit : Token} (counted : unit.isDenomination = true) :
    scan unit.text = .ok unit := by
  cases unit with
  | denomination unit => exact unit.scan_text
  | _ => cases counted

end Token
end ContractTree
