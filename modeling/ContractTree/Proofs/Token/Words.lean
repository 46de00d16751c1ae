import ContractTree.Proofs.Token.Legal
import ContractTree.Proofs.Token.Sizes

namespace ContractTree

/-!
# Words are the spellings of the tokens that they are read as

The tokens of one spelling and the types with sizes of the language are spelled by a text
of their own.  This text is read as the token, and a word that is read as anything but a
name is the spelling of what it is read as.  So no word has two meanings, two words never
have the same one, and a word that no token is spelled by is a name.
-/

namespace Token

variable {word : String} {token : Token}

/-! ## Words -/

/-- A letter, an underscore or a dollar, and more of these and digits behind it. -/
def IsWord (word : String) : Prop :=
  ∃ first rest, word.toList = first :: rest ∧ Lexeme.WordStart first ∧
    ∀ c ∈ rest, Lexeme.WordPart c

theorem IsWord.scan_eq (isWord : IsWord word) : scan word = .ok (ofWord word) := by
  rcases isWord with ⟨first, rest, letters, start, parts⟩
  refine scan_word letters (Lexeme.isWordStart_iff.2 start) ?_
  rw [letters]
  exact List.forall_mem_cons.2 ⟨Lexeme.isWordPart_iff.2 start.part,
    fun c member => Lexeme.isWordPart_iff.2 (parts c member)⟩

/-! ## Tokens with a spelling of their own -/

/-- The tokens of one spelling, and the types with sizes that the language has. -/
inductive Spelled : Token → Prop where
  | fixed {token : Token} {text : String} (spelling : token.fixedText? = some text) :
    Spelled token
  | sized {type : ElementaryType} (isSized : type.Sized) : Spelled (.elementary type)

theorem spelled_elementary_iff {type : ElementaryType} :
    Spelled (.elementary type) ↔ type.Legal := by
  constructor
  · intro spelled
    cases spelled with
    | fixed spelling => exact ElementaryType.legal_of_fixedText? spelling
    | sized isSized => exact (ElementaryType.sized_iff.1 isSized).2
  · intro legal
    cases unsized : type.fixedText? with
    | none => exact .sized (ElementaryType.sized_iff.2 ⟨unsized, legal⟩)
    | some text => exact .fixed unsized

theorem text_of_fixedText? {text : String} (spelling : token.fixedText? = some text) :
    token.text = text := by
  cases token with
  | elementary type => cases type <;> cases spelling <;> rfl
  | _ => cases spelling <;> rfl

/-- What a token is spelled by is scanned as the token. -/
theorem Spelled.scan_text (spelled : Spelled token) : scan token.text = .ok token := by
  cases token with
  | symbol symbol => exact symbol.scan_text
  | keyword reserved => exact reserved.scan_text
  | elementary type => exact type.scan_text (spelled_elementary_iff.1 spelled)
  | denomination unit => exact unit.scan_text
  | boolean value => cases value <;> decide +kernel
  | _ =>
    cases spelled with
    | fixed spelling => cases spelling

/-- A word that is read as anything but a name is the spelling of that token. -/
theorem ofWord_cases (word : String) :
    ofWord word = .identifier ∨ Spelled (ofWord word) ∧ (ofWord word).text = word := by
  unfold ofWord
  split
  · next token found =>
    have spelling := fixedText?_of_lookup? found
    exact .inr ⟨.fixed spelling, text_of_fixedText? spelling⟩
  · split
    · next type found =>
      exact .inr ⟨spelled_elementary_iff.2 (ElementaryType.legal_of_ofSizedWord? found),
        ElementaryType.text_of_ofSizedWord? found⟩
    · exact .inl rfl

theorem Spelled.ne_identifier (spelled : Spelled token) : token ≠ .identifier := by
  rintro rfl
  cases spelled with
  | fixed spelling => cases spelling

/-! ## Words that only look like sized types -/

theorem isWord_stem_append {type : ElementaryType} {size : List Char}
    (parts : ∀ c ∈ size, Lexeme.WordPart c) : IsWord (String.ofList (type.stem ++ size)) := by
  rcases type.exists_stem with ⟨first, rest, stem, start⟩
  refine ⟨first, rest ++ size, ?_, Lexeme.isWordStart_iff.1 start, fun c member => ?_⟩
  · rw [String.toList_ofList, stem, List.cons_append]
  · rcases List.mem_append.1 member with inStem | inSize
    · have inWhole : c ∈ type.stem := stem ▸ List.mem_cons_of_mem first inStem
      exact Lexeme.isWordPart_iff.1 (ElementaryType.isWordPart_of_mem_stem inWhole)
    · exact parts c inSize

theorem isWord_of_misSized {letters : List Char} (misSized : ElementaryType.MisSized letters) :
    IsWord (String.ofList letters) := by
  cases misSized with
  | integer _ _ unfit => exact isWord_stem_append fun c member => .inr (unfit.digits c member)
  | bytes _ unfit => exact isWord_stem_append fun c member => .inr (unfit.digits c member)
  | undivided _ several => exact isWord_stem_append fun c member => .inr (several.2 c member)
  | fixedPoint _ bitsRun digitsRun _ =>
    refine isWord_stem_append fun c member => ?_
    rcases List.mem_append.1 member with inBits | behind
    · exact .inr (bitsRun c inBits)
    · rcases List.mem_cons.1 behind with rfl | inDigits
      · decide
      · exact .inr (digitsRun c inDigits)

theorem scan_misSized {letters : List Char} (misSized : ElementaryType.MisSized letters) :
    scan (String.ofList letters) = .ok .identifier := by
  rw [IsWord.scan_eq (isWord_of_misSized misSized)]
  rcases misSized.exists_digit with ⟨c, member, digit⟩ | rfl | rfl
  · have hasDigit : HasDigit (String.ofList letters) := by
      rw [HasDigit, String.toList_ofList]
      exact List.any_eq_true.2 ⟨c, member, Lexeme.isDigit_iff.2 digit⟩
    rw [ofWord_of_unsized hasDigit fun type named => ?_]
    rw [String.toList_ofList] at named
    exact misSized.not_legal named
  · decide +kernel
  · decide +kernel

theorem isWord_text (type : ElementaryType) : IsWord type.text := by
  rw [← String.ofList_toList (s := type.text), ElementaryType.toList_text]
  refine isWord_stem_append fun c member => ?_
  rcases ElementaryType.mem_sizes member with digit | rfl
  · exact .inr (Lexeme.isDigit_iff.1 digit)
  · decide

/-! ## Classification -/

/-- Two tokens with a spelling of their own that are spelled alike are the same one. -/
theorem Spelled.eq_of_text {other : Token} (spelled : Spelled token) (isOther : Spelled other)
    (same : other.text = token.text) : other = token := by
  have scanned := isOther.scan_text
  rw [same, spelled.scan_text] at scanned
  exact (Except.ok.inj scanned).symm

theorem text_eq_of_scan (isWord : IsWord word) (scanned : scan word = .ok token)
    (noName : token ≠ .identifier) : token.text = word := by
  cases isWord.scan_eq.symm.trans scanned
  exact ((ofWord_cases word).resolve_left noName).2

/-- A word is read as the one token that it spells, if there is one, and otherwise as a
name.  Of the sized types it is just those of the language that have a word, so a word with
other sizes is a name.  Two words that are no names are never read as the same token. -/
theorem scan_word_exact :
    (∀ word, IsWord word →
      (∃ token, Spelled token ∧ token.text = word ∧ scan word = .ok token ∧
        ∀ other, Spelled other → other.text = word → other = token) ∨
      (∀ token, Spelled token → token.text ≠ word) ∧ scan word = .ok .identifier) ∧
    (∀ type : ElementaryType, type.fixedText? = none →
      ((∃ word, IsWord word ∧ scan word = .ok (.elementary type)) ↔ type.Sized)) ∧
    (∀ letters, ElementaryType.MisSized letters →
      IsWord (String.ofList letters) ∧ scan (String.ofList letters) = .ok .identifier) ∧
    ∀ word other token, IsWord word → IsWord other → scan word = .ok token →
      scan other = .ok token → token ≠ .identifier → word = other := by
  refine ⟨fun word isWord => ?_, fun type sized => ?_, fun letters misSized => ?_,
    fun word other token isWord isOther scanned again noName => ?_⟩
  · rcases ofWord_cases word with isName | ⟨spelled, text⟩
    · have scanned : scan word = .ok .identifier := isName ▸ isWord.scan_eq
      refine .inr ⟨?_, scanned⟩
      rintro token spelled rfl
      exact spelled.ne_identifier (Except.ok.inj (spelled.scan_text.symm.trans scanned))
    · exact .inl ⟨ofWord word, spelled, text, isWord.scan_eq,
        fun other isOther same => spelled.eq_of_text isOther (same.trans text.symm)⟩
  · constructor
    · rintro ⟨word, _, scanned⟩
      exact ElementaryType.sized_iff.2 ⟨sized, legal_of_scan scanned⟩
    · intro isSized
      exact ⟨type.text, isWord_text type, (Spelled.sized isSized).scan_text⟩
  · exact ⟨isWord_of_misSized misSized, scan_misSized misSized⟩
  · exact (text_eq_of_scan isWord scanned noName).symm.trans
      (text_eq_of_scan isOther again noName)

/-- A legal size makes a type.  One that is legal but for a multiple of `2 ^ 16` makes a name,
as does a leading zero. -/
theorem scan_word_exact_sizes :
    scan "uint256" = .ok (.elementary (.sizedUint 256)) ∧
    scan "uint65792" = .ok .identifier ∧
    scan "fixed08x2" = .ok .identifier := by
  have spelled : Spelled (.elementary (.sizedUint 256)) := .sized (.uint (by decide))
  have beyond : ElementaryType.MisSized (ElementaryType.stem .uint ++ ['6', '5', '7', '9', '2']) :=
    .integer (.inr rfl) (by decide) (.illegal (Decimal.writes_toString 65792) (by decide))
  have eight : Decimal.Writes ['8'] 8 := Decimal.writes_toString 8
  have zero : ElementaryType.Unfit ElementaryType.BitSize ['0', '8'] :=
    .leadingZero ⟨eight.ne_nil, eight.digits⟩
  have padded : ElementaryType.MisSized
      (ElementaryType.stem .fixed ++ (['0', '8'] ++ 'x' :: ['2'])) :=
    .fixedPoint (.inl rfl) zero.digits (Decimal.writes_toString 2).digits (.inl zero)
  refine ⟨?_, (scan_word_exact.2.2.1 _ beyond).2, (scan_word_exact.2.2.1 _ padded).2⟩
  rcases scan_word_exact.1 "uint256" (isWord_text (.sizedUint 256)) with
    ⟨token, _, _, scanned, unique⟩ | ⟨none, _⟩
  · rw [scanned, unique _ spelled (by decide)]
  · exact absurd (by decide) (none _ spelled)

end Token
end ContractTree
