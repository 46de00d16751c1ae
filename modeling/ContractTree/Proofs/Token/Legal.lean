import ContractTree.Token.Scan

namespace ContractTree

/-!
# Scanned types are legal

Only words are read as types, and a word with an illegal size is a name.  The words of one
spelling are those of the tokens that they stand for, and a type without sizes is legal.
-/

theorem ElementaryType.legal_of_fixedText? {type : ElementaryType} {text : String}
    (unsized : type.fixedText? = some text) : type.Legal := by
  cases type <;> trivial

namespace Token

variable {word : String} {token : Token}

theorem mem_of_lookup? (found : lookup? word = some token) :
    (word, token) ∈ wordsOfSize word.utf8ByteSize := by
  rcases List.lookup_eq_some_iff.1 found with ⟨before, behind, split, _⟩
  rw [split]
  simp

/-- What a word is found to stand for is spelled by the word. -/
theorem fixedText?_of_lookup? (found : lookup? word = some token) :
    token.fixedText? = some word := by
  have each : ∀ size, (wordsOfSize size).all (fun entry =>
      decide (entry.2.fixedText? = some entry.1)) = true := by
    intro size
    unfold wordsOfSize
    split <;> rfl
  exact of_decide_eq_true (List.all_eq_true.1 (each _) _ (mem_of_lookup? found))

theorem legal_of_ofWord {type : ElementaryType} (named : ofWord word = .elementary type) :
    type.Legal := by
  unfold ofWord at named
  split at named
  · next found =>
    cases named
    exact ElementaryType.legal_of_fixedText? (fixedText?_of_lookup? found)
  · split at named
    · next found =>
      cases named
      exact ElementaryType.legal_of_ofSizedWord? found
    · cases named

end Token

theorem Lexeme.legal_of_word? {input rest : List Char} {type : ElementaryType}
    (read : word? input = some (.elementary type, rest)) : type.Legal := by
  unfold word? at read
  split at read
  · dsimp only at read
    split at read
    · rcases Option.map_eq_some_iff.1 read with ⟨after, _, same⟩
      cases same
    · rw [Option.some.injEq, Prod.mk.injEq] at read
      exact Token.legal_of_ofWord read.1
  · rw [Option.some.injEq, Prod.mk.injEq] at read
    exact Token.legal_of_ofWord read.1

theorem Lexeme.legal_of_atStart? {input rest : List Char} {type : ElementaryType}
    (read : atStart? input = some (.elementary type, rest)) : type.Legal := by
  unfold atStart? at read
  split at read
  · cases read
  · split at read
    · cases read
    · split at read
      · cases read
      · split at read
        · rcases Option.map_eq_some_iff.1 read with ⟨after, _, same⟩
          cases same
        · split at read
          · exact legal_of_word? read
          · unfold symbol? at read
            split at read
            · cases read
            · rcases Option.map_eq_some_iff.1 read with ⟨symbol, _, same⟩
              cases same

/-- A text that is scanned as a type has sizes that the language has. -/
theorem Token.legal_of_scan {text : String} {type : ElementaryType}
    (scanned : scan text = .ok (.elementary type)) : type.Legal := by
  unfold scan scanChars at scanned
  split at scanned
  · cases scanned
  · split at scanned
    · cases scanned
    · next found =>
      split at scanned
      · cases scanned
        exact Lexeme.legal_of_atStart? found
      · cases scanned

end ContractTree
