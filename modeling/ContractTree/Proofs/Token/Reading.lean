import ContractTree.Proofs.Token.Lexemes
import ContractTree.Proofs.Token.Spelling

namespace ContractTree

/-!
# Reading the first lexeme

What the scanner takes off the start of a text is a lexeme of the token that it
reports.  Conversely it takes off a whole lexeme, and no more, wherever the text ends
behind the lexeme or goes on as trivia does.
-/

namespace Lexeme

/-- The letters of a list are tried one by one. -/
theorem forall_of_all {p : Char → Prop} [DecidablePred p] {letters : List Char}
    (each : letters.all (fun c => p c) = true) : ∀ c ∈ letters, p c :=
  -- A quantifier over characters is not decided itself: it might try all that there are.
  fun c member => of_decide_eq_true (List.all_eq_true.1 each c member)

/-! ## Numbers -/

theorem exists_exponent (input : List Char) :
    ∃ exponent, Exponent exponent ∧ input = exponent ++ afterExponent input := by
  fun_cases afterExponent input with
  | case1 c rest starts =>
    simp only [Bool.and_eq_true, Bool.or_eq_true, decide_eq_true_eq] at starts
    rcases several_of_startsWith isDigit_iff starts.2 with ⟨digits, several, split⟩
    exact ⟨c :: '-' :: digits, .negative starts.1 several, congrArg (c :: '-' :: ·) split⟩
  | case2 => exact ⟨[], .none, rfl⟩
  | case3 c rest _ starts =>
    simp only [Bool.and_eq_true, Bool.or_eq_true, decide_eq_true_eq] at starts
    rcases several_of_startsWith isDigit_iff starts.2 with ⟨digits, several, split⟩
    exact ⟨c :: digits, .plain starts.1 several, congrArg (c :: ·) split⟩
  | case4 => exact ⟨[], .none, rfl⟩
  | case5 => exact ⟨[], .none, rfl⟩

theorem exists_fraction (input : List Char) :
    ∃ fraction, Fraction fraction ∧ input = fraction ++ afterFraction input := by
  fun_cases afterFraction input with
  | case1 rest starts =>
    rcases several_of_startsWith isDigit_iff starts with ⟨digits, several, split⟩
    exact ⟨'.' :: digits, .some several, congrArg ('.' :: ·) split⟩
  | case2 => exact ⟨[], .none, rfl⟩
  | case3 => exact ⟨[], .none, rfl⟩

/-- A number that starts with a digit and is not hexadecimal. -/
theorem exists_decimal {input : List Char} (starts : startsWith Char.isDigit input = true) :
    ∃ number, Number number ∧
      input = number ++ afterExponent (afterFraction (input.dropWhile Char.isDigit)) := by
  rcases several_of_startsWith isDigit_iff starts with ⟨whole, several, cutWhole⟩
  rcases exists_fraction (input.dropWhile Char.isDigit) with ⟨fraction, isFraction, cutFraction⟩
  rcases exists_exponent (afterFraction (input.dropWhile Char.isDigit)) with
    ⟨exponent, isExponent, cutExponent⟩
  refine ⟨_, .decimal several isFraction isExponent, ?_⟩
  rw [List.append_assoc, List.append_assoc, ← cutExponent, ← cutFraction, ← cutWhole]

theorem exists_number {input : List Char} (starts : startsWith Char.isDigit input = true) :
    ∃ number, Number number ∧ input = number ++ afterNumber input := by
  fun_cases afterNumber input with
  | case1 x rest mark =>
    simp only [Bool.and_eq_true, Bool.or_eq_true, decide_eq_true_eq] at mark
    rcases several_of_startsWith isHexDigit_iff mark.2 with ⟨digits, several, split⟩
    exact ⟨'0' :: x :: digits, .hexadecimal mark.1 several, congrArg ('0' :: x :: ·) split⟩
  | case2 => exact exists_decimal starts
  | case3 => exact exists_decimal starts

section

variable {rest : List Char}

/-- What ends a run of digits, and is none of the characters that would carry a number
on. -/
theorem Clear.stops_number (clear : Clear rest) :
    startsWith Char.isDigit rest = false ∧ startsWith isHexDigit rest = false ∧
      startsWith (fun c => c = '.' || c = 'e' || c = 'E' || c = 'x' || c = 'X') rest = false :=
  ⟨clear.stops (by decide), clear.stops (by decide), clear.stops (by decide)⟩

theorem afterExponent_append {exponent : List Char} (isExponent : Exponent exponent)
    (clear : Clear rest) : afterExponent (exponent ++ rest) = rest := by
  rcases clear.stops_number with ⟨stop, _, plain⟩
  cases isExponent with
  | none =>
    fun_cases afterExponent rest with
    | case1 c rest starts => simp_all [startsWith]
    | case2 => rfl
    | case3 c rest _ starts => simp_all [startsWith]
    | case4 => rfl
    | case5 => rfl
  | @plain e digits mark several =>
    have starts : startsWith Char.isDigit (digits ++ rest) = true := several.starts isDigit_iff
    rw [List.cons_append, afterExponent, if_pos, several.dropWhile isDigit_iff stop]
    · simp [mark, starts]
    · intro after same
      rw [same, startsWith_cons] at starts
      exact absurd starts (by decide)
  | @negative e digits mark several =>
    have starts : startsWith Char.isDigit (digits ++ rest) = true := several.starts isDigit_iff
    rw [List.cons_append, List.cons_append, afterExponent, if_pos,
      several.dropWhile isDigit_iff stop]
    simp [mark, starts]

/-- Behind a fraction there is an exponent, a blank, a slash, or nothing. -/
theorem startsWith_exponent {p : Char → Bool} {exponent : List Char}
    (isExponent : Exponent exponent) (clear : Clear rest)
    (others : ('e' :: 'E' :: '/' :: Trivia.blanks).all (fun c => !p c) = true) :
    startsWith p (exponent ++ rest) = false := by
  simp only [List.all_cons, Bool.and_eq_true, Bool.not_eq_true'] at others
  rcases others with ⟨lower, upper, slash, blanks⟩
  have atMark : ∀ {e digits}, (e = 'e' ∨ e = 'E') → startsWith p (e :: digits) = false := by
    rintro e digits (rfl | rfl)
    · exact lower
    · exact upper
  cases isExponent with
  | none => exact clear.stops (by simp [slash, blanks])
  | plain mark _ => exact atMark mark
  | negative mark _ => exact atMark mark

theorem afterFraction_append {fraction exponent : List Char} (isFraction : Fraction fraction)
    (isExponent : Exponent exponent) (clear : Clear rest) :
    afterFraction (fraction ++ (exponent ++ rest)) = exponent ++ rest := by
  have stop : startsWith Char.isDigit (exponent ++ rest) = false :=
    startsWith_exponent isExponent clear (by decide)
  cases isFraction with
  | none =>
    have noPeriod : startsWith (· = '.') (exponent ++ rest) = false :=
      startsWith_exponent isExponent clear (by decide)
    rw [List.nil_append, afterFraction]
    intro after same
    rw [same, startsWith_cons] at noPeriod
    exact absurd noPeriod (by decide)
  | some several =>
    rw [List.cons_append, afterFraction, if_pos (several.starts isDigit_iff),
      several.dropWhile isDigit_iff stop]

theorem afterNumber_decimal {whole fraction exponent : List Char}
    (several : Several Digit whole) (isFraction : Fraction fraction)
    (isExponent : Exponent exponent) (clear : Clear rest) :
    afterNumber (whole ++ (fraction ++ (exponent ++ rest))) = rest := by
  have stops : ∀ p : Char → Bool,
      ('.' :: 'e' :: 'E' :: '/' :: Trivia.blanks).all (fun c => !p c) = true →
      startsWith p (fraction ++ (exponent ++ rest)) = false := by
    intro p others
    rw [List.all_cons, Bool.and_eq_true, Bool.not_eq_true'] at others
    cases isFraction with
    | none =>
      rw [List.nil_append]
      exact startsWith_exponent isExponent clear others.2
    | some _ => exact others.1
  have noX : startsWith (fun c => c = 'x' || c = 'X') (fraction ++ (exponent ++ rest)) = false :=
    stops _ (by decide)
  have value : afterExponent (afterFraction
      ((whole ++ (fraction ++ (exponent ++ rest))).dropWhile Char.isDigit)) = rest := by
    rw [several.dropWhile isDigit_iff (stops _ (by decide)),
      afterFraction_append isFraction isExponent clear, afterExponent_append isExponent clear]
  -- An `x` behind the first digit is neither a digit nor the start of what follows.
  have noMark : ∀ x after, whole ++ (fraction ++ (exponent ++ rest)) = '0' :: x :: after →
      ¬ (x = 'x' ∨ x = 'X') := by
    intro x after same mark
    have notDigit : ¬ Digit x := by
      rcases mark with rfl | rfl <;> decide
    rcases several with ⟨some, digits⟩
    match whole with
    | [] => exact some rfl
    | [d] =>
      rw [List.cons_append, List.nil_append, List.cons.injEq] at same
      rw [same.2, startsWith_cons] at noX
      simp only [Bool.or_eq_false_iff, decide_eq_false_iff_not] at noX
      exact mark.elim noX.1 noX.2
    | d :: d' :: more =>
      simp only [List.cons_append, List.cons.injEq] at same
      exact notDigit (same.2.1 ▸ digits d' (by simp))
  unfold afterNumber
  split
  · next x after same =>
    rw [if_neg]
    · exact value
    · intro hexadecimal
      simp only [Bool.and_eq_true, Bool.or_eq_true, decide_eq_true_eq] at hexadecimal
      exact noMark x after same hexadecimal.1
  · exact value

theorem afterNumber_hexadecimal {x : Char} {digits : List Char} (mark : x = 'x' ∨ x = 'X')
    (several : Several HexDigit digits) (clear : Clear rest) :
    afterNumber ('0' :: x :: (digits ++ rest)) = rest := by
  have starts : startsWith isHexDigit (digits ++ rest) = true := several.starts isHexDigit_iff
  rw [afterNumber, if_pos, several.dropWhile isHexDigit_iff clear.stops_number.2.1]
  simp [mark, starts]

end

/-! ## Strings -/

theorem afterString?_eq_some_iff {quote : Char} (isQuote : Quote quote) {input rest : List Char} :
    afterString? quote input = some rest ↔
      ∃ body, Quoted quote body ∧ input = body ++ quote :: rest := by
  have notEscape : '\\' ≠ quote := by
    rintro rfl
    exact absurd isQuote (by decide)
  have notFeed : '\n' ≠ quote := by
    rintro rfl
    exact absurd isQuote (by decide)
  constructor
  · intro closed
    fun_induction afterString? quote input with
    | case1 => cases closed
    | case2 c input notFeed ih =>
      rcases ih closed with ⟨body, quoted, rfl⟩
      exact ⟨'\\' :: c :: body, .escaped notFeed quoted, rfl⟩
    | case3 input =>
      cases closed
      exact ⟨[], .nil, rfl⟩
    | case4 => cases closed
    | case5 c input _ notQuote others ih =>
      simp only [Bool.or_eq_true, decide_eq_true_eq, not_or] at others
      rcases ih closed with ⟨body, quoted, rfl⟩
      exact ⟨c :: body, .plain notQuote others.2 others.1 quoted, rfl⟩
    | case6 => cases closed
  · rintro ⟨body, quoted, rfl⟩
    induction quoted with
    | nil =>
      rw [List.nil_append, afterString?, if_pos rfl]
      rintro c after rfl
      exact absurd rfl notEscape
    | @plain c body notQuote notEscape notFeed _ ih =>
      rw [List.cons_append, afterString?, if_neg notQuote, if_neg (by simp [notFeed, notEscape]),
        ih]
      rintro d after rfl
      exact absurd rfl notEscape
    | @escaped c body notFeed _ ih =>
      rw [List.cons_append, List.cons_append, afterString?, if_neg notFeed, ih]

theorem afterHexString?_eq_some_iff {quote : Char} (isQuote : Quote quote)
    {input rest : List Char} :
    afterHexString? quote input = some rest ↔
      ∃ digits, (∀ c ∈ digits, HexDigit c) ∧ input = digits ++ quote :: rest := by
  constructor
  · intro closed
    refine ⟨input.takeWhile isHexDigit, fun c member =>
      isHexDigit_iff.1 (List.mem_takeWhile_imp member), ?_⟩
    have behind : input.dropWhile isHexDigit = quote :: rest := by
      unfold afterHexString? at closed
      split at closed
      · next c after same =>
        split at closed
        · next closes =>
          cases closed
          rw [same, closes]
        · cases closed
      · cases closed
    rw [← behind, List.takeWhile_append_dropWhile]
  · rintro ⟨digits, allHex, rfl⟩
    have stop : startsWith isHexDigit (quote :: rest) = false := by
      rw [startsWith_cons]
      rcases isQuote with rfl | rfl <;> decide
    unfold afterHexString?
    rw [dropWhile_run (fun c member => isHexDigit_iff.2 (allHex c member)) stop]
    exact if_pos rfl

/-! ## Words -/

theorem spells_of_word? {first : Char} {rest after : List Char} {token : Token}
    (start : WordStart first) (read : word? (first :: rest) = some (token, after)) :
    ∃ lexeme, Spells token lexeme ∧ first :: rest = lexeme ++ after := by
  have firstPart : isWordPart first = true := isWordPart_iff.2 start.part
  have cut := List.takeWhile_append_dropWhile (p := isWordPart) (l := first :: rest)
  have spelled : Spells (Token.ofWord (String.ofList ((first :: rest).takeWhile isWordPart)))
      ((first :: rest).takeWhile isWordPart) := by
    rw [List.takeWhile_cons_of_pos firstPart]
    exact .word start fun c member => isWordPart_iff.1 (List.mem_takeWhile_imp member)
  unfold word? at read
  split at read
  · next c behind same =>
    dsimp only at read
    split at read
    · next hexQuote =>
      simp only [Bool.and_eq_true, decide_eq_true_eq] at hexQuote
      have isQuote := isQuote_iff.1 hexQuote.2
      rcases Option.map_eq_some_iff.1 read with ⟨closed, closes, pair⟩
      cases pair
      rcases (afterHexString?_eq_some_iff isQuote).1 closes with ⟨digits, allHex, rfl⟩
      refine ⟨_, .hexString isQuote allHex, ?_⟩
      have word : (first :: rest).takeWhile isWordPart = ['h', 'e', 'x'] := by
        rw [← String.toList_ofList (l := (first :: rest).takeWhile isWordPart), hexQuote.1]
        rfl
      rw [← cut, word, same]
      simp
    · cases read
      exact ⟨_, spelled, by rw [← same, cut]⟩
  · next same =>
    cases read
    exact ⟨_, spelled, by rw [← same, cut]⟩

theorem word?_word {word rest : List Char} (parts : ∀ c ∈ word, WordPart c) (clear : Clear rest) :
    word? (word ++ rest) = some (Token.ofWord (String.ofList word), rest) := by
  have all : ∀ c ∈ word, isWordPart c = true := fun c member => isWordPart_iff.2 (parts c member)
  have stop : startsWith isWordPart rest = false := clear.stops (by decide)
  have noQuote : startsWith isQuote rest = false := clear.stops (by decide)
  unfold word?
  rw [takeWhile_run all stop, dropWhile_run all stop]
  cases rest with
  | nil => rfl
  | cons c rest =>
    have other : isQuote c = false := noQuote
    simp [other]

theorem word?_hexString {quote : Char} {digits rest : List Char} (isQuote : Quote quote)
    (allHex : ∀ c ∈ digits, HexDigit c) :
    word? ('h' :: 'e' :: 'x' :: quote :: (digits ++ quote :: rest)) =
      some (.hexString, rest) := by
  have stop : startsWith isWordPart (quote :: (digits ++ quote :: rest)) = false := by
    rw [startsWith_cons]
    rcases isQuote with rfl | rfl <;> decide
  have letters : ∀ c ∈ ['h', 'e', 'x'], isWordPart c = true := List.all_eq_true.1 (by decide)
  have taken := takeWhile_run letters stop
  have behind := dropWhile_run letters stop
  simp only [List.cons_append, List.nil_append] at taken behind
  have closes : afterHexString? quote (digits ++ quote :: rest) = some rest :=
    (afterHexString?_eq_some_iff isQuote).2 ⟨digits, allHex, rfl⟩
  unfold word?
  rw [taken, behind]
  simp only [isQuote_iff.2 isQuote, closes]
  rfl

/-! ## Symbols -/

theorem spells_of_symbol? {input after : List Char} {token : Token}
    (read : symbol? input = some (token, after)) :
    ∃ lexeme, Spells token lexeme ∧ input = lexeme ++ after := by
  unfold symbol? at read
  split at read
  · cases read
  · rcases Option.map_eq_some_iff.1 read with ⟨symbol, found, pair⟩
    cases pair
    unfold Symbol.atStart? at found
    have start := List.find?_some found
    rcases List.isPrefixOf_iff_prefix.1 start with ⟨rest, rfl⟩
    refine ⟨_, .symbol symbol, ?_⟩
    rw [← String.length_toList, List.drop_left]

/-- Behind its first character a symbol has neither blanks nor slashes. -/
theorem symbol_tail (symbol : Symbol) :
    ∀ c ∈ symbol.text.toList.tail, c ∉ '/' :: Trivia.blanks := by
  have each : ∀ symbol ∈ Symbol.all,
      symbol.text.toList.tail.all (fun c => c ∉ '/' :: Trivia.blanks) = true := by
    decide +kernel
  exact forall_of_all (each symbol (Symbol.mem_all symbol))

/-- What follows as trivia does makes no symbol longer. -/
theorem isPrefixOf_append_clear (symbol : Symbol) {lexeme rest : List Char} (nonempty : lexeme ≠ [])
    (clear : Clear rest) :
    symbol.text.toList.isPrefixOf (lexeme ++ rest) = symbol.text.toList.isPrefixOf lexeme := by
  rw [Bool.eq_iff_iff, List.isPrefixOf_iff_prefix, List.isPrefixOf_iff_prefix]
  refine ⟨fun start => ?_, fun start => start.trans (List.prefix_append ..)⟩
  rcases List.prefix_or_prefix_of_prefix start (List.prefix_append lexeme rest) with
    within | ⟨beyond, longer⟩
  · exact within
  · rw [← longer, List.prefix_append_right_inj] at start
    cases beyond with
    | nil => exact ⟨[], by rw [← longer, List.append_nil, List.append_nil]⟩
    | cons c beyond =>
      rcases start with ⟨more, rfl⟩
      have tail := symbol_tail symbol c
      rw [← longer, List.tail_append_of_ne_nil nonempty] at tail
      exact absurd (clear c rfl) (tail (by simp))

theorem symbol?_text (symbol : Symbol) {rest : List Char} (clear : Clear rest) :
    symbol? (symbol.text.toList ++ rest) = some (.symbol symbol, rest) := by
  have each : ∀ symbol ∈ Symbol.all, symbol.text.toList ≠ [] ∧
      ¬ ['/', '*'] <+: symbol.text.toList ∧
      Symbol.atStart? symbol.text.toList = some symbol := by decide +kernel
  rcases each symbol (Symbol.mem_all symbol) with ⟨nonempty, noComment, alone⟩
  have found : Symbol.atStart? (symbol.text.toList ++ rest) = some symbol := by
    rw [← alone]
    exact congrArg (fun start => List.find? start Symbol.all)
      (funext fun other => isPrefixOf_append_clear other nonempty clear)
  unfold symbol?
  split
  · next more opens =>
    match letters : symbol.text.toList, nonempty with
    | [c], _ =>
      rw [letters, List.singleton_append, List.cons.injEq] at opens
      have star := clear '*' (by rw [opens.2]; rfl)
      exact absurd star (by decide)
    | c :: d :: others, _ =>
      rw [letters, List.cons_append, List.cons_append, List.cons.injEq, List.cons.injEq] at opens
      rw [letters, opens.1, opens.2.1] at noComment
      exact absurd ⟨others, rfl⟩ noComment
  · rw [found, Option.map_some, ← String.length_toList, List.drop_left]

/-! ## Lexemes of all sorts -/

/-- What is taken off the start of a text is a lexeme of the reported token. -/
theorem spells_of_atStart? {input after : List Char} {token : Token}
    (read : atStart? input = some (token, after)) :
    ∃ lexeme, Spells token lexeme ∧ input = lexeme ++ after := by
  revert read
  fun_cases atStart? input with
  | case1 => exact fun read => nomatch read
  | case2 c rest digit =>
    intro read
    cases read
    have starts : startsWith Char.isDigit (c :: rest) = true := digit
    rcases exists_number starts with ⟨number, isNumber, split⟩
    exact ⟨number, .number isNumber, split⟩
  | case3 c rest _ period =>
    intro read
    cases read
    simp only [Bool.and_eq_true, decide_eq_true_eq] at period
    rcases period with ⟨rfl, starts⟩
    rcases several_of_startsWith isDigit_iff starts with ⟨digits, several, split⟩
    rcases exists_exponent (rest.dropWhile Char.isDigit) with ⟨exponent, isExponent, behind⟩
    refine ⟨_, .number (.leadingDot several isExponent), ?_⟩
    rw [List.cons_append, List.append_assoc, ← behind, ← split]
  | case4 c rest _ _ quote =>
    intro read
    have isQuote := isQuote_iff.1 quote
    rcases Option.map_eq_some_iff.1 read with ⟨closed, closes, pair⟩
    cases pair
    rcases (afterString?_eq_some_iff isQuote).1 closes with ⟨body, quoted, rfl⟩
    exact ⟨_, .string isQuote quoted, by simp⟩
  | case5 c rest _ _ _ start => exact spells_of_word? (isWordStart_iff.1 start)
  | case6 => exact spells_of_symbol?

theorem atStart?_digit {input : List Char} (starts : startsWith Char.isDigit input = true) :
    atStart? input = some (.number, afterNumber input) := by
  cases input with
  | nil => cases starts
  | cons c rest => exact if_pos starts

theorem atStart?_period {rest : List Char} (starts : startsWith Char.isDigit rest = true) :
    atStart? ('.' :: rest) = some (.number, afterExponent (rest.dropWhile Char.isDigit)) := by
  rw [atStart?, if_neg (by decide), if_pos (by rw [starts]; decide)]

theorem atStart?_quote {quote : Char} (isQuote : Quote quote) (rest : List Char) :
    atStart? (quote :: rest) =
      (afterString? quote rest).map fun after => (Token.string, after) := by
  rcases isQuote with rfl | rfl
  · rw [atStart?, if_neg (by decide), if_neg (by simp), if_pos (by decide)]
  · rw [atStart?, if_neg (by decide), if_neg (by simp), if_pos (by decide)]

theorem atStart?_word {first : Char} (start : WordStart first) (rest : List Char) :
    atStart? (first :: rest) = word? (first :: rest) := by
  have isStart := isWordStart_iff.2 start
  rcases isWordStart_cases isStart with ⟨digit, period, quote, _, _⟩
  rw [atStart?, if_neg (Bool.eq_false_iff.1 digit), if_neg (by simp [period]),
    if_neg (Bool.eq_false_iff.1 quote), if_pos isStart]

theorem atStart?_other {c : Char} {rest : List Char}
    (other : c.isDigit = false ∧ isQuote c = false ∧ isWordStart c = false)
    (noPeriod : c = '.' → startsWith Char.isDigit rest = false) :
    atStart? (c :: rest) = symbol? (c :: rest) := by
  rcases other with ⟨digit, quote, word⟩
  have notNumber : (decide (c = '.') && startsWith Char.isDigit rest) = false := by
    by_cases period : c = '.'
    · rw [noPeriod period, Bool.and_false]
    · rw [decide_eq_false period, Bool.false_and]
  rw [atStart?, if_neg (Bool.eq_false_iff.1 digit), if_neg (Bool.eq_false_iff.1 notNumber),
    if_neg (Bool.eq_false_iff.1 quote), if_neg (Bool.eq_false_iff.1 word)]

theorem atStart?_text (symbol : Symbol) {rest : List Char} (clear : Clear rest) :
    atStart? (symbol.text.toList ++ rest) = some (.symbol symbol, rest) := by
  have each : ∀ symbol ∈ Symbol.all, symbol.text.toList ≠ [] ∧
      symbol.text.toList.head?.all (fun c =>
        (c.isDigit = false ∧ isQuote c = false ∧ isWordStart c = false) ∧
        (c = '.' → symbol.text.toList.tail = [])) = true := by decide +kernel
  rcases each symbol (Symbol.mem_all symbol) with ⟨nonempty, starts⟩
  rw [← symbol?_text symbol clear]
  match symbol.text.toList, nonempty, starts with
  | c :: tail, _, starts =>
    rcases of_decide_eq_true starts with ⟨other, alone⟩
    refine atStart?_other other fun period => ?_
    have nothing : tail = [] := alone period
    rw [nothing]
    exact clear.stops (by decide)

/-- A lexeme is taken off whole where nothing but trivia follows it. -/
theorem atStart?_append {token : Token} {lexeme rest : List Char} (spells : Spells token lexeme)
    (clear : Clear rest) : atStart? (lexeme ++ rest) = some (token, rest) := by
  cases spells with
  | symbol symbol => exact atStart?_text symbol clear
  | number isNumber =>
    cases isNumber with
    | decimal several isFraction isExponent =>
      rw [List.append_assoc, List.append_assoc, atStart?_digit (several.starts isDigit_iff),
        afterNumber_decimal several isFraction isExponent clear]
    | @leadingDot digits exponent several isExponent =>
      have stop := startsWith_exponent (p := Char.isDigit) isExponent clear (by decide)
      rw [List.cons_append, List.append_assoc, atStart?_period (several.starts isDigit_iff),
        several.dropWhile isDigit_iff stop, afterExponent_append isExponent clear]
    | @hexadecimal x digits mark several =>
      have zero : startsWith Char.isDigit ('0' :: x :: (digits ++ rest)) = true := rfl
      rw [List.cons_append, List.cons_append, atStart?_digit zero,
        afterNumber_hexadecimal mark several clear]
  | @string quote body isQuote quoted =>
    have closes : afterString? quote (body ++ quote :: rest) = some rest :=
      (afterString?_eq_some_iff isQuote).2 ⟨body, quoted, rfl⟩
    rw [List.cons_append, List.append_assoc, List.singleton_append, atStart?_quote isQuote,
      closes, Option.map_some]
  | hexString isQuote allHex =>
    have start : WordStart 'h' := by decide
    simp only [List.cons_append, List.append_assoc, List.nil_append]
    rw [atStart?_word start, word?_hexString isQuote allHex]
  | @word first tail start parts =>
    have allParts : ∀ c ∈ first :: tail, WordPart c := by
      intro c member
      rcases List.mem_cons.1 member with rfl | later
      · exact start.part
      · exact parts c later
    rw [List.cons_append, atStart?_word start, ← List.cons_append, word?_word allParts clear]

/-! ## Lexemes are no trivia -/

theorem skip_of_no_trivia {c : Char} {rest : List Char} (blank : c ∉ Trivia.blanks)
    (noLine : c = '/' → startsWith (· = '/') rest = false)
    (noBlock : c = '/' → startsWith (· = '*') rest = false) :
    Trivia.skip (c :: rest) = c :: rest := by
  rw [Trivia.skip, if_neg (fun isBlank => blank (Trivia.isBlank_iff.1 isBlank))]
  · rintro after rfl rfl
    exact absurd (noLine rfl) (by simp)
  · rintro after rfl rfl
    exact absurd (noBlock rfl) (by simp)

/-- A lexeme starts with no blank, and only `/` and `/=` start with a slash. -/
theorem Spells.first {token : Token} {lexeme : List Char} (spells : Spells token lexeme) :
    ∃ c tail, lexeme = c :: tail ∧ c ∉ Trivia.blanks ∧ (c = '/' → tail = [] ∨ tail = ['=']) := by
  -- Only a symbol can start with a slash at all.
  have other : ∀ {c : Char} {tail : List Char}, c ∉ '/' :: Trivia.blanks →
      ∃ first more, c :: tail = first :: more ∧ first ∉ Trivia.blanks ∧
        (first = '/' → more = [] ∨ more = ['=']) := by
    intro c tail excluded
    simp only [List.mem_cons, not_or] at excluded
    exact ⟨c, tail, rfl, excluded.2, fun slash => absurd slash excluded.1⟩
  cases spells with
  | symbol symbol =>
    have each : ∀ symbol ∈ Symbol.all, symbol.text.toList ≠ [] ∧
        symbol.text.toList.head?.all (fun c => c ∉ Trivia.blanks ∧
          (c = '/' → symbol.text.toList.tail = [] ∨ symbol.text.toList.tail = ['='])) = true := by
      decide +kernel
    rcases each symbol (Symbol.mem_all symbol) with ⟨nonempty, starts⟩
    match symbol.text.toList, nonempty, starts with
    | c :: tail, _, starts => exact ⟨c, tail, rfl, of_decide_eq_true starts⟩
  | number isNumber =>
    cases isNumber with
    | @decimal whole fraction exponent several _ _ =>
      have noDigits : ∀ c ∈ '/' :: Trivia.blanks, ¬ Digit c := forall_of_all (by decide)
      rcases several with ⟨nonempty, digits⟩
      cases whole with
      | nil => exact absurd rfl nonempty
      | cons c whole => exact other fun member => noDigits c member (digits c (by simp))
    | leadingDot _ _ => exact other (by decide)
    | hexadecimal _ _ => exact other (by decide)
  | string isQuote _ => exact other (by rcases isQuote with rfl | rfl <;> decide)
  | hexString _ _ => exact other (by decide)
  | @word first _ start _ =>
    have noStarts : ∀ c ∈ '/' :: Trivia.blanks, ¬ WordStart c := forall_of_all (by decide)
    exact other fun member => noStarts first member start

/-- A lexeme is left where it stands, unless it is a slash that opens a comment. -/
theorem skip_append {token : Token} {lexeme rest : List Char} (spells : Spells token lexeme)
    (clear : Clear rest)
    (noComment : ¬ (lexeme = ['/'] ∧ startsWith (· = '/') rest = true)) :
    Trivia.skip (lexeme ++ rest) = lexeme ++ rest := by
  have noStar : startsWith (· = '*') rest = false := clear.stops (by decide)
  rcases spells.first with ⟨c, tail, rfl, blank, slash⟩
  refine skip_of_no_trivia blank (fun isSlash => ?_) (fun isSlash => ?_)
  · rcases slash isSlash with rfl | rfl
    · exact Bool.eq_false_iff.2 fun line => noComment ⟨by rw [isSlash], line⟩
    · rfl
  · rcases slash isSlash with rfl | rfl
    · exact noStar
    · rfl

end Lexeme
end ContractTree
