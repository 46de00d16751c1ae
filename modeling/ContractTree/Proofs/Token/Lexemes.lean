import ContractTree.Proofs.Token.Trivia
import ContractTree.Token.Lexeme

namespace ContractTree

/-!
# What lexemes are

A grammar that says which texts are lexemes of which token, without a word about how
they are found.  Numbers, strings and words are given by the characters that they
consist of, symbols by their spellings.
-/

namespace Lexeme

/-! ## Characters -/

def Digit (c : Char) : Prop := '0' ≤ c ∧ c ≤ '9'

def HexDigit (c : Char) : Prop := Digit c ∨ ('a' ≤ c ∧ c ≤ 'f') ∨ ('A' ≤ c ∧ c ≤ 'F')

def WordStart (c : Char) : Prop :=
  ('a' ≤ c ∧ c ≤ 'z') ∨ ('A' ≤ c ∧ c ≤ 'Z') ∨ c = '_' ∨ c = '$'

def WordPart (c : Char) : Prop := WordStart c ∨ Digit c

def Quote (c : Char) : Prop := c = '"' ∨ c = '\''

instance (c : Char) : Decidable (Digit c) := inferInstanceAs (Decidable (_ ∧ _))

instance (c : Char) : Decidable (HexDigit c) := inferInstanceAs (Decidable (_ ∨ _))

instance (c : Char) : Decidable (WordStart c) := inferInstanceAs (Decidable (_ ∨ _))

instance (c : Char) : Decidable (WordPart c) := inferInstanceAs (Decidable (_ ∨ _))

instance (c : Char) : Decidable (Quote c) := inferInstanceAs (Decidable (_ ∨ _))

theorem isDigit_iff {c : Char} : c.isDigit = true ↔ Digit c := by
  simp [Char.isDigit, Digit, Char.le_def]

theorem isHexDigit_iff {c : Char} : isHexDigit c = true ↔ HexDigit c := by
  simp [isHexDigit, HexDigit, isDigit_iff, or_assoc]

theorem isWordStart_iff {c : Char} : isWordStart c = true ↔ WordStart c := by
  have letter : c.isAlpha = (decide (c.val ≥ 'A'.val ∧ c.val ≤ 'Z'.val) ||
      (decide (c.val ≥ 'a'.val) && decide (c.val ≤ 'z'.val))) := rfl
  simp [isWordStart, WordStart, letter, Char.le_def]
  tauto

theorem isWordPart_iff {c : Char} : isWordPart c = true ↔ WordPart c := by
  rw [WordPart, ← isWordStart_iff, ← isDigit_iff]
  simp [isWordPart, isWordStart, Char.isAlphanum]
  tauto

theorem isQuote_iff {c : Char} : isQuote c = true ↔ Quote c := by
  simp [isQuote, Quote]

/-! ## Numbers, strings and words -/

/-- One or more characters of a sort. -/
def Several (sort : Char → Prop) (text : List Char) : Prop :=
  text ≠ [] ∧ ∀ c ∈ text, sort c

/-- An exponent that may be left out. -/
inductive Exponent : List Char → Prop where
  | none : Exponent []
  | plain {e : Char} {digits : List Char} (mark : e = 'e' ∨ e = 'E')
    (several : Several Digit digits) : Exponent (e :: digits)
  | negative {e : Char} {digits : List Char} (mark : e = 'e' ∨ e = 'E')
    (several : Several Digit digits) : Exponent (e :: '-' :: digits)

/-- A fraction that may be left out. -/
inductive Fraction : List Char → Prop where
  | none : Fraction []
  | some {digits : List Char} (several : Several Digit digits) : Fraction ('.' :: digits)

inductive Number : List Char → Prop where
  | decimal {whole fraction exponent : List Char} (several : Several Digit whole)
    (isFraction : Fraction fraction) (isExponent : Exponent exponent) :
    Number (whole ++ (fraction ++ exponent))
  | leadingDot {digits exponent : List Char} (several : Several Digit digits)
    (isExponent : Exponent exponent) : Number ('.' :: (digits ++ exponent))
  | hexadecimal {x : Char} {digits : List Char} (mark : x = 'x' ∨ x = 'X')
    (several : Several HexDigit digits) : Number ('0' :: x :: digits)

/-- What may stand between two quotes of one sort. -/
inductive Quoted (quote : Char) : List Char → Prop where
  | nil : Quoted quote []
  | plain {c : Char} {rest : List Char} (notQuote : c ≠ quote) (notEscape : c ≠ '\\')
    (notFeed : c ≠ '\n') (others : Quoted quote rest) : Quoted quote (c :: rest)
  | escaped {c : Char} {rest : List Char} (notFeed : c ≠ '\n') (others : Quoted quote rest) :
    Quoted quote ('\\' :: c :: rest)

/-- The texts that are lexemes of a token. -/
inductive Spells : Token → List Char → Prop where
  | symbol (symbol : Symbol) : Spells (.symbol symbol) symbol.text.toList
  | number {text : List Char} (isNumber : Number text) : Spells .number text
  | string {quote : Char} {body : List Char} (isQuote : Quote quote)
    (quoted : Quoted quote body) : Spells .string (quote :: (body ++ [quote]))
  | hexString {quote : Char} {digits : List Char} (isQuote : Quote quote)
    (allHex : ∀ c ∈ digits, HexDigit c) :
    Spells .hexString ('h' :: 'e' :: 'x' :: quote :: (digits ++ [quote]))
  | word {first : Char} {rest : List Char} (start : WordStart first)
    (parts : ∀ c ∈ rest, WordPart c) :
    Spells (Token.ofWord (String.ofList (first :: rest))) (first :: rest)

theorem WordStart.part {c : Char} (start : WordStart c) : WordPart c := .inl start

/-! ## Runs of characters of one sort -/

@[simp] theorem startsWith_cons (p : Char → Bool) (c : Char) (rest : List Char) :
    startsWith p (c :: rest) = p c := rfl

section Runs

variable {p : Char → Bool} {run rest : List Char}

theorem dropWhile_run (all : ∀ c ∈ run, p c = true) (stop : startsWith p rest = false) :
    (run ++ rest).dropWhile p = rest := by
  rw [List.dropWhile_append_of_pos all]
  cases rest with
  | nil => rfl
  | cons c rest => exact List.dropWhile_cons_of_neg (Bool.eq_false_iff.1 stop)

theorem takeWhile_run (all : ∀ c ∈ run, p c = true) (stop : startsWith p rest = false) :
    (run ++ rest).takeWhile p = run := by
  rw [List.takeWhile_append_of_pos all]
  cases rest with
  | nil => exact List.append_nil run
  | cons c rest =>
    have other : ¬ p c = true := Bool.eq_false_iff.1 stop
    rw [List.takeWhile_cons_of_neg other, List.append_nil]

/-- A text that starts with a character of a sort is cut behind the last one. -/
theorem several_of_startsWith {sort : Char → Prop} (sorts : ∀ {c}, p c = true ↔ sort c)
    {text : List Char} (starts : startsWith p text = true) :
    ∃ run, Several sort run ∧ text = run ++ text.dropWhile p := by
  cases text with
  | nil => cases starts
  | cons c text =>
    refine ⟨(c :: text).takeWhile p, ⟨?_, fun d member => ?_⟩,
      (List.takeWhile_append_dropWhile).symm⟩
    · have first : p c = true := starts
      rw [List.takeWhile_cons_of_pos first]
      exact List.cons_ne_nil _ _
    · exact sorts.1 (List.mem_takeWhile_imp member)

/-- A text is cut at the first separator, if something stands behind it. -/
theorem append_separator {separator : Char} {text : List Char}
    (more : (text.dropWhile (· ≠ separator)).drop 1 ≠ []) :
    text = text.takeWhile (· ≠ separator) ++
      separator :: (text.dropWhile (· ≠ separator)).drop 1 := by
  have whole := List.takeWhile_append_dropWhile (p := (· ≠ separator)) (l := text)
  cases behind : text.dropWhile (· ≠ separator) with
  | nil => exact absurd (by rw [behind]; rfl) more
  | cons c rest =>
    have stops := List.head?_dropWhile_not (· ≠ separator) text
    simp only [behind, List.head?_cons, decide_eq_false_iff_not, not_not] at stops
    rw [behind, stops] at whole
    exact whole.symm

theorem Several.starts {sort : Char → Prop} (sorts : ∀ {c}, p c = true ↔ sort c)
    (several : Several sort run) : startsWith p (run ++ rest) = true := by
  rcases several with ⟨some, all⟩
  cases run with
  | nil => exact absurd rfl some
  | cons c run => exact sorts.2 (all c (List.mem_cons_self ..))

theorem Several.dropWhile {sort : Char → Prop} (sorts : ∀ {c}, p c = true ↔ sort c)
    (several : Several sort run) (stop : startsWith p rest = false) :
    (run ++ rest).dropWhile p = rest :=
  dropWhile_run (fun c member => sorts.2 (several.2 c member)) stop

end Runs

/-! ## What may follow a lexeme -/

/-- A text that is empty or starts as trivia does. -/
def Clear (rest : List Char) : Prop :=
  ∀ c ∈ rest.head?, c ∈ '/' :: Trivia.blanks

theorem clear_of_tail {rest : List Char} (tail : Trivia.Tail rest) : Clear rest := by
  have ofRun : ∀ {run more : List Char}, Trivia.Run run → Clear more → Clear (run ++ more) := by
    intro run more isRun clear
    cases isRun with
    | nil => exact clear
    | cons first others =>
      cases first with
      | blank isBlank => simpa [Clear] using Or.inr isBlank
      | line _ => simp [Clear]
      | block _ => simp [Clear]
  cases tail with
  | closed run =>
    rw [← List.append_nil rest]
    exact ofRun run (by simp [Clear])
  | line run _ => exact ofRun run (by simp [Clear])

/-- No character of a sort comes next, if neither a blank nor a slash is one. -/
theorem Clear.stops {p : Char → Bool} {rest : List Char} (clear : Clear rest)
    (others : ('/' :: Trivia.blanks).all (fun c => !p c) = true) : startsWith p rest = false := by
  cases rest with
  | nil => rfl
  | cons c rest =>
    have excluded := List.all_eq_true.1 others c (clear c rfl)
    rwa [Bool.not_eq_true'] at excluded

end Lexeme
end ContractTree
