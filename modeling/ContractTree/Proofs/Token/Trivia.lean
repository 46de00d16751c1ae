import ContractTree.Token.Trivia
import Mathlib.Data.List.Infix
import Mathlib.Data.List.TakeWhile

namespace ContractTree

/-!
# What trivia is

A grammar of blanks and comments, and the proof that skipping takes away just what
the grammar describes.  A run of trivia is a sequence of closed pieces, and any text
may follow it.  Trivia at the end of a text may have one piece more: a line comment
that no line feed ends.
-/

namespace Trivia

/-- The characters that are trivia on their own. -/
def blanks : List Char := [' ', '\t', '\r', '\n', '\x0c']

/-- One blank or one comment that is closed.  The `*/` that closes a block comment
is the first one behind its opening. -/
inductive Piece : List Char → Prop where
  | blank {c : Char} (isBlank : c ∈ blanks) : Piece [c]
  | line {body : List Char} (oneLine : '\n' ∉ body) : Piece ('/' :: '/' :: (body ++ ['\n']))
  | block {body : List Char} (first : ¬ ['*', '/'] <:+: body ++ ['*']) :
    Piece ('/' :: '*' :: (body ++ ['*', '/']))

/-- A sequence of blanks and closed comments. -/
inductive Run : List Char → Prop where
  | nil : Run []
  | cons {piece rest : List Char} (first : Piece piece) (others : Run rest) : Run (piece ++ rest)

/-- Trivia up to the end of a text, where a line comment needs no line feed. -/
inductive Tail : List Char → Prop where
  | closed {text : List Char} (run : Run text) : Tail text
  | line {before body : List Char} (run : Run before) (oneLine : '\n' ∉ body) :
    Tail (before ++ '/' :: '/' :: body)

theorem isBlank_iff {c : Char} : isBlank c = true ↔ c ∈ blanks := by
  simp [isBlank, blanks, or_assoc]

theorem Tail.cons {piece text : List Char} (first : Piece piece) (others : Tail text) :
    Tail (piece ++ text) := by
  cases others with
  | closed run => exact .closed (.cons first run)
  | line run oneLine =>
    rw [← List.append_assoc]
    exact .line (.cons first run) oneLine

/-! ## Comments -/

/-- What stands behind the end of a line comment, if a line feed ends it. -/
theorem afterLine_append {body rest : List Char} (oneLine : '\n' ∉ body) :
    afterLine (body ++ '\n' :: rest) = '\n' :: rest := by
  have inLine : ∀ c ∈ body, decide (c ≠ '\n') = true := fun c member =>
    decide_eq_true fun same => oneLine (same ▸ member)
  rw [afterLine, List.dropWhile_append_of_pos inLine]
  rfl

theorem afterLine_of_oneLine {body : List Char} (oneLine : '\n' ∉ body) : afterLine body = [] :=
  List.dropWhile_eq_nil_iff.2 fun _ member =>
    decide_eq_true fun same => oneLine (same ▸ member)

/-- A text is a single line, or it is one up to its first line feed. -/
theorem oneLine_or_split (text : List Char) :
    '\n' ∉ text ∨ ∃ body rest, '\n' ∉ body ∧ text = body ++ '\n' :: rest := by
  induction text with
  | nil => exact .inl (by simp)
  | cons c text ih =>
    by_cases feed : c = '\n'
    · exact .inr ⟨[], text, by simp, by rw [feed, List.nil_append]⟩
    · rcases ih with oneLine | ⟨body, rest, oneLine, rfl⟩
      · exact .inl (by simp [Ne.symm feed, oneLine])
      · exact .inr ⟨c :: body, rest, by simp [Ne.symm feed, oneLine], rfl⟩

/-- The `*/` that ends a block comment is the first one. -/
theorem afterClose?_eq_some_iff {input rest : List Char} :
    afterClose? input = some rest ↔
      ∃ body, ¬ ['*', '/'] <:+: body ++ ['*'] ∧ input = body ++ '*' :: '/' :: rest := by
  constructor
  · intro closed
    fun_induction afterClose? input with
    | case1 after =>
      cases closed
      exact ⟨[], by decide, rfl⟩
    | case2 c after notClose ih =>
      rcases ih closed with ⟨body, first, rfl⟩
      refine ⟨c :: body, ?_, rfl⟩
      rw [List.cons_append, List.infix_cons_iff]
      rintro (start | inside)
      · rcases List.cons_prefix_cons.1 start with ⟨rfl, second⟩
        cases body with
        | nil => exact absurd second (by decide)
        | cons d body =>
          rcases List.cons_prefix_cons.1 second with ⟨rfl, _⟩
          exact notClose (body ++ '*' :: '/' :: rest) rfl rfl
      · exact first inside
    | case3 => cases closed
  · rintro ⟨body, first, rfl⟩
    induction body with
    | nil => rfl
    | cons c body ih =>
      have later : ¬ ['*', '/'] <:+: body ++ ['*'] := fun inside =>
        first (List.infix_cons_iff.2 (.inr inside))
      rw [List.cons_append, afterClose?, ih later]
      rintro after rfl same
      cases body with
      | nil => cases same
      | cons d body =>
        cases same
        exact first ⟨[], body ++ ['*'], rfl⟩

/-! ## Skipping -/

theorem skip_blank {c : Char} {rest : List Char} (blank : isBlank c = true) :
    skip (c :: rest) = skip rest := by
  have different : c ≠ '/' := by
    rintro rfl
    exact absurd blank (by decide)
  rw [skip, if_pos blank]
  · rintro after rfl
    exact fun _ => different rfl
  · rintro after rfl
    exact fun _ => different rfl

theorem skip_line (rest : List Char) : skip ('/' :: '/' :: rest) = skip (afterLine rest) := by
  rw [skip]

theorem skip_block {rest after : List Char} (closed : afterClose? rest = some after) :
    skip ('/' :: '*' :: rest) = skip after := by
  rw [skip]
  split
  · next behind same =>
    rw [closed] at same
    cases same
    rfl
  · next same =>
    rw [closed] at same
    cases same

theorem skip_piece {piece : List Char} (isPiece : Piece piece) (rest : List Char) :
    skip (piece ++ rest) = skip rest := by
  cases isPiece with
  | blank member => exact skip_blank (isBlank_iff.2 member)
  | @line body oneLine =>
    have feed : skip ('\n' :: rest) = skip rest := skip_blank (by decide)
    rw [List.cons_append, List.cons_append, List.append_assoc, List.singleton_append, skip_line,
      afterLine_append oneLine, feed]
  | @block body first =>
    have closed : afterClose? (body ++ ['*', '/'] ++ rest) = some rest :=
      afterClose?_eq_some_iff.2 ⟨body, first, List.append_assoc ..⟩
    exact skip_block closed

theorem skip_run {run : List Char} (isRun : Run run) (rest : List Char) :
    skip (run ++ rest) = skip rest := by
  induction isRun with
  | nil => rfl
  | cons first _ ih => rw [List.append_assoc, skip_piece first, ih]

/-- Nothing is left of trivia at the end of a text. -/
theorem skip_tail {text : List Char} (tail : Tail text) : skip text = [] := by
  cases tail with
  | closed run =>
    have left := skip_run run []
    rw [List.append_nil] at left
    rw [left, skip]
  | line run oneLine => rw [skip_run run, skip_line, afterLine_of_oneLine oneLine, skip]

/-- A text opens a last line comment, starts with a piece of trivia, or is left as it
is. -/
theorem starts_cases (input : List Char) :
    (∃ body, '\n' ∉ body ∧ input = '/' :: '/' :: body) ∨
    (∃ piece rest, Piece piece ∧ input = piece ++ rest ∧ rest.length < input.length) ∨
    skip input = input := by
  fun_cases skip input with
  | case1 rest =>
    rcases oneLine_or_split rest with oneLine | ⟨body, after, oneLine, rfl⟩
    · exact .inl ⟨rest, oneLine, rfl⟩
    · refine .inr (.inl ⟨_, after, .line oneLine, by simp, ?_⟩)
      simp only [List.length_cons, List.length_append]
      omega
  | case2 rest after closed =>
    rcases afterClose?_eq_some_iff.1 closed with ⟨body, first, rfl⟩
    refine .inr (.inl ⟨_, after, .block first, by simp, ?_⟩)
    simp only [List.length_cons, List.length_append]
    omega
  | case3 => exact .inr (.inr rfl)
  | case4 c rest _ _ blank =>
    exact .inr (.inl ⟨[c], rest, .blank (isBlank_iff.1 blank), rfl, Nat.lt_succ_self _⟩)
  | case5 => exact .inr (.inr rfl)
  | case6 => exact .inr (.inr rfl)

/-- What is skipped is a run of trivia, or the text is trivia up to its end. -/
theorem skip_cases (input : List Char) :
    (∃ run, Run run ∧ input = run ++ skip input) ∨ (Tail input ∧ skip input = []) := by
  rcases starts_cases input with ⟨body, oneLine, rfl⟩ | ⟨piece, rest, isPiece, rfl, shorter⟩ | same
  · have tail : Tail ('/' :: '/' :: body) := .line .nil oneLine
    exact .inr ⟨tail, skip_tail tail⟩
  · rw [skip_piece isPiece]
    rcases skip_cases rest with ⟨run, isRun, split⟩ | ⟨tail, nothing⟩
    · refine .inl ⟨piece ++ run, .cons isPiece isRun, ?_⟩
      rw [List.append_assoc, ← split]
    · exact .inr ⟨.cons isPiece tail, nothing⟩
  · exact .inl ⟨[], .nil, same.symm⟩
termination_by input.length

/-- Nothing is left of a text just if it is trivia up to its end. -/
theorem skip_eq_nil_iff {input : List Char} : skip input = [] ↔ Tail input := by
  refine ⟨fun nothing => ?_, skip_tail⟩
  rcases skip_cases input with ⟨run, isRun, split⟩ | ⟨tail, _⟩
  · rw [nothing, List.append_nil] at split
    exact .closed (split ▸ isRun)
  · exact tail

/-- Where something is left, a run of trivia was skipped. -/
theorem run_of_skip {input : List Char} (something : skip input ≠ []) :
    ∃ run, Run run ∧ input = run ++ skip input := by
  rcases skip_cases input with split | ⟨_, nothing⟩
  · exact split
  · exact absurd nothing something

/-- What is left does not start with trivia. -/
theorem skip_skip (input : List Char) : skip (skip input) = skip input := by
  by_cases something : skip input = []
  · rw [something, skip]
  · rcases run_of_skip something with ⟨run, isRun, split⟩
    rw [← skip_run isRun (skip input), ← split]

/-- What is left does not open a line comment. -/
theorem skip_ne_line (input rest : List Char) : skip input ≠ '/' :: '/' :: rest := by
  intro line
  have stays := skip_skip input
  rw [line, skip_line] at stays
  have shorter : (skip (afterLine rest)).length ≤ (afterLine rest).length := by
    rcases skip_cases (afterLine rest) with ⟨run, _, split⟩ | ⟨_, nothing⟩
    · have lengths := congrArg List.length split
      rw [List.length_append] at lengths
      omega
    · rw [nothing]
      exact Nat.zero_le _
  have within := length_afterLine rest
  rw [stays] at shorter
  simp only [List.length_cons] at shorter
  omega

theorem skip_suffix (text : List Char) : skip text <:+ text := by
  rcases skip_cases text with ⟨run, _, split⟩ | ⟨_, nothing⟩
  · exact ⟨run, split.symm⟩
  · rw [nothing]
    exact List.nil_suffix

theorem Piece.ne_nil {piece : List Char} (isPiece : Piece piece) : piece ≠ [] := by
  cases isPiece <;> simp

/-- Something stands at the start of a text, and it is neither a blank nor a comment. -/
structure Bare (text : List Char) : Prop where
  nonempty : text ≠ []
  noPiece : ∀ piece, Piece piece → ¬ piece <+: text
  noLine : ¬ ['/', '/'] <+: text

theorem Bare.skip_eq {text : List Char} (bare : Bare text) : skip text = text := by
  rcases starts_cases text with ⟨body, _, rfl⟩ | ⟨piece, rest, isPiece, rfl, _⟩ | same
  · exact absurd ⟨body, rfl⟩ bare.noLine
  · exact absurd (List.prefix_append piece rest) (bare.noPiece piece isPiece)
  · exact same

/-- What is left behind the trivia of a text starts with none. -/
theorem bare_skip {text : List Char} (something : skip text ≠ []) : Bare (skip text) := by
  refine ⟨something, ?_, ?_⟩
  · rintro piece isPiece ⟨rest, split⟩
    have stays := skip_skip text
    rw [← split, skip_piece isPiece] at stays
    have shorter := (skip_suffix rest).length_le
    rw [stays, List.length_append] at shorter
    have positive := List.length_pos_of_ne_nil isPiece.ne_nil
    omega
  · rintro ⟨rest, split⟩
    exact skip_ne_line text rest split.symm

/-! ## Trivia that goes on -/

theorem Run.append {run other : List Char} (first : Run run) (second : Run other) :
    Run (run ++ other) := by
  induction first with
  | nil => exact second
  | cons piece _ ih =>
    rw [List.append_assoc]
    exact .cons piece ih

/-- A line feed ends a last line comment. -/
theorem Tail.run_feed {text : List Char} (tail : Tail text) : Run (text ++ ['\n']) := by
  cases tail with
  | closed run => exact run.append (.cons (.blank (by decide)) .nil)
  | @line before body run oneLine =>
    have comment : Run ('/' :: '/' :: (body ++ ['\n'])) := by
      simpa using Run.cons (.line oneLine) .nil
    simpa using run.append comment

end Trivia
end ContractTree
