import ContractTree.Proofs.Token.Single

namespace ContractTree

/-!
# Where a scan breaks off

An error of the scanner names a place in the text, and the place is where the text falls
apart.  In front of input that follows the first token the text holds just that token;
in front of input that is no lexeme it holds nothing but trivia.  What stands at the
place is no trivia itself, so scanning it by itself goes wrong at its start or not before
a first token has been read.

Offsets count bytes.  All of them lie between two characters, for what the scanner has
passed over is a list of whole characters.
-/

namespace Token

open Lexeme (Spells)

/-! ## Bytes and positions -/

theorem utf8ByteSize_ofList (text : List Char) :
    (String.ofList text).utf8ByteSize = byteLength text := by
  induction text with
  | nil => rfl
  | cons c text ih =>
    rw [String.ofList_cons, String.utf8ByteSize_append, String.utf8ByteSize_singleton, ih]
    rfl

theorem byteLength_toList (text : String) : byteLength text.toList = text.utf8ByteSize := by
  rw [← utf8ByteSize_ofList, String.ofList_toList]

theorem byteLength_pos {text : List Char} (nonempty : text ≠ []) : 0 < byteLength text := by
  cases text with
  | nil => exact absurd rfl nonempty
  | cons c text => exact Nat.add_pos_left c.utf8Size_pos _

/-- Whole characters end at a position of the text. -/
theorem exists_pos {text : String} {before rest : List Char} (cut : text.toList = before ++ rest) :
    ∃ pos : text.Pos, pos.offset.byteIdx = byteLength before ∧
      (text.sliceTo pos).copy = String.ofList before ∧
      (text.sliceFrom pos).copy = String.ofList rest := by
  have joined : text = String.ofList before ++ String.ofList rest := by
    rw [← String.ofList_append, ← cut, String.ofList_toList]
  subst joined
  have splits := @String.Pos.splits_append_rawEndPos (String.ofList before) (String.ofList rest)
  exact ⟨_, utf8ByteSize_ofList before, splits.copy_sliceTo_eq, splits.copy_sliceFrom_eq⟩

/-- A position in front of something lies within the text. -/
theorem byteLength_lt {text : String} {before rest : List Char}
    (cut : text.toList = before ++ rest) (more : rest ≠ []) :
    byteLength before < text.utf8ByteSize := by
  rw [← byteLength_toList, cut, byteLength_append]
  exact Nat.lt_add_of_pos_right (byteLength_pos more)

theorem IsSingle.ne_nil {token : Token} {text : List Char} (single : IsSingle token text) :
    text ≠ [] := by
  rcases single with ⟨before, lexeme, behind, rfl, _, spells, _⟩
  rcases spells.first with ⟨c, tail, rfl, _⟩
  simp

/-! ## Texts that start with no trivia -/

section

variable {text : List Char} (bare : Trivia.Bare text)

include bare

/-- Where no lexeme starts, the text is refused at its start. -/
theorem scanChars_bare_of_none (none : Lexeme.atStart? text = none) :
    scanChars text = .error (.unrecognized 0) := by
  rcases List.exists_cons_of_ne_nil bare.nonempty with ⟨c, rest, rfl⟩
  have atStart : offsetOf (c :: rest) (c :: rest) = 0 := Nat.sub_self _
  unfold scanChars
  rw [bare.skip_eq]
  simp only [none, atStart]

/-- A lexeme at the start is the first token, or the only one. -/
theorem scanChars_bare_of_some {token : Token} {after : List Char}
    (read : Lexeme.atStart? text = some (token, after)) :
    scanChars text = .ok token ∨ ∃ offset, scanChars text = .error (.trailing token offset) := by
  rcases List.exists_cons_of_ne_nil bare.nonempty with ⟨c, rest, rfl⟩
  unfold scanChars
  rw [bare.skip_eq]
  simp only [read]
  split
  · exact .inl rfl
  · exact .inr ⟨_, rfl⟩

/-- Such a text is not empty, and unrecognized at no later place than its start. -/
theorem scanChars_bare :
    scanChars text ≠ .error .empty ∧
      ∀ offset, scanChars text = .error (.unrecognized offset) → offset = 0 := by
  cases read : Lexeme.atStart? text with
  | none =>
    have refused := scanChars_bare_of_none bare read
    refine ⟨fun empty => ?_, fun offset other => ?_⟩
    · cases refused.symm.trans empty
    · cases refused.symm.trans other
      rfl
  | some found =>
    rcases scanChars_bare_of_some bare read with single | ⟨offset, trailing⟩
    · refine ⟨fun empty => ?_, fun offset other => ?_⟩
      · cases single.symm.trans empty
      · cases single.symm.trans other
    · refine ⟨fun empty => ?_, fun other refused => ?_⟩
      · cases trailing.symm.trans empty
      · cases trailing.symm.trans refused

end

/-- The offset of an error lies between two characters of the text, in front of something.
If it is where something follows the first token, the text up to there is scanned as that
token.  If it is where no lexeme starts, the text up to there is trivia only.  The text
from there on is refused, if no lexeme starts it, at its own start. -/
theorem scan_error_cuts (text : String) :
    (∀ first offset, scan text = .error (.trailing first offset) →
      0 < offset ∧ offset < text.utf8ByteSize ∧
      ∃ pos : text.Pos, pos.offset.byteIdx = offset ∧
        scan (text.sliceTo pos).copy = .ok first ∧
        scan (text.sliceFrom pos).copy ≠ .error .empty ∧
        ∀ other, scan (text.sliceFrom pos).copy = .error (.unrecognized other) → other = 0) ∧
    ∀ offset, scan text = .error (.unrecognized offset) →
      offset < text.utf8ByteSize ∧
      ∃ pos : text.Pos, pos.offset.byteIdx = offset ∧
        scan (text.sliceTo pos).copy = .error .empty ∧
        scan (text.sliceFrom pos).copy = .error (.unrecognized 0) := by
  have scanned : ∀ chars, scan (String.ofList chars) = scanChars chars := fun chars =>
    congrArg scanChars String.toList_ofList
  constructor
  · intro first offset broken
    rcases exists_cut_of_trailing broken with
      ⟨before, lexeme, between, rest, split, rfl, leading, spells, separating, noComment, bare⟩
    have single : IsSingle first (before ++ (lexeme ++ between)) :=
      ⟨before, lexeme, between, rfl, leading, spells, .closed separating, noComment⟩
    have cut : text.toList = before ++ (lexeme ++ between) ++ rest := by
      rw [split, List.append_assoc, List.append_assoc]
    refine ⟨byteLength_pos single.ne_nil, byteLength_lt cut bare.nonempty, ?_⟩
    rcases exists_pos cut with ⟨pos, here, upTo, onward⟩
    rw [← here]
    refine ⟨pos, rfl, ?_, ?_⟩
    · rw [upTo, scanned]
      exact scanChars_of_isSingle single
    · rw [onward, scanned]
      exact scanChars_bare bare
  · intro offset broken
    rcases exists_cut_of_unrecognized broken with ⟨before, rest, cut, rfl, run, bare, none⟩
    refine ⟨byteLength_lt cut bare.nonempty, ?_⟩
    rcases exists_pos cut with ⟨pos, here, upTo, onward⟩
    rw [← here]
    refine ⟨pos, rfl, ?_, ?_⟩
    · rw [upTo, scanned]
      exact scanChars_of_tail (.closed run)
    · rw [onward, scanned]
      exact scanChars_bare_of_none bare none

/-- A string behind a comment and in front of one, and then no lexeme. -/
def followedText : String := "/* é */ \"ü\" // ä\n #"

/-- A comment that is never closed. -/
def openedText : String := "// é\n/* open"

/-- Letters of two bytes stand in front of both places. -/
theorem scan_error_cuts_followedText :
    (∃ pos : followedText.Pos, pos.offset.byteIdx = 21 ∧
      scan (followedText.sliceTo pos).copy = .ok .string ∧
      scan (followedText.sliceFrom pos).copy ≠ .error .empty) ∧
    ∃ pos : openedText.Pos, pos.offset.byteIdx = 6 ∧
      scan (openedText.sliceTo pos).copy = .error .empty ∧
      scan (openedText.sliceFrom pos).copy = .error (.unrecognized 0) := by
  have trailing : scan followedText = .error (.trailing .string 21) := by decide +kernel
  have unrecognized : scan openedText = .error (.unrecognized 6) := by decide +kernel
  rcases (scan_error_cuts followedText).1 _ _ trailing with ⟨_, _, pos, here, first, some, _⟩
  exact ⟨⟨pos, here, first, some⟩, ((scan_error_cuts openedText).2 _ unrecognized).2⟩

end Token
end ContractTree
