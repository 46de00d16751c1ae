import ContractTree.Proofs.Token.Cuts

namespace ContractTree

/-!
# Texts joined by a line feed

No lexeme goes on past a line feed, and neither does a line comment.  What is open at the
end of a text is therefore closed by a line feed behind it, unless the text is refused on
its own.  So of two texts that a line feed joins, the second is scanned as if it stood
alone, and only the offsets move by what stands in front of it.
-/

/-- The error of a text behind so many bytes. -/
def ScanError.shift (bytes : Nat) : ScanError → ScanError
  | empty => empty
  | unrecognized offset => unrecognized (bytes + offset)
  | trailing first offset => trailing first (bytes + offset)

namespace Token

open Lexeme (Clear)

/-! ## Offsets behind other text -/

theorem byteLength_le_of_suffix {rest text : List Char} (suffix : rest <:+ text) :
    byteLength rest ≤ byteLength text := by
  rcases suffix with ⟨before, rfl⟩
  rw [byteLength_append]
  exact Nat.le_add_left _ _

theorem offsetOf_append_left {before text rest : List Char} (suffix : rest <:+ text) :
    offsetOf (before ++ text) rest = byteLength before + offsetOf text rest := by
  rw [offsetOf, byteLength_append, Nat.add_sub_assoc (byteLength_le_of_suffix suffix), offsetOf]

/-- Trivia in front of a text only moves the offset of an error. -/
theorem scanChars_run_append {run : List Char} (isRun : Trivia.Run run) (text : List Char) :
    scanChars (run ++ text) = (scanChars text).mapError (·.shift (byteLength run)) := by
  have starts := Trivia.skip_suffix text
  unfold scanChars
  rw [Trivia.skip_run isRun]
  cases skipped : Trivia.skip text with
  | nil => rfl
  | cons c rest =>
    rw [skipped] at starts
    cases read : Lexeme.atStart? (c :: rest) with
    | none =>
      simp only [read, offsetOf_append_left starts]
      rfl
    | some found =>
      rcases found with ⟨token, after⟩
      rcases Lexeme.spells_of_atStart? read with ⟨lexeme, _, cut⟩
      have behind : Trivia.skip after <:+ text :=
        ((Trivia.skip_suffix after).trans ⟨lexeme, cut.symm⟩).trans starts
      simp only [read]
      cases follows : Trivia.skip after with
      | nil => rfl
      | cons d more =>
        rw [follows] at behind
        simp only [offsetOf_append_left behind]
        rfl

/-- How many bytes of trivia a text starts with, if something follows it. -/
def FirstAt (text : List Char) (offset : Nat) : Prop :=
  ∃ before rest, text = before ++ rest ∧ Trivia.Run before ∧ Trivia.Bare rest ∧
    offset = byteLength before

theorem firstAt_iff {text : List Char} (something : Trivia.skip text ≠ []) {offset : Nat} :
    FirstAt text offset ↔ offset = offsetOf text (Trivia.skip text) := by
  constructor
  · rintro ⟨before, rest, rfl, run, bare, rfl⟩
    rw [Trivia.skip_run run, bare.skip_eq, offsetOf_append]
  · rintro rfl
    rcases Trivia.run_of_skip something with ⟨before, run, split⟩
    refine ⟨before, Trivia.skip text, split, run, Trivia.bare_skip something, ?_⟩
    have counted := offsetOf_append before (Trivia.skip text)
    rwa [← split] at counted

/-! ## A line feed behind a token -/

section

variable {token : Token} {first : List Char} (single : IsSingle token first)
  (second : List Char)

include single

/-- A single lexeme is read as before when a line feed and another text follow. -/
theorem IsSingle.exists_reads_feed :
    ∃ c tail after, Trivia.skip (first ++ '\n' :: second) = c :: tail ∧
      Lexeme.atStart? (c :: tail) = some (token, after) ∧
      Trivia.skip after = Trivia.skip second := by
  rcases single with ⟨before, lexeme, behind, rfl, leading, spells, tail, noComment⟩
  have goesOn : (behind ++ '\n' :: second).head? = (behind ++ ['\n']).head? := by
    cases behind <;> rfl
  have clear : Clear (behind ++ '\n' :: second) := by
    have closed : Clear (behind ++ ['\n']) := Lexeme.clear_of_tail (.closed tail.run_feed)
    rwa [Clear, ← goesOn] at closed
  have apart : ¬ (lexeme = ['/'] ∧ (behind ++ '\n' :: second).head? = some '/') := by
    rintro ⟨slash, starts⟩
    cases behind with
    | nil => cases starts
    | cons c behind => exact noComment ⟨slash, starts⟩
  rcases exists_reads leading spells clear apart with ⟨c, rest, stands, read⟩
  refine ⟨c, rest, _, ?_, read, ?_⟩
  · rw [← stands, List.append_assoc, List.append_assoc]
  · have skipped := Trivia.skip_run tail.run_feed second
    rwa [List.append_assoc] at skipped

theorem IsSingle.scanChars_feed_trivia (nothing : Trivia.skip second = []) :
    scanChars (first ++ '\n' :: second) = .ok token := by
  rcases single.exists_reads_feed second with ⟨c, tail, after, stands, read, same⟩
  rw [nothing] at same
  unfold scanChars
  rw [stands]
  simp only [read, same]

theorem IsSingle.scanChars_feed_more (something : Trivia.skip second ≠ []) :
    scanChars (first ++ '\n' :: second) = .error (.trailing token
      (byteLength first + 1 + offsetOf second (Trivia.skip second))) := by
  rcases single.exists_reads_feed second with ⟨c, tail, after, stands, read, same⟩
  rcases List.exists_cons_of_ne_nil something with ⟨d, more, follows⟩
  have behind := Trivia.skip_suffix second
  rw [follows] at same behind
  have moved : offsetOf (first ++ '\n' :: second) (d :: more) =
      byteLength first + 1 + offsetOf second (d :: more) := by
    have joined : first ++ '\n' :: second = first ++ ['\n'] ++ second := by simp
    rw [joined, offsetOf_append_left behind, byteLength_append]
    rfl
  unfold scanChars
  rw [stands]
  simp only [read, same, follows, moved]

end

/-- Of two texts with a line feed between them, the first may be trivia: then the second
is scanned as if it stood alone, but that the offset of an error is counted from the start
of the first.  Or the first holds one token: then so do both together, if the second is
trivia, and otherwise something follows the token, at the first place in the second that
is no trivia.  So texts with a token each are never one token when they are joined. -/
theorem scan_joined (first second : String) :
    (scan first = .error .empty →
      scan (first ++ "\n" ++ second) =
        (scan second).mapError (·.shift (first.utf8ByteSize + 1))) ∧
    ∀ token, scan first = .ok token →
      (scan second = .error .empty → scan (first ++ "\n" ++ second) = .ok token) ∧
      (¬ Trivia.Tail second.toList → ∃ offset,
        (∀ other, FirstAt second.toList other ↔ other = offset) ∧
        scan (first ++ "\n" ++ second) =
          .error (.trailing token (first.utf8ByteSize + 1 + offset))) ∧
      ∀ other, scan second = .ok other →
        ∀ both, scan (first ++ "\n" ++ second) ≠ .ok both := by
  have joined : scan (first ++ "\n" ++ second) =
      scanChars (first.toList ++ '\n' :: second.toList) := by
    rw [scan, String.toList_append, String.toList_append, List.append_assoc]
    rfl
  rw [← byteLength_toList, joined]
  refine ⟨fun empty => ?_, fun token single => ?_⟩
  · have run := (tail_of_scanChars empty).run_feed
    have moved := scanChars_run_append run second.toList
    rwa [List.append_assoc, byteLength_append] at moved
  have single : IsSingle token first.toList := isSingle_of_scanChars single
  have more : ¬ Trivia.Tail second.toList →
      scanChars (first.toList ++ '\n' :: second.toList) = .error (.trailing token
        (byteLength first.toList + 1 + offsetOf second.toList (Trivia.skip second.toList))) :=
    fun notTrivia => single.scanChars_feed_more _ (mt Trivia.skip_eq_nil_iff.1 notTrivia)
  refine ⟨fun empty => ?_, fun notTrivia => ?_, fun other alone both joins => ?_⟩
  · exact single.scanChars_feed_trivia _
      (Trivia.skip_eq_nil_iff.2 (tail_of_scanChars empty))
  · exact ⟨_, fun other => firstAt_iff (mt Trivia.skip_eq_nil_iff.1 notTrivia), more notTrivia⟩
  · have notTrivia : ¬ Trivia.Tail second.toList := fun tail => by
      cases alone.symm.trans (scanChars_of_tail tail)
    cases (more notTrivia).symm.trans joins

/-- A comment that is open at the end of the first text ends at the line feed, be there a
token in front of it or none. -/
theorem scan_joined_comments :
    scan ("/* é */ // é" ++ "\n" ++ "+ #") = .error (.trailing (.symbol .add) 17) ∧
    scan ("1 // é" ++ "\n" ++ "/**/") = .ok .number ∧
    ∃ offset, FirstAt "/**/ x".toList offset ∧
      scan ("1 // é" ++ "\n" ++ "/**/ x") = .error (.trailing .number (8 + offset)) := by
  have trivia : scan "/* é */ // é" = .error .empty := by decide +kernel
  have number : scan "1 // é" = .ok .number := by decide +kernel
  have name : scan "/**/ x" = .ok .identifier := by decide +kernel
  have notTrivia : ¬ Trivia.Tail "/**/ x".toList := fun tail => by
    cases name.symm.trans (scanChars_of_tail tail)
  refine ⟨?_, ((scan_joined _ _).2 _ number).1 (by decide +kernel), ?_⟩
  · rw [(scan_joined _ _).1 trivia]
    decide +kernel
  · rcases ((scan_joined _ _).2 _ number).2.1 notTrivia with ⟨offset, here, follows⟩
    exact ⟨offset, (here offset).2 rfl, follows⟩

end Token
end ContractTree
