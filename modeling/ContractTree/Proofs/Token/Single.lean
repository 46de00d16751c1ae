import ContractTree.Proofs.Token.Reading

namespace ContractTree

/-!
# Texts of one token are scanned exactly

The scanner reads a token from just those texts that are one lexeme of it with trivia
around it.  A text of nothing but trivia is reported as empty.  Every other text is
refused, at the place where no first lexeme starts or at the place where something
follows the first one.
-/

namespace Token

open Lexeme (Spells Clear)

/-- A lexeme of a token with trivia around it.  A slash before a line comment is no
lexeme, for the two start a comment of their own. -/
def IsSingle (token : Token) (text : List Char) : Prop :=
  ∃ before lexeme behind, text = before ++ (lexeme ++ behind) ∧
    Trivia.Run before ∧ Spells token lexeme ∧ Trivia.Tail behind ∧
    ¬ (lexeme = ['/'] ∧ behind.head? = some '/')

/-- Where a text that is neither trivia nor a single lexeme is refused. -/
inductive Refused (text : List Char) : ScanError → Prop where
  | unrecognized {before rest : List Char} (split : text = before ++ rest)
    (leading : Trivia.Run before) (more : rest ≠ []) :
    Refused text (.unrecognized (byteLength before))
  | trailing {first : Token} {before lexeme between rest : List Char}
    (split : text = before ++ (lexeme ++ (between ++ rest))) (leading : Trivia.Run before)
    (spells : Spells first lexeme) (separating : Trivia.Run between) (more : rest ≠ []) :
    Refused text (.trailing first (byteLength (before ++ (lexeme ++ between))))

theorem byteLength_append (before rest : List Char) :
    byteLength (before ++ rest) = byteLength before + byteLength rest := by
  induction before with
  | nil => simp [byteLength]
  | cons c before ih =>
    simp only [byteLength, List.cons_append, List.foldr_cons] at ih ⊢
    omega

theorem offsetOf_append (before rest : List Char) :
    offsetOf (before ++ rest) rest = byteLength before := by
  rw [offsetOf, byteLength_append, Nat.add_sub_cancel]

/-- A lexeme behind trivia is what stands first, and it is taken off whole. -/
theorem exists_reads {token : Token} {before lexeme rest : List Char}
    (leading : Trivia.Run before) (spells : Spells token lexeme) (clear : Clear rest)
    (noComment : ¬ (lexeme = ['/'] ∧ rest.head? = some '/')) :
    ∃ c tail, Trivia.skip (before ++ (lexeme ++ rest)) = c :: tail ∧
      Lexeme.atStart? (c :: tail) = some (token, rest) := by
  have stands : Trivia.skip (before ++ (lexeme ++ rest)) = lexeme ++ rest := by
    rw [Trivia.skip_run leading]
    refine Lexeme.skip_append spells clear fun ⟨slash, line⟩ => noComment ⟨slash, ?_⟩
    cases rest with
    | nil => cases line
    | cons c rest => exact congrArg some (of_decide_eq_true line)
  have read := Lexeme.atStart?_append spells clear
  rcases spells.first with ⟨c, tail, rfl, _⟩
  exact ⟨c, tail ++ rest, stands, read⟩

/-- A single lexeme is scanned as its token. -/
theorem scanChars_of_isSingle {token : Token} {text : List Char} (single : IsSingle token text) :
    scanChars text = .ok token := by
  rcases single with ⟨before, lexeme, behind, rfl, leading, spells, tail, noComment⟩
  rcases exists_reads leading spells (Lexeme.clear_of_tail tail) noComment with
    ⟨c, rest, stands, read⟩
  unfold scanChars
  rw [stands]
  simp only [read, Trivia.skip_tail tail]

/-- Trivia is scanned as an empty text. -/
theorem scanChars_of_tail {text : List Char} (tail : Trivia.Tail text) :
    scanChars text = .error .empty := by
  unfold scanChars
  rw [Trivia.skip_tail tail]

/-- What is taken off behind the trivia is a lexeme, and no slash that opens a comment. -/
theorem exists_lexeme {text rest after : List Char} {c : Char} {token : Token}
    (starts : Trivia.skip text = c :: rest)
    (read : Lexeme.atStart? (c :: rest) = some (token, after)) :
    ∃ before lexeme, text = before ++ (lexeme ++ after) ∧ Trivia.Run before ∧
      Spells token lexeme ∧ ¬ (lexeme = ['/'] ∧ after.head? = some '/') := by
  have something : Trivia.skip text ≠ [] := by simp [starts]
  rcases Trivia.run_of_skip something with ⟨before, leading, split⟩
  rcases Lexeme.spells_of_atStart? read with ⟨lexeme, spells, cut⟩
  refine ⟨before, lexeme, by rw [← cut, ← starts, ← split], leading, spells, ?_⟩
  rintro ⟨rfl, slash⟩
  cases after with
  | nil => cases slash
  | cons d after =>
    cases slash
    exact Trivia.skip_ne_line text after (starts.trans cut)

/-! ## What each outcome says of the text -/

section

variable {text : List Char}

theorem tail_of_scanChars (empty : scanChars text = .error .empty) : Trivia.Tail text := by
  unfold scanChars at empty
  split at empty
  · next nothing => exact Trivia.skip_eq_nil_iff.1 nothing
  · split at empty
    · cases empty
    · split at empty <;> cases empty

theorem isSingle_of_scanChars {token : Token} (scanned : scanChars text = .ok token) :
    IsSingle token text := by
  unfold scanChars at scanned
  split at scanned
  · cases scanned
  · next starts =>
    split at scanned
    · cases scanned
    · next after read =>
      split at scanned
      · next nothing =>
        cases scanned
        rcases exists_lexeme starts read with ⟨before, lexeme, split, leading, spells, noComment⟩
        exact ⟨before, lexeme, after, split, leading, spells,
          Trivia.skip_eq_nil_iff.1 nothing, noComment⟩
      · cases scanned

/-- A text in which no first lexeme is found is trivia up to the place where it should
start. -/
theorem exists_cut_of_unrecognized {offset : Nat}
    (broken : scanChars text = .error (.unrecognized offset)) :
    ∃ before rest, text = before ++ rest ∧ offset = byteLength before ∧ Trivia.Run before ∧
      Trivia.Bare rest ∧ Lexeme.atStart? rest = none := by
  unfold scanChars at broken
  split at broken
  · cases broken
  · next c rest starts =>
    have something : Trivia.skip text ≠ [] := by simp [starts]
    rcases Trivia.run_of_skip something with ⟨before, leading, split⟩
    have bare := Trivia.bare_skip something
    rw [starts] at split bare
    split at broken
    · next none =>
      cases broken
      refine ⟨before, c :: rest, split, ?_, leading, bare, none⟩
      rw [split, offsetOf_append]
    · split at broken <;> cases broken

/-- A text in which something follows the first token is a lexeme of that token, with
trivia around it, up to the place where it follows. -/
theorem exists_cut_of_trailing {first : Token} {offset : Nat}
    (broken : scanChars text = .error (.trailing first offset)) :
    ∃ before lexeme between rest, text = before ++ (lexeme ++ (between ++ rest)) ∧
      offset = byteLength (before ++ (lexeme ++ between)) ∧ Trivia.Run before ∧
      Spells first lexeme ∧ Trivia.Run between ∧
      ¬ (lexeme = ['/'] ∧ between.head? = some '/') ∧ Trivia.Bare rest := by
  unfold scanChars at broken
  split at broken
  · cases broken
  · next starts =>
    split at broken
    · cases broken
    · next after read =>
      split at broken
      · cases broken
      · next d more follows =>
        cases broken
        rcases exists_lexeme starts read with ⟨before, lexeme, split, leading, spells, noComment⟩
        have further : Trivia.skip after ≠ [] := by simp [follows]
        rcases Trivia.run_of_skip further with ⟨between, separating, splitAfter⟩
        have bare := Trivia.bare_skip further
        rw [follows] at splitAfter bare
        have whole : text = before ++ (lexeme ++ (between ++ d :: more)) := by
          rw [split, splitAfter]
        have regrouped : text = (before ++ (lexeme ++ between)) ++ d :: more := by
          rw [whole, List.append_assoc, List.append_assoc]
        refine ⟨before, lexeme, between, d :: more, whole, ?_, leading, spells, separating, ?_,
          bare⟩
        · rw [regrouped, offsetOf_append]
        · rintro ⟨isSlash, slash⟩
          refine noComment ⟨isSlash, ?_⟩
          rw [splitAfter, List.head?_append, slash]
          rfl

end

/-- A text is trivia, or a single lexeme, or refused at one of two places. -/
theorem scanChars_cases (text : List Char) :
    Trivia.Tail text ∨ (∃ token, IsSingle token text) ∨
      ∃ error, scanChars text = .error error ∧ Refused text error := by
  cases outcome : scanChars text with
  | ok token => exact .inr (.inl ⟨token, isSingle_of_scanChars outcome⟩)
  | error cause =>
    cases cause with
    | empty => exact .inl (tail_of_scanChars outcome)
    | unrecognized offset =>
      rcases exists_cut_of_unrecognized outcome with ⟨before, rest, split, rfl, leading, bare, _⟩
      exact .inr (.inr ⟨_, rfl, .unrecognized split leading bare.nonempty⟩)
    | trailing first offset =>
      rcases exists_cut_of_trailing outcome with
        ⟨before, lexeme, between, rest, split, rfl, leading, spells, separating, _, bare⟩
      exact .inr (.inr ⟨_, rfl, .trailing split leading spells separating bare.nonempty⟩)

/-- The scanner reads a token from a text just if the text is one lexeme of the token
with trivia around it, and reports a text as empty just if it is trivia only.  All
other texts are refused where the first lexeme should start or where something
follows it. -/
theorem scan_exact (text : String) :
    (∀ token, scan text = .ok token ↔ IsSingle token text.toList) ∧
    (scan text = .error .empty ↔ Trivia.Tail text.toList) ∧
    (¬ Trivia.Tail text.toList ∧ (∀ token, ¬ IsSingle token text.toList) ↔
      ∃ error, scan text = .error error ∧ Refused text.toList error) := by
  have ofSingle : ∀ {token}, IsSingle token text.toList → scan text = .ok token :=
    scanChars_of_isSingle
  have ofTail : Trivia.Tail text.toList → scan text = .error .empty := scanChars_of_tail
  have notEmpty : ¬ Refused text.toList .empty := fun refused => nomatch refused
  -- The three outcomes exclude each other because the scanner has only one.
  rcases scanChars_cases text.toList with tail | ⟨token, single⟩ | ⟨error, failed, refused⟩
  · have empty := ofTail tail
    refine ⟨fun token => ⟨fun read => ?_, ofSingle⟩, ⟨fun _ => tail, ofTail⟩,
      fun neither => absurd tail neither.1, ?_⟩
    · cases empty.symm.trans read
    · rintro ⟨error, failed, refused⟩
      cases empty.symm.trans failed
      exact absurd refused notEmpty
  · have read := ofSingle single
    refine ⟨fun other => ⟨fun readOther => ?_, ofSingle⟩, ⟨fun empty => ?_, ofTail⟩,
      fun neither => absurd single (neither.2 token), ?_⟩
    · cases read.symm.trans readOther
      exact single
    · cases read.symm.trans empty
    · rintro ⟨error, failed, _⟩
      cases read.symm.trans failed
  · have failed : scan text = .error error := failed
    refine ⟨fun token => ⟨fun read => ?_, ofSingle⟩, ⟨fun empty => ?_, ofTail⟩,
      fun _ => ⟨error, failed, refused⟩, fun _ => ⟨fun tail => ?_, fun token single => ?_⟩⟩
    · cases failed.symm.trans read
    · cases failed.symm.trans empty
      exact absurd refused notEmpty
    · cases failed.symm.trans (ofTail tail)
      exact absurd refused notEmpty
    · cases failed.symm.trans (ofSingle single)

/-- Trivia on both sides, and a slash that opens no comment. -/
example : scan " /* a */\t/ // b" = .ok (.symbol .div) := by decide +kernel

end Token
end ContractTree
