namespace ContractTree

/-!
# Trivia

Blanks and comments separate tokens and mean nothing else.  A line comment ends
before the next line feed or at the end of the text.  A block comment ends behind
the first `*/`; one that is never closed is no trivia, so skipping stops in front
of it and it is left to be refused as a lexeme.

The blanks are the space, the tab, the carriage return, the line feed and the form
feed.  No other white space is trivia.
-/

namespace Trivia

def isBlank (c : Char) : Bool :=
  c = ' ' || c = '\t' || c = '\r' || c = '\n' || c = '\x0c'

/-- The text behind the first `*/`. -/
def afterClose? : List Char → Option (List Char)
  | '*' :: '/' :: rest => some rest
  | _ :: rest => afterClose? rest
  | [] => none

/-- The text from the end of a line comment on, from within the comment. -/
def afterLine (input : List Char) : List Char :=
  input.dropWhile (· ≠ '\n')

theorem length_afterClose? {input rest : List Char} (closed : afterClose? input = some rest) :
    rest.length < input.length := by
  fun_induction afterClose? input with
  | case1 _ =>
    cases closed
    simp only [List.length_cons]
    omega
  | case2 first rest' _ ih => exact Nat.lt_succ_of_lt (ih closed)
  | case3 => cases closed

theorem length_afterLine (input : List Char) : (afterLine input).length ≤ input.length :=
  (List.dropWhile_sublist _).length_le

/-- What is left of a text without the trivia at its start. -/
def skip (input : List Char) : List Char :=
  match input with
  | '/' :: '/' :: rest => skip (afterLine rest)
  | '/' :: '*' :: rest =>
    match _closed : afterClose? rest with
    | some after => skip after
    | none => input
  | c :: rest => if isBlank c then skip rest else input
  | [] => []
termination_by input.length
decreasing_by
  · have shorter := length_afterLine rest
    simp only [List.length_cons]
    omega
  · have shorter := length_afterClose? _closed
    simp only [List.length_cons]
    omega
  · simp only [List.length_cons]
    omega

end Trivia
end ContractTree
