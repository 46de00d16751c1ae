import ContractTree.Json.Lexeme

namespace ContractTree
namespace Json

/-!
# Reading JSON text

The lexemes of a text are read from left to right with a stack of the arrays and
objects that are still open, so a text may be nested to any depth.  An object has
one member for each key: a later member takes the place of an earlier one of the
same key.
-/

/-- An array or object in which a value is being read; what is finished of it is
kept last first. -/
inductive Frame where
  | array (items : List Json)
  | object (members : Members) (key : String)

/-- What has been read of a text, by what may follow. -/
inductive Reading where
  /-- A value. -/
  | value (outer : List Frame)
  /-- The first item of an array, or its end. -/
  | firstItem (outer : List Frame)
  /-- A comma, or the end of an array. -/
  | afterItem (items : List Json) (outer : List Frame)
  /-- The first key of an object, or its end. -/
  | firstKey (outer : List Frame)
  /-- A key. -/
  | key (members : Members) (outer : List Frame)
  /-- The colon behind a key. -/
  | afterKey (members : Members) (key : String) (outer : List Frame)
  /-- A comma, or the end of an object. -/
  | afterMember (members : Members) (outer : List Frame)
  /-- Nothing. -/
  | complete (value : Json)

namespace Reading

/-- Puts a member at the front of a list that has none of the same key after it. -/
def insert (members : Members) (key : String) (value : Json) : Members :=
  (key, value) :: members.filter (fun member => member.1 ≠ key)

/-- A value has been read to its end. -/
def finish (read : Json) : List Frame → Reading
  | [] => complete read
  | .array items :: outer => afterItem (read :: items) outer
  | .object members name :: outer => afterMember (insert members name read) outer

/-- The first lexeme of a value. -/
def start (outer : List Frame) : Lexeme → Option Reading
  | .openArray => some (firstItem outer)
  | .openObject => some (firstKey outer)
  | .text string => some (finish (.str string) outer)
  | .scalar constant => some (finish constant outer)
  | _ => none

/-- One more lexeme, unless it may not stand here. -/
def step : Reading → Lexeme → Option Reading
  | value outer, lexeme => start outer lexeme
  | firstItem outer, .closeArray => some (finish (.arr []) outer)
  | firstItem outer, lexeme => start (.array [] :: outer) lexeme
  | afterItem items outer, .comma => some (value (.array items :: outer))
  | afterItem items outer, .closeArray => some (finish (.arr items.reverse) outer)
  | firstKey outer, .closeObject => some (finish (.obj []) outer)
  | firstKey outer, .text name => some (afterKey [] name outer)
  | key members outer, .text name => some (afterKey members name outer)
  | afterKey members name outer, .colon => some (value (.object members name :: outer))
  | afterMember members outer, .comma => some (key members outer)
  | afterMember members outer, .closeObject => some (finish (.obj members.reverse) outer)
  | _, _ => none

/-- The readings after each lexeme of a list, until one may not stand where it does. -/
def run : Reading → List Lexeme → Option Reading
  | reading, [] => some reading
  | reading, lexeme :: rest =>
    match reading.step lexeme with
    | none => none
    | some next => next.run rest

end Reading

/-- The value that a text writes, if it is JSON. -/
def ofText? (text : String) : Option Json :=
  match Lexeme.cut text.toList [] with
  | none => none
  | some lexemes =>
    match (Reading.value []).run lexemes with
    | some (.complete value) => some value
    | _ => none

end Json
end ContractTree
