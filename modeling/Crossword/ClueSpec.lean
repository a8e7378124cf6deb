import Crossword.Fault

/-!
# Clue specifications

A clue is specified by a table with its place, its clue string and, where they
are known, the letters of its answer, of its solution and those revealed. The
checks run in a fixed order, and the first that fails is reported.
-/
namespace Crossword

/-- A clue specification whose fields have been checked. Its place counts columns
and rows from one. -/
structure ClueSpec where
  x : Int
  y : Int
  clue : Text
  answer : Option Text
  solution : Option Text
  revealed : Option Text
  direction : Direction
  deriving DecidableEq, Repr

namespace ClueSpec

/-- The fields that every specification has. -/
def requiredFields : List ClueField := [.x, .y, .clue]

/-- The fields that a specification may leave out. -/
def optionalFields : List ClueField := [.answer, .solution, .revealed]

/-- The key is the name of a field. -/
def isField (key : Datum) : Bool :=
  (requiredFields ++ optionalFields).any fun field => key.isText field.name

/-- The direction that a truth value stands for. -/
def directionOf (across : Bool) : Direction := if across then .across else .down

/-- What a required field holds. -/
def present (entries : List (Datum × Datum)) (field : ClueField) : Except SchemaFault Datum :=
  match Datum.lookup? field.name entries with
  | some value => .ok value
  | none => .error (.fieldMissing field)

/-- The integer in a field; a truth value is none. -/
def integer (field : ClueField) : Datum → Except SchemaFault Int
  | .whole value => .ok value
  | value => .error (.fieldMistyped field value)

/-- The text in a field. -/
def text (field : ClueField) : Datum → Except SchemaFault Text
  | .text value => .ok value
  | value => .error (.fieldMistyped field value)

/-- The text in a field that may be left out. -/
def optionalText (entries : List (Datum × Datum)) (field : ClueField) :
    Except SchemaFault (Option Text) :=
  match Datum.lookup? field.name entries with
  | none => .ok none
  | some value => (text field value).map some

/-- Checks the fields of a table: that the required ones are there, what they
hold, what the others hold, and that there are no more. -/
def ofEntries (entries : List (Datum × Datum)) (direction : Direction) :
    Except SchemaFault ClueSpec := do
  let x ← present entries .x
  let y ← present entries .y
  let clue ← present entries .clue
  let x ← integer .x x
  let y ← integer .y y
  let clue ← text .clue clue
  let answer ← optionalText entries .answer
  let solution ← optionalText entries .solution
  let revealed ← optionalText entries .revealed
  let unexpected := (entries.map (·.1)).filter fun key => !isField key
  if unexpected.isEmpty then
    return { x, y, clue, answer, solution, revealed, direction }
  else throw (.unexpected unexpected)

/-- Checks a specification and the truth value that says whether the clue runs
across. -/
def read : Datum → Datum → Except SchemaFault ClueSpec
  | .nothing, _ => .error .specMissing
  | _, .nothing => .error .acrossMissing
  | .table entries, .truth across => ofEntries entries (directionOf across)
  | spec, .truth _ => .error (.specNotTable spec.kind)
  | _, _ => .error .acrossNotTruth

end ClueSpec

end Crossword
