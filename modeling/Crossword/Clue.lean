import Crossword.Enumeration
import Crossword.Letters

/-!
# Clues

A clue holds the letters and the place that its specification gives, the cells
that it has been laid over, and its links to the other clues that its answer
runs on in.
-/
namespace Crossword

/-- The number of a clue in a puzzle. -/
abbrev ClueId := Nat

/-- The number of a cell in a puzzle. -/
abbrev CellId := Nat

/-- A clue named by the number in its label, and by a direction if one is
given. -/
structure Reference where
  number : Int
  direction : Option Direction
  deriving DecidableEq, Repr

/-- The place of a clue in the chain of clues that share an answer. The head
also carries what the chain has in common: its other clues, its cells without
repetition, and the texts of its enumeration and of its label. -/
structure Links where
  head : Option ClueId := none
  previous : Option ClueId := none
  next : Option ClueId := none
  tails : List ClueId := []
  flatCells : Option (List CellId) := none
  enumeration : Text := []
  label : Text := []
  deriving DecidableEq, Repr, Inhabited

/-- A row of letters that clues and cells both hold. -/
inductive Row where
  | answer
  | solution
  deriving DecidableEq, Repr

/-- The name of a row in reports. -/
def Row.name : Row → String
  | .answer => "answer"
  | .solution => "solution"

/-- A clue. Its place counts columns and rows from zero. -/
structure Clue where
  number : Int
  label : Text
  id : Text
  text : Text
  wordLengths : List Int
  terminators : List Text
  length : Int
  references : List Reference
  answer : Text
  solution : Text
  revealed : Text
  x : Int
  y : Int
  direction : Direction
  cells : List CellId := []
  links : Links := {}
  deriving DecidableEq, Repr, Inhabited

namespace Clue

/-- A row of the clue's letters. -/
def row (c : Clue) : Row → Text
  | .answer => c.answer
  | .solution => c.solution

/-- The column and the row of a letter of a clue that is laid in a direction. -/
def spot (c : Clue) : Direction → Nat → Int × Int
  | .across, letter => (c.x + letter, c.y)
  | .down, letter => (c.x, c.y + letter)

/-- The links of a clue that stands alone: it is its own head. -/
def aloneLinks (i : ClueId) (c : Clue) : Links where
  head := some i
  flatCells := some c.cells
  enumeration := Enumeration.text c.wordLengths
  label := c.label

end Clue

end Crossword
