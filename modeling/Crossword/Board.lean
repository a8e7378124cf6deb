import Crossword.Cell

/-!
# Boards

A board is a grid of cells with the clues laid over it. The cells themselves
belong to the puzzle; the board says where each one stands.
-/
namespace Crossword

/-- A rectangle of columns and rows. -/
structure Bounds where
  width : Int
  height : Int
  deriving DecidableEq, Repr, Inhabited

/-- A place lies inside the rectangle. -/
def Bounds.contains (b : Bounds) (x y : Int) : Bool :=
  0 ≤ x && x < b.width && 0 ≤ y && y < b.height

/-- The cells of a board by column, the clues laid across and down, the cells
that some clue covers, and the clues that head a chain. Clues are laid within
the bounds; the width and the height are what the board says of itself. -/
structure Board where
  bounds : Bounds
  width : Int
  height : Int
  columns : List (List CellId)
  across : List ClueId := []
  down : List ClueId := []
  lightCells : List CellId := []
  acrossHeads : List ClueId := []
  downHeads : List ClueId := []
  deriving DecidableEq, Repr, Inhabited

namespace Board

/-- The dark cells of a grid, column by column. -/
def freshCells (width height : Nat) : List Cell :=
  (List.range width).flatMap fun x => (List.range height).map fun y => Cell.dark x y

/-- The columns of a grid whose cells are numbered from the given number on. -/
def freshColumns (first width height : Nat) : List (List CellId) :=
  (List.range width).map fun x => (List.range height).map fun y => first + (x * height + y)

/-- A board that nothing is laid over, with cells numbered from the given number
on. -/
def fresh (first : Nat) (b : Bounds) : Board where
  bounds := b
  width := b.width
  height := b.height
  columns := freshColumns first b.width.toNat b.height.toNat

/-- The cell at a place. Either coordinate may be negative and then counts from
the end. -/
def cellAt? (b : Board) (x y : Int) : Option CellId :=
  match pick? b.columns x with
  | some column => pick? column y
  | none => none

/-- The clues of a direction. -/
def laid (b : Board) : Direction → List ClueId
  | .across => b.across
  | .down => b.down

/-- All clues, those across first. -/
def clues (b : Board) : List ClueId := b.across ++ b.down

/-- The clues of a direction, or all of them if no direction is given. -/
def cluesFor (b : Board) : Option Direction → List ClueId
  | some d => b.laid d
  | none => b.clues

/-- The board with one more clue in a direction. -/
def addLaid (b : Board) (d : Direction) (i : ClueId) : Board :=
  match d with
  | .across => { b with across := b.across ++ [i] }
  | .down => { b with down := b.down ++ [i] }

/-- The heads of a direction. -/
def heads (b : Board) : Direction → List ClueId
  | .across => b.acrossHeads
  | .down => b.downHeads

/-- The heads of a direction, or all of them if no direction is given. -/
def headsFor (b : Board) : Option Direction → List ClueId
  | some d => b.heads d
  | none => b.acrossHeads ++ b.downHeads

end Board

end Crossword
