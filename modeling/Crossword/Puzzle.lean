import Crossword.Board

/-!
# Puzzles

A puzzle holds clues and cells under their numbers, and the board that they are
laid out on. A clue or a cell is changed in place; its number stays. Two puzzles
may be told apart by what they show: everything except the references from one
clue or cell to another.
-/
namespace Crossword

/-- Clues, cells and a board. -/
structure Puzzle where
  clues : Array Clue
  cells : Array Cell
  board : Board
  deriving Inhabited

namespace Puzzle

/-- The puzzle without clues and cells. -/
def empty : Puzzle := ⟨#[], #[], Board.fresh 0 ⟨0, 0⟩⟩

/-- The clue with a number. -/
def clue (p : Puzzle) (i : ClueId) : Clue := p.clues.getD i default

/-- The cell with a number. -/
def cell (p : Puzzle) (c : CellId) : Cell := p.cells.getD c default

/-- The puzzle with a clue changed. -/
def updateClue (p : Puzzle) (i : ClueId) (f : Clue → Clue) : Puzzle :=
  { p with clues := p.clues.modify i f }

/-- The puzzle with a cell changed. -/
def updateCell (p : Puzzle) (c : CellId) (f : Cell → Cell) : Puzzle :=
  { p with cells := p.cells.modify c f }

/-- The puzzle with its board changed. -/
def updateBoard (p : Puzzle) (f : Board → Board) : Puzzle := { p with board := f p.board }

/-- The puzzle with one more clue. -/
def addClue (p : Puzzle) (c : Clue) : Puzzle := { p with clues := p.clues.push c }

/-- The puzzle with a new board, whose cells are added to those there are. -/
def openBoard (p : Puzzle) (b : Bounds) : Puzzle :=
  { p with
    cells := p.cells ++ (Board.freshCells b.width.toNat b.height.toNat).toArray
    board := Board.fresh p.cells.size b }

/-- The clue is the head of its chain. -/
def isHead (p : Puzzle) (i : ClueId) : Bool := (p.clue i).links.head == some i

/-- The clue that a reference names: the first of its number, across before down
if it gives no direction. -/
def resolve? (p : Puzzle) (r : Reference) : Option ClueId :=
  (p.board.cluesFor r.direction).find? fun i => (p.clue i).number == r.number

/-! ## Reading after a change -/

theorem clue_updateClue {p : Puzzle} {i : ClueId} (j : ClueId) (f : Clue → Clue) (inside : i < p.clues.size) :
    (p.updateClue i f).clue j = if i = j then f (p.clue j) else p.clue j := by
  simp only [clue, updateClue, Array.getD_eq_getD_getElem?, Array.getElem?_modify]
  split
  · next same => subst same; simp [inside]
  · rfl

theorem cell_updateCell {p : Puzzle} {c : CellId} (e : CellId) (f : Cell → Cell) (inside : c < p.cells.size) :
    (p.updateCell c f).cell e = if c = e then f (p.cell e) else p.cell e := by
  simp only [cell, updateCell, Array.getD_eq_getD_getElem?, Array.getElem?_modify]
  split
  · next same => subst same; simp [inside]
  · rfl

@[simp] theorem cell_updateClue (p : Puzzle) (i : ClueId) (f : Clue → Clue) (c : CellId) :
    (p.updateClue i f).cell c = p.cell c := rfl

@[simp] theorem clue_updateCell (p : Puzzle) (c : CellId) (f : Cell → Cell) (i : ClueId) :
    (p.updateCell c f).clue i = p.clue i := rfl

@[simp] theorem clue_updateBoard (p : Puzzle) (f : Board → Board) (i : ClueId) :
    (p.updateBoard f).clue i = p.clue i := rfl

@[simp] theorem cell_updateBoard (p : Puzzle) (f : Board → Board) (c : CellId) :
    (p.updateBoard f).cell c = p.cell c := rfl

@[simp] theorem board_updateClue (p : Puzzle) (i : ClueId) (f : Clue → Clue) :
    (p.updateClue i f).board = p.board := rfl

@[simp] theorem board_updateCell (p : Puzzle) (c : CellId) (f : Cell → Cell) :
    (p.updateCell c f).board = p.board := rfl

@[simp] theorem board_updateBoard (p : Puzzle) (f : Board → Board) : (p.updateBoard f).board = f p.board := rfl

@[simp] theorem size_clues_updateClue (p : Puzzle) (i : ClueId) (f : Clue → Clue) :
    (p.updateClue i f).clues.size = p.clues.size := by
  simp [updateClue]

@[simp] theorem size_cells_updateCell (p : Puzzle) (c : CellId) (f : Cell → Cell) :
    (p.updateCell c f).cells.size = p.cells.size := by
  simp [updateCell]

@[simp] theorem clues_updateCell (p : Puzzle) (c : CellId) (f : Cell → Cell) :
    (p.updateCell c f).clues = p.clues := rfl

@[simp] theorem cells_updateClue (p : Puzzle) (i : ClueId) (f : Clue → Clue) :
    (p.updateClue i f).cells = p.cells := rfl

/-! ## What a puzzle shows -/

/-- A cell as it shows: without the clues that lie over it. -/
def shownCell (c : Cell) : Cell :=
  { c with across := { c.across with clue := none }, down := { c.down with clue := none } }

/-- A clue as it shows: of its links only the texts, and of its cells what they
show. -/
structure ShownClue where
  own : Clue
  cells : List Cell
  deriving DecidableEq

/-- What a clue shows. -/
def shownClue (p : Puzzle) (i : ClueId) : ShownClue where
  own :=
    { p.clue i with
      cells := []
      links := { enumeration := (p.clue i).links.enumeration, label := (p.clue i).links.label } }
  cells := (p.clue i).cells.map fun c => shownCell (p.cell c)

/-- What the cells of the board show, by column. -/
def shownCells (p : Puzzle) : List (List Cell) :=
  p.board.columns.map fun column => column.map fun c => shownCell (p.cell c)

/-- What a puzzle shows. -/
structure Shown where
  width : Int
  height : Int
  cells : List (List Cell)
  across : List ShownClue
  down : List ShownClue
  deriving DecidableEq

/-- Everything that a puzzle shows. -/
def shown (p : Puzzle) : Shown where
  width := p.board.width
  height := p.board.height
  cells := p.shownCells
  across := p.board.across.map p.shownClue
  down := p.board.down.map p.shownClue

end Puzzle

end Crossword
