import Crossword.Clue

/-!
# Cells

A cell is dark until a clue is laid over it. For each direction it knows the
clue that was laid over it last, which letter of that clue it holds, and what
is printed after it if a word ends there.
-/
namespace Crossword

/-- What one direction has put into a cell. -/
structure Slot where
  clue : Option ClueId := none
  letter : Option Int := none
  terminator : Option Text := none
  deriving DecidableEq, Repr, Inhabited

/-- A cell of a grid. Its place counts columns and rows from zero. -/
structure Cell where
  x : Nat
  y : Nat
  light : Bool := false
  across : Slot := {}
  down : Slot := {}
  answer : Text := [blank]
  solution : Text := [blank]
  label : Option Text := none
  deriving DecidableEq, Repr, Inhabited

namespace Cell

/-- The cell at a place before anything is laid over it. -/
def dark (x y : Nat) : Cell := { x, y }

/-- What a direction has put into the cell. -/
def slot (c : Cell) : Direction → Slot
  | .across => c.across
  | .down => c.down

/-- The cell with what a direction has put into it changed. -/
def updateSlot (c : Cell) (d : Direction) (f : Slot → Slot) : Cell :=
  match d with
  | .across => { c with across := f c.across }
  | .down => { c with down := f c.down }

/-- The letter that the cell holds in a row. -/
def row (c : Cell) : Row → Text
  | .answer => c.answer
  | .solution => c.solution

/-- The cell with its letter in a row replaced. -/
def setRow (c : Cell) (r : Row) (letter : Text) : Cell :=
  match r with
  | .answer => { c with answer := letter }
  | .solution => { c with solution := letter }

/-- The clue that lies over the cell: in the direction given if there is one,
else the one that crosses it. -/
def occupant (c : Cell) (d : Direction) : Option ClueId :=
  match (c.slot d).clue with
  | some i => some i
  | none => (c.slot d.crossing).clue

end Cell

end Crossword
