import Crossword.Definition

/-!
# Workspaces

In a workspace clues are compiled one by one and laid on boards that are opened
and left again; clues, links and cells can be set by hand, and a puzzle that no
longer agrees with itself can be audited. Clues and cells are shared by all
boards, so a clue that has been laid on an older board still knows its cells
there.
-/
namespace Crossword

/-- Clues, cells and all boards opened so far. The current board is the one that
is looked at, linked and audited; clues are laid on the board opened by hand
last. -/
structure Workspace where
  clues : Array Clue
  cells : Array Cell
  boards : Array Board
  current : Option Nat
  layingOn : Option Nat

namespace Workspace

/-- The workspace with nothing in it. -/
def empty : Workspace := ⟨#[], #[], #[], none, none⟩

/-- The puzzle that a board makes with the clues and cells of the workspace. -/
def puzzle (w : Workspace) (b : Board) : Puzzle := ⟨w.clues, w.cells, b⟩

/-- The puzzle on the current board. -/
def currentPuzzle? (w : Workspace) : Option Puzzle :=
  match w.current with
  | some n => (w.boards[n]?).map w.puzzle
  | none => none

/-- The workspace with a puzzle put back on one of its boards. -/
def putBack (w : Workspace) (n : Nat) (p : Puzzle) : Workspace :=
  { w with clues := p.clues, cells := p.cells, boards := w.boards.set! n p.board }

/-- Runs an edit on a board of the workspace. There has to be one. -/
def editBoard {α : Type} (w : Workspace) (board : Option Nat) (e : Edit α) : Except Fault α × Workspace :=
  match board with
  | none => (.error (.index .outside), w)
  | some n =>
    match w.boards[n]? with
    | none => (.error (.index .outside), w)
    | some b =>
      let outcome := e.run (w.puzzle b)
      (outcome.result, w.putBack n outcome.puzzle)

/-- Runs an edit that opens a board. If it succeeds the board becomes the current
one. -/
def editFresh {α : Type} (w : Workspace) (e : Edit α) : Except Fault α × Workspace :=
  let outcome := e.run (w.puzzle (Board.fresh 0 ⟨0, 0⟩))
  match outcome.result with
  | .error fault => (.error fault, { w with clues := outcome.puzzle.clues, cells := outcome.puzzle.cells })
  | .ok value =>
    (.ok value,
      { w with
        clues := outcome.puzzle.clues
        cells := outcome.puzzle.cells
        boards := w.boards.push outcome.puzzle.board
        current := some w.boards.size })

/-! ## Work -/

/-- Opens a board to lay clues on, which becomes the current one. -/
def openBoard (w : Workspace) (width height : Datum) : Except Fault Unit × Workspace :=
  match w.editFresh (Definition.openBoard width height) with
  | (.ok (), opened) => (.ok (), { opened with layingOn := opened.current })
  | refused => refused

/-- Compiles a clue and keeps it in the workspace. -/
def addClue (w : Workspace) (spec across : Datum) : Except Fault ClueId × Workspace :=
  match Clue.compile spec across true with
  | .error fault => (.error fault, w)
  | .ok clue => (.ok w.clues.size, { w with clues := w.clues.push clue })

/-- Lays a clue. -/
def place (w : Workspace) (i : ClueId) (d : Direction) : Except Fault Unit × Workspace :=
  w.editBoard w.layingOn (Placement.place d i)

/-- Lays clues, those across first, and notes the light cells. -/
def assemble (w : Workspace) (across down : List ClueId) : Except Fault Unit × Workspace :=
  w.editBoard w.layingOn (Placement.assemble across down)

/-- Lays clues on a fresh board of their own. -/
def assembleFresh (w : Workspace) (width height : Datum) (across down : List ClueId) :
    Except Fault Unit × Workspace :=
  w.editFresh do
    Definition.openBoard width height
    Placement.assemble across down

/-- Compiles a definition. If that fails nothing of it is kept. -/
def compile (w : Workspace) (definition : Datum) (config : Config) : Except Fault Unit × Workspace :=
  match w.editFresh (Definition.compile definition config) with
  | (.ok (), compiled) => (.ok (), compiled)
  | (.error fault, _) => (.error fault, w)

/-- Links the clues of the current board. -/
def link (w : Workspace) : Except Fault Unit × Workspace := w.editBoard w.current Chain.link

/-! ## Changes by hand -/

/-- Changes a clue. -/
def updateClue (w : Workspace) (i : ClueId) (f : Clue → Clue) : Workspace :=
  { w with clues := w.clues.modify i f }

/-- Changes the cell at a place of the current board. -/
def updateCellAt (w : Workspace) (x y : Int) (f : Cell → Cell) : Except Fault Unit × Workspace :=
  w.editBoard w.current fun p =>
    match p.board.cellAt? x y with
    | some c => Edit.change (fun p => p.updateCell c f) p
    | none => Edit.stop (.index .outside) p

/-- Changes the current board. -/
def updateBoard (w : Workspace) (f : Board → Board) : Except Fault Unit × Workspace :=
  w.editBoard w.current (Edit.change fun p => p.updateBoard f)

/-- Takes the last column off the current board. -/
def dropColumn (w : Workspace) : Except Fault Unit × Workspace :=
  w.editBoard w.current fun p =>
    if p.board.columns.isEmpty then Edit.stop (.index .outside) p
    else Edit.change (fun p => p.updateBoard fun b => { b with columns := b.columns.dropLast }) p

/-- Takes the last cell off a column of the current board. -/
def dropCell (w : Workspace) (x : Int) : Except Fault Unit × Workspace :=
  w.editBoard w.current fun p =>
    match place? p.board.columns.length x with
    | none => Edit.stop (.index .outside) p
    | some column =>
      if (p.board.columns[column]?.getD []).isEmpty then Edit.stop (.index .outside) p
      else
        Edit.change (fun p => p.updateBoard fun b =>
          { b with columns := b.columns.modify column List.dropLast }) p

/-! ## Questions -/

/-- The clue with a number. -/
def clue (w : Workspace) (i : ClueId) : Clue := w.clues.getD i default

/-- The cell with a number. -/
def cell (w : Workspace) (c : CellId) : Cell := w.cells.getD c default

/-- Answers a question about the puzzle on the current board. -/
def ask {α : Type} (w : Workspace) (question : Puzzle → Except Fault α) : Except Fault α :=
  match w.currentPuzzle? with
  | some p => question p
  | none => .error (.index .outside)

/-- Audits the puzzle on the current board. -/
def audit (w : Workspace) : Except Fault Audit.Report := w.ask Audit.report

/-- The clue that a reference names. -/
def resolve (w : Workspace) (r : Reference) : Except Fault (Option ClueId) :=
  w.ask fun p => .ok (p.resolve? r)

/-- The clues of a direction, or all of them. -/
def cluesFor (w : Workspace) (d : Option Direction) : Except Fault (List ClueId) :=
  w.ask fun p => .ok (p.board.cluesFor d)

/-- The heads of a direction, or all of them. -/
def headsFor (w : Workspace) (d : Option Direction) : Except Fault (List ClueId) :=
  w.ask fun p => .ok (p.board.headsFor d)

/-- The cell at a place. -/
def cellAt (w : Workspace) (x y : Int) : Except Fault Cell :=
  w.ask fun p =>
    match p.board.cellAt? x y with
    | some c => .ok (p.cell c)
    | none => .error (.index .outside)

/-- The clue that lies over the cell at a place in a direction. -/
def cellClue (w : Workspace) (x y : Int) (d : Option Direction) : Except Fault (Option ClueId) :=
  (w.cellAt x y).map fun cell =>
    match d with
    | some d => (cell.slot d).clue
    | none => none

/-- Two clues show the same. -/
def sameClue (w : Workspace) (i j : ClueId) : Bool :=
  let p := w.puzzle (Board.fresh 0 ⟨0, 0⟩)
  p.shownClue i == p.shownClue j

end Workspace

end Crossword
