import Crossword.Edit

/-!
# Placement

A clue is laid on the board letter by letter. Each letter lights its cell, marks
the end of a word, and is compared with what the cell holds: a letter that the
clue knows goes into the cell and on into the clue that crosses there, and a
letter that only the cell knows goes into the clue. A cell never changes a letter
that it holds; a clue that would need that is refused.
-/
namespace Crossword.Placement

/-- A clue that is laid in a direction has to start in the bounds and to end in
them. -/
def checkBounds (b : Bounds) (c : Clue) (d : Direction) : Except BoundsFault Unit :=
  if !b.contains c.x c.y then .error (.start c.id)
  else
    match d with
    | .across => if b.width < c.x + c.length then .error (.horizontal c.id) else .ok ()
    | .down => if b.height < c.y + c.length then .error (.vertical c.id) else .ok ()

/-! ## One letter -/

/-- The cell that a letter of a clue falls on. -/
def cellFor (d : Direction) (i : ClueId) (letter : Nat) (p : Puzzle) : Except IndexFault CellId :=
  let spot := (p.clue i).spot d letter
  match p.board.cellAt? spot.1 spot.2 with
  | some c => .ok c
  | none => .error .outside

/-- What is printed after a letter of a clue, if a word before the last ends
there; a blank if the clue has no mark for it. -/
def terminator (c : Clue) (letter : Nat) : Except IndexFault (Option Text) :=
  match Enumeration.endingWord? letter c.wordLengths with
  | none => .ok none
  | some word =>
    match c.terminators[word]? with
    | none => .error .outside
    | some [] => .ok (some [blank])
    | some mark => .ok (some mark)

/-- Ties a cell and a letter of a clue to each other. A mark that the cell has
already stays if the letter ends no word. -/
def attach (d : Direction) (i : ClueId) (letter : Nat) (c : CellId) : Edit Unit := do
  Edit.change fun p => p.updateCell c fun cell => { cell with light := true }
  let mark ← Edit.judge .index fun p => terminator (p.clue i) letter
  Edit.change fun p =>
    (p.updateCell c fun cell => cell.updateSlot d fun slot =>
      { clue := some i, letter := some letter, terminator := mark <|> slot.terminator }).updateClue i
      fun clue => { clue with cells := clue.cells ++ [c] }

/-- The conflict between a letter of a clue and the letter that its cell
holds. -/
def conflict (p : Puzzle) (r : Row) (i : ClueId) (position : Nat) (letter : Char) (c : CellId)
    (previous : Option ClueId) : LetterConflict where
  row := r
  clue := (p.clue i).id
  x := (p.cell c).x
  y := (p.cell c).y
  letters := (p.clue i).row r
  position := position
  letter := letter
  previous := previous.map fun j => ((p.clue j).id, (p.clue j).row r)
  existing := (p.cell c).row r

/-- The letter of a clue's row that is to be written into its cell; a blank is not
written. The cell must be unfilled or hold the same letter. -/
def letterFor (r : Row) (i : ClueId) (position : Nat) (c : CellId) (previous : Option ClueId) (p : Puzzle) :
    Except Fault (Option Char) :=
  match ((p.clue i).row r)[position]? with
  | none => .error (.index .outside)
  | some letter =>
    if letter = blank then .ok none
    else if !isUnfilled ((p.cell c).row r) && (p.cell c).row r != [letter] then
      .error (.coherence (.letter (conflict p r i position letter c previous)))
    else .ok (some letter)

/-- Writes a letter of a clue's row into its cell, and says whether there was one
to write. -/
def writeLetter (r : Row) (i : ClueId) (position : Nat) (c : CellId) (previous : Option ClueId) :
    Edit Bool := do
  match ← Edit.judge id (letterFor r i position c previous) with
  | none => pure false
  | some letter =>
    Edit.change fun p => p.updateCell c fun cell => cell.setRow r [letter]
    pure true

/-- Puts the answer letter of a cell at a position of a clue's answer. -/
def fillAnswer (i : ClueId) (position : Int) (c : CellId) : Edit Unit := do
  let answer ← Edit.judge .index fun p => setLetter (p.clue i).answer position (p.cell c).answer
  Edit.change fun p => p.updateClue i fun clue => { clue with answer := answer }

/-- Passes the answer letter of a cell on to the clue that lies over it in a
direction. -/
def passOn (d : Direction) (c : CellId) : Edit Unit := do
  let slot ← Edit.read fun p => (p.cell c).slot d
  match slot.clue, slot.letter with
  | some i, some position => fillAnswer i position c
  | _, _ => pure ()

/-- Takes the answer letter of a cell over into the clue, if the cell has
one. -/
def takeOver (i : ClueId) (position : Nat) (c : CellId) : Edit Unit := do
  let answer ← Edit.read fun p => (p.cell c).answer
  if isUnfilled answer then pure () else fillAnswer i position c

/-- The label to print in the cell that a clue starts in: its own, if the cell has
no other. -/
def labelFor (i : ClueId) (c : CellId) (previous : Option ClueId) (p : Puzzle) : Except CoherenceFault Text :=
  if (p.cell c).label.any fun label => label != (p.clue i).label then
    .error (.label (p.clue i).id (previous.map fun j => (p.clue j).id))
  else .ok (p.clue i).label

/-- Prints the label of a clue in the cell that it starts in. Clues that start in
one cell have one label. -/
def setLabel (i : ClueId) (c : CellId) (previous : Option ClueId) : Edit Unit := do
  let label ← Edit.judge .coherence (labelFor i c previous)
  Edit.change fun p => p.updateCell c fun cell => { cell with label := some label }

/-- Lays one letter of a clue. The clue that lay over the cell before is the one
that a conflict is reported with. -/
def layLetter (d : Direction) (i : ClueId) (letter : Nat) : Edit Unit := do
  let c ← Edit.judge .index (cellFor d i letter)
  let previous ← Edit.read fun p => (p.cell c).occupant d
  attach d i letter c
  let written ← writeLetter .answer i letter c previous
  if written then passOn d.crossing c else takeOver i letter c
  let _ ← writeLetter .solution i letter c previous
  if letter = 0 then setLabel i c previous else pure ()

/-! ## Clues and boards -/

/-- Lays so many letters of a clue, from the given one on. -/
def layLetters (d : Direction) (i : ClueId) : Nat → Nat → Edit Unit
  | _, 0 => pure ()
  | letter, more + 1 => do
    layLetter d i letter
    layLetters d i (letter + 1) more

/-- Lays a clue on the board in a direction. A clue that breaks the bounds changes
nothing. -/
def place (d : Direction) (i : ClueId) : Edit Unit := do
  Edit.judge .bounds fun p => checkBounds p.board.bounds (p.clue i) d
  Edit.change fun p => p.updateBoard fun board => board.addLaid d i
  let length ← Edit.read fun p => (p.clue i).length
  layLetters d i 0 length.toNat
  let clue ← Edit.read fun p => p.clue i
  Edit.enter .debug
    (s!"Placed clue {clue.id.shown} at ({(Text.ofInt clue.x).shown},{(Text.ofInt clue.y).shown}) "
      ++ s!"over {(Text.ofInt clue.length).shown} cells")

/-- The light cells of a board, column by column. -/
def litCells (p : Puzzle) : List CellId := p.board.columns.flatten.filter fun c => (p.cell c).light

/-- Lays clues, those across before those down, and notes which cells are
light. -/
def assemble (across down : List ClueId) : Edit Unit := do
  across.forM (place .across)
  down.forM (place .down)
  Edit.change fun p => p.updateBoard fun board => { board with lightCells := litCells p }
  let board ← Edit.read fun p => p.board
  Edit.enter .debug
    (s!"Assembled {(Text.ofInt board.bounds.width).shown}x{(Text.ofInt board.bounds.height).shown} grid "
      ++ s!"with {number board.lightCells.length} light cells")

end Crossword.Placement
