import Crossword.Fault
import Crossword.Journal
import Crossword.Puzzle

/-!
# Audits

An audit checks that a puzzle agrees with itself: that the board holds as many
cells as it says, that every light cell belongs to a clue, that the rows of a
clue are as long as the clue, that crossing clues agree, that clues start in
cells with their label, and that the chains are whole. The checks run in this
order and the first that fails is reported. An audit changes nothing.
-/
namespace Crossword.Audit

/-- Stops an audit at a finding unless a condition holds. -/
def ensure (holds : Bool) (finding : AuditFault) : Except Fault Unit :=
  if holds then .ok () else .error (.audit finding)

/-- The board has its width of columns, and each has its height of cells. -/
def checkCellCount (p : Puzzle) : Except Fault Unit :=
  ensure
    ((p.board.columns.length : Int) == p.board.width
      && p.board.columns.all fun column => (column.length : Int) == p.board.height)
    (.cellCount p.board.width p.board.height)

/-- Every light cell belongs to a clue. -/
def checkLight (p : Puzzle) : Except Fault Unit :=
  p.board.columns.flatten.forM fun c =>
    let cell := p.cell c
    ensure (!cell.light || cell.across.clue.isSome || cell.down.clue.isSome) (.strayLight cell.x cell.y)

/-- The three rows of a clue are as long as the clue. -/
def checkRows (p : Puzzle) : Except Fault Unit :=
  p.board.clues.forM fun i => do
    let clue := p.clue i
    ensure ((clue.answer.length : Int) == clue.length) (.rowLength clue.id "answer" clue.length)
    ensure ((clue.solution.length : Int) == clue.length) (.rowLength clue.id "solution" clue.length)
    ensure ((clue.revealed.length : Int) == clue.length) (.rowLength clue.id "revealed" clue.length)

/-- The letter that a clue has at a position, which may count from the end. -/
def letterAt (row : Text) (position : Option Int) : Except Fault Char :=
  match position with
  | none => .error (.index .outside)
  | some i =>
    match pick? row i with
    | some letter => .ok letter
    | none => .error (.index .outside)

/-- Two clues that cross in a cell have one letter there, unless one of them has
none. -/
def checkShared (p : Puzzle) (c : CellId) (across down : ClueId) (r : Row) : Except Fault Unit := do
  let cell := p.cell c
  let a ← letterAt ((p.clue across).row r) cell.across.letter
  let d ← letterAt ((p.clue down).row r) cell.down.letter
  ensure (a == blank || d == blank || a == d)
    (.disagreement (p.clue across).id (p.clue down).id r cell.x cell.y)

/-- In every light cell with two clues, their answers agree and their solutions
agree. -/
def checkCrossings (p : Puzzle) : Except Fault Unit :=
  p.board.lightCells.forM fun c =>
    match (p.cell c).across.clue, (p.cell c).down.clue with
    | some across, some down => do
      checkShared p c across down .answer
      checkShared p c across down .solution
    | _, _ => .ok ()

/-- Every clue that lies on cells starts in one with its label. -/
def checkLabels (p : Puzzle) : Except Fault Unit :=
  p.board.clues.forM fun i =>
    match (p.clue i).cells with
    | [] => .ok ()
    | first :: _ => ensure ((p.cell first).label == some (p.clue i).label) (.startLabel (p.clue i).id)

/-! ## Chains -/

/-- The clues from one on, following the links to the next. Each has to point back
at the one before it, and none may come twice: the clues that have not come yet
are given. -/
def walk (p : Puzzle) (head : ClueId) (unvisited : List ClueId) (previous : Option ClueId) :
    Option ClueId → Except Fault (List ClueId)
  | none => .ok []
  | some i =>
    if _present : i ∈ unvisited then
      if (p.clue i).links.previous != previous then .error (.audit (.brokenPrevious (p.clue i).id))
      else
        match walk p head (unvisited.erase i) (some i) (p.clue i).links.next with
        | .ok rest => .ok (i :: rest)
        | .error fault => .error fault
    else .error (.audit (.cyclic (p.clue head).id))
termination_by unvisited.length
decreasing_by
  rw [List.length_erase_of_mem _present]
  exact Nat.sub_lt (List.length_pos_of_mem _present) Nat.one_pos

/-- The chain that begins with a clue. -/
def chainFrom (p : Puzzle) (head : ClueId) : Except Fault (List ClueId) :=
  walk p head (List.range p.clues.size) none (some head)

/-- A clue has a head, lies in the chain that begins there, and every clue of that
chain has the same head. -/
def checkChain (p : Puzzle) (i : ClueId) : Except Fault Unit :=
  match (p.clue i).links.head with
  | none => .error (.audit (.noHead (p.clue i).id))
  | some head => do
    let chain ← chainFrom p head
    ensure (chain.contains i) (.unreachable (p.clue i).id (p.clue head).id)
    chain.forM fun j =>
      ensure ((p.clue j).links.head == some head) (.foreignHead (p.clue j).id (p.clue head).id)

/-- The heads noted for a direction are the clues of that direction that head a
chain, in their order. -/
def checkHeads (p : Puzzle) (d : Direction) : Except Fault Unit :=
  ensure (p.board.heads d == (p.board.laid d).filter p.isHead) (.headList d)

/-- All chains are whole, and the heads are noted. -/
def checkChains (p : Puzzle) : Except Fault Unit := do
  p.board.clues.forM (checkChain p)
  checkHeads p .across
  checkHeads p .down

/-- All checks in their order. -/
def check (p : Puzzle) : Except Fault Unit := do
  checkCellCount p
  checkLight p
  checkRows p
  checkCrossings p
  checkLabels p
  checkChains p

/-! ## Reports -/

/-- What an audit says: whether the puzzle agrees with itself, what was found
wrong, and the entries made. -/
structure Report where
  ok : Bool
  messages : List String
  journal : List Entry
  deriving DecidableEq, Repr

/-- The report on a puzzle that agrees with itself. -/
def Report.clean : Report := ⟨true, [], []⟩

/-- The report on a finding. -/
def Report.of (finding : AuditFault) : Report :=
  ⟨false, [finding.message], [⟨.error, s!"Validation failed: {finding.message}"⟩]⟩

/-- Audits a puzzle. A finding goes into the report; only a letter that a clue does
not have stops the audit. -/
def report (p : Puzzle) : Except Fault Report :=
  match check p with
  | .ok () => .ok Report.clean
  | .error (.audit finding) => .ok (Report.of finding)
  | .error fault => .error fault

end Crossword.Audit
