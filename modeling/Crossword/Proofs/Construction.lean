import Crossword.Proofs.Covering
import Crossword.Proofs.Relinking
import Crossword.Proofs.Soundness

/-!
How a compiled puzzle has come about. Its clues have been laid on a ground that was just
opened, and then linked (`Built`, `compile_built`). The clues and the cells of such a
puzzle have the numbers of their positions (`Built.clues`, `Built.flatten_columns`), and
it stays the same when it is linked again (`Built.link_gives`).
-/
namespace Crossword
open Edit Placement Audit

/-- What of a clue neither laying nor linking changes: all but its answer, its cells and
    its links. -/
def Clue.outline (c : Clue) : Clue := { c with answer := [], cells := [], links := {} }

/-- The puzzle `q` has been built from compiled clues: on a ground just opened, which is
    the puzzle `o` with them, those across and then those down have been laid, which leaves
    `p`, and then they have been linked. -/
structure Built (g : Ground) (across down : List ClueId) (o p q : Puzzle) : Prop where
  first : g.first = 0
  room : o.cells.size = g.width * g.height
  numbersAcross : across = List.range across.length
  numbersDown : down = List.range' across.length down.length
  size : o.clues.size = across.length + down.length
  run : FreshRun o (acrossThenDown across down)
  placed : Placed g o (acrossThenDown across down) p
  linked : Chain.link.Gives (noteLight p) () q

section
variable {g : Ground} {across down : List ClueId} {o p q : Puzzle} {i : ClueId} {c : CellId}

/-- A compilation that goes through has prepared its clues, laid them and linked them. -/
theorem compile_prepared {definition : Datum} {config : Config}
    (compiled : (Puzzle.compile definition config).1 = .ok q) :
    ∃ entries clues o r, definition = .table entries ∧ (Definition.prepare entries config).Gives Puzzle.empty clues o ∧
      (assemble clues.1 clues.2).Gives o () r ∧ Chain.link.Gives r () q := by
  have gives := compile_eq_ok_iff.mp compiled
  cases definition with
  | table entries =>
    obtain ⟨clues,o,r,steps⟩ := compileEntries_gives gives
    exact ⟨entries,clues,o,r,rfl,steps⟩
  | _ => exact absurd gives not_gives_stop

/-- What is laid and linked after it has been prepared has been built. -/
theorem built_of_prepared {entries : List (Datum × Datum)} {config : Config} {r : Puzzle}
    (prepared : (Definition.prepare entries config).Gives Puzzle.empty (across,down) o)
    (assembled : (assemble across down).Gives o () r) (linked : Chain.link.Gives r () q) :
    ∃ g p, Built g across down o p q := by
  obtain ⟨columns,rows,p₂,first,second⟩ := prepare_added prepared
  have opened := ((Ground.opened_openBoard Puzzle.empty columns rows).added first).added second
  have run := freshRun_added first second
  obtain ⟨p,laid,rfl⟩ := assemble_gives_iff.mp assembled
  have none : (Puzzle.empty.openBoard ⟨columns,rows⟩).clues.size = 0 := rfl
  have before : p₂.clues.size = across.length := by rw [first.size,none,Nat.zero_add]
  refine ⟨_,p,?_,?_,?_,?_,?_,run,run.placed opened laid,linked⟩
  · rfl
  · rw [second.cells,first.cells]
    simp [Puzzle.openBoard,Puzzle.empty,Ground.length_freshCells]
  · rw [List.range_eq_range']
    exact first.numbers
  · rw [← before]
    exact second.numbers
  · rw [second.size,before]

/-- Whatever a definition compiles to has been built from the clues in it. -/
theorem compile_built {definition : Datum} {config : Config} (compiled : (Puzzle.compile definition config).1 = .ok q) :
    ∃ g across down o p, Built g across down o p q := by
  obtain ⟨_,⟨across,down⟩,o,_,_,prepared,assembled,linked⟩ := compile_prepared compiled
  obtain ⟨g,p,built⟩ := built_of_prepared prepared assembled linked
  exact ⟨g,across,down,o,p,built⟩

theorem exists_of_compiles (definition : Datum) (config : Config)
    (compiles : (Puzzle.compile definition config).1.toOption.isSome = true) :
    ∃ p, (Puzzle.compile definition config).1 = .ok p := by
  cases compiled : (Puzzle.compile definition config).1 with
  | ok p => exact ⟨p,rfl⟩
  | error fault => simp [compiled,Except.toOption] at compiles

namespace Built
variable (built : Built g across down o p q)
include built

theorem only : OnlyChains (noteLight p) q := by
  have only := link_onlyChains (noteLight p)
  rw [built.linked.2] at only
  exact only

/-! ### The ground -/

/-- The board is that of a ground just opened, with the clues laid and the light cells and
    the heads noted. -/
theorem board : q.board =
    { Board.fresh g.first g.bounds with
      across := across
      down := down
      lightCells := litCells p
      acrossHeads := q.board.acrossHeads
      downHeads := q.board.downHeads } := by
  have acrossLaid : p.board.across = across := by
    have laid := built.placed.clues .across
    rwa [laid_acrossThenDown] at laid
  have downLaid : p.board.down = down := by
    have laid := built.placed.clues .down
    rwa [laid_acrossThenDown] at laid
  have board := built.placed.laid.board
  rw [acrossLaid,downLaid,built.placed.laid.opened.board] at board
  rw [built.only.same.board]
  simp only [noteLight,Puzzle.board_updateBoard,board]

theorem columns : q.board.columns = g.columns := by
  rw [built.board]
  rfl

theorem width : q.board.width = g.width := by
  rw [built.board]
  rfl

theorem height : q.board.height = g.height := by
  rw [built.board]
  rfl

theorem size_cells : q.cells.size = g.width * g.height := by
  rw [built.only.same.cells,← built.room]
  exact built.placed.laid.room

/-- The numbers of the cells are their positions on the board. -/
theorem flatten_columns : q.board.columns.flatten = List.range q.cells.size := by
  rw [built.columns,g.flatten_columns,built.first,built.size_cells,List.range_eq_range']

theorem mem_columns : c ∈ q.board.columns.flatten ↔ ∃ place, g.Inside place ∧ c = g.cellOn place := by
  rw [built.columns]
  exact Ground.mem_columns

theorem cell (c : CellId) : q.cell c = p.cell c := by
  rw [Puzzle.cell_congr built.only.same.cells]
  rfl

theorem marked {place : Place} (inside : g.Inside place) :
    Marked o (strokesOf o (acrossThenDown across down)).reverse place (q.cell (g.cellOn place)) := by
  rw [built.cell]
  exact built.placed.laid.marked place inside

theorem lightCells : q.board.lightCells = litCells q := by
  have columns : q.board.columns = p.board.columns := built.columns.trans built.placed.laid.columns.symm
  rw [built.board]
  simp only [litCells,columns,built.cell]

/-! ### The clues -/

theorem board_clues : q.board.clues = across ++ down := by
  rw [built.board]
  rfl

theorem mem_clues : i ∈ q.board.clues ↔ ∃ l ∈ acrossThenDown across down, l.clue = i := by
  rw [built.board_clues,← clues_acrossThenDown,List.mem_map]

theorem size_clues : q.clues.size = across.length + down.length := by
  rw [built.only.same.size,← built.size]
  exact built.placed.laid.known

/-- The numbers of the clues are their positions, those across first. -/
theorem clues : q.board.clues = List.range q.clues.size := by
  rw [built.board_clues,built.size_clues,List.range_eq_range',← List.range'_append_1,Nat.zero_add,
    ← List.range_eq_range',← built.numbersAcross,← built.numbersDown]

theorem clue_outside (outside : i ∉ q.board.clues) : q.clue i = default := by
  rw [built.clues,List.mem_range] at outside
  exact Puzzle.clue_outside outside

theorem outline (i : ClueId) : (q.clue i).outline = (o.clue i).outline := by
  have unlinked : (q.clue i).unlinked = (p.clue i).unlinked := built.only.same.clue i
  have laid := built.placed.laid.clue i
  calc (q.clue i).outline = (q.clue i).unlinked.outline := rfl
    _ = (p.clue i).outline := by
      rw [unlinked]
      rfl
    _ = (o.clue i).outline := by
      rw [laid]
      rfl

theorem cells (member : i ∈ q.board.clues) :
    (q.clue i).cells = cellsOf g o (strokesOf o (acrossThenDown across down)).reverse i := by
  have kept : (q.clue i).cells = (p.clue i).cells := (congrArg Clue.cells (built.only.same.clue i) :)
  obtain ⟨l,laid,rfl⟩ := built.mem_clues.mp member
  have unplaced := (Clue.fit_of_fresh (built.run.fresh l laid)).unplaced
  rw [kept,built.placed.laid.clue,unplaced,List.nil_append]

theorem cells_strokes {l : Laying} (laid : l ∈ acrossThenDown across down) :
    (q.clue l.clue).cells = (l.strokes o).map fun s => g.cellOn (s.place o) := by
  rw [built.cells (built.mem_clues.mpr ⟨l,laid,rfl⟩)]
  exact cellsOf_strokesOf built.run.distinct laid

theorem mem_laid_iff {d : Direction} : i ∈ q.board.laid d ↔ (⟨d,i⟩ : Laying) ∈ acrossThenDown across down := by
  rw [built.board]
  cases d <;> simp [Board.laid,acrossThenDown]

theorem mem_laid {d : Direction} {l : Laying} (laid : l ∈ acrossThenDown across down) (along : l.direction = d) :
    l.clue ∈ q.board.laid d := by
  subst along
  exact built.mem_laid_iff.mpr laid

theorem inside {l : Laying} {s : Stroke} (laid : l ∈ acrossThenDown across down) (stroke : s ∈ l.strokes o) :
    g.Inside (s.place o) :=
  built.placed.laid.drawn.inside (List.mem_reverse.mpr (mem_strokesOf.mpr ⟨l,laid,stroke⟩))

/-- A clue that a cell names covers the cell, and the cell is noted as light. -/
theorem covered {d : Direction} (inside : c ∈ q.board.columns.flatten) (lies : ((q.cell c).slot d).clue = some i) :
    i ∈ q.board.laid d ∧ c ∈ (q.clue i).cells ∧ c ∈ q.board.lightCells := by
  obtain ⟨place,on,rfl⟩ := built.mem_columns.mp inside
  have marked := built.marked on
  rw [marked.slot] at lies
  obtain ⟨s,newest,rfl⟩ := Option.map_eq_some_iff.mp lies
  obtain ⟨member,direction,at_place⟩ := latest_mem newest
  obtain ⟨l,laid,stroke⟩ := mem_strokesOf.mp (List.mem_reverse.mp member)
  obtain ⟨along,clue,_⟩ := mem_strokes.mp stroke
  rw [clue]
  refine ⟨built.mem_laid laid (along.symm.trans direction),?_,?_⟩
  · rw [built.cells_strokes laid,← at_place]
    exact List.mem_map_of_mem stroke
  · rw [built.lightCells,litCells,List.mem_filter]
    exact ⟨inside,marked.light.mpr ⟨s,member,at_place⟩⟩

/-- Every clue starts in a cell of the board. -/
theorem starts (member : i ∈ q.board.clues) : ∃ c ∈ q.board.columns.flatten, (q.clue i).cells.head? = some c := by
  obtain ⟨l,laid,rfl⟩ := built.mem_clues.mp member
  have first := start_mem (Clue.fit_of_fresh (built.run.fresh l laid))
  rw [built.cells_strokes laid]
  cases strokes : l.strokes o with
  | nil =>
    rw [strokes] at first
    cases first
  | cons s rest =>
    exact ⟨g.cellOn (s.place o),built.mem_columns.mpr ⟨_,built.inside laid (by simp [strokes]),rfl⟩,rfl⟩

/-! ### The whole -/

theorem sound : Sound q := by
  have clues := distinctClues_placed built.run built.placed
  obtain ⟨linkable,m,chained,rfl⟩ := link_gives_linked clues built.linked
  exact sound_noteHeads built.run built.placed linkable chained

theorem chained : Chained (noteLight p) q := by
  have clues := distinctClues_placed built.run built.placed
  obtain ⟨linkable,m,linked,rfl⟩ := link_gives_linked clues built.linked
  exact linked.chained linkable clues.distinct

/-- Every clue is in a whole chain of clues on the board. -/
theorem chain (member : i ∈ q.board.clues) :
    ∃ h chain, Whole q h chain ∧ i ∈ chain ∧ ∀ j ∈ chain, j ∈ q.board.clues := by
  have board := built.only.same.clues
  obtain ⟨linkable,m,linked,rfl⟩ := link_gives_linked (distinctClues_placed built.run built.placed) built.linked
  rw [board] at member
  obtain ⟨h,head,unnamed,inside⟩ := linkable.mem_chain member
  refine ⟨h,chainOf (noteLight p) h,linked.whole linkable head unnamed,inside,fun j within => ?_⟩
  rw [board]
  exact Linked.mem_clues_of_chain head within

/-- To link the puzzle again changes nothing. -/
theorem link_gives : Chain.link.Gives q () q := by
  have again := run_link_again (noteLight p)
  rw [built.linked.2] at again
  rw [Gives,again]
  exact built.linked

end Built

end

end Crossword
