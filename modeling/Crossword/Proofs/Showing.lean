import Crossword.Proofs.Construction

/-!
A compiled puzzle is all that it shows. What a puzzle shows leaves out which clues lie
over a cell, how the clues are linked and which cells are light. In compiled puzzles all
of this is settled by what they show: the clues have to have been laid on the same places
in the same order (`SameOutlines.slotOf`), and linking looks at nothing else
(`Built.sameButChains`), so that two of them that show the same are the same
(`eq_of_shown_eq`).
-/
namespace Crossword
open Edit Placement

/-- The clues and the cells have the numbers of their positions: the clues those in the
    list of those across and then those down, the cells those on the board, column by
    column. -/
structure Numbered (p : Puzzle) : Prop where
  clues : p.board.clues = List.range p.clues.size
  cells : p.board.columns.flatten = List.range p.cells.size

section
variable {g : Ground} {across down : List ClueId} {o o' p p' q q' : Puzzle} {i : ClueId} {c : CellId}

/-! ### What the outlines of clues settle -/

/-- All clues have the same outline in both puzzles. -/
def SameOutlines (o o' : Puzzle) : Prop := ∀ i, (o.clue i).outline = (o'.clue i).outline

namespace SameOutlines
variable (same : SameOutlines o o')
include same

/-- What does not look at answers, cells and links is the same. -/
theorem kept {α : Type} (f : Clue → α) (blind : ∀ c : Clue, f c.outline = f c) (i : ClueId) :
    f (o.clue i) = f (o'.clue i) := by
  rw [← blind,same,blind]

theorem spot (i : ClueId) (d : Direction) (k : Nat) : (o.clue i).spot d k = (o'.clue i).spot d k :=
  same.kept (fun c => c.spot d k) (fun _ => by cases d <;> rfl) i

theorem covers {l : Laying} {place : Place} : l.Covers o place ↔ l.Covers o' place := by
  have length : (o.clue l.clue).length = (o'.clue l.clue).length := same.kept Clue.length (fun _ => rfl) l.clue
  simp only [Laying.Covers,length,same.spot]

theorem place : Stroke.place o = Stroke.place o' := by
  funext s
  exact same.spot s.clue s.direction s.letter

theorem mark : Stroke.mark o = Stroke.mark o' := by
  funext s
  have ends : terminator (o.clue s.clue) s.letter = terminator (o'.clue s.clue) s.letter :=
    same.kept (fun c => terminator c s.letter) (fun _ => rfl) s.clue
  rw [Stroke.mark,Stroke.mark,ends]

theorem strokesOf : strokesOf o = strokesOf o' := by
  funext steps
  have length : ∀ i, (o.clue i).length = (o'.clue i).length := same.kept Clue.length fun _ => rfl
  have strokes : Laying.strokes o = Laying.strokes o' := by
    funext l
    rw [Laying.strokes,Laying.strokes,length]
  rw [Crossword.strokesOf,Crossword.strokesOf,strokes]

theorem slotOf (trail : List Stroke) (d : Direction) (place : Place) :
    slotOf o trail d place = slotOf o' trail d place := by
  simp only [Crossword.slotOf,latest,same.place,same.mark]

theorem cellsOf (trail : List Stroke) (i : ClueId) : cellsOf g o trail i = cellsOf g o' trail i := by
  simp only [Crossword.cellsOf,same.place]

end SameOutlines

/-- Laying clues keeps their outlines. -/
theorem Laid.sameOutlines {trail : List Stroke} (laid : Laid g o trail p) : SameOutlines p o := by
  intro i
  rw [laid.clue]
  rfl

theorem Puzzle.cell_outside (outside : ¬ c < p.cells.size) : p.cell c = default := by
  rw [Puzzle.cell,Array.getD_eq_getD_getElem?,Array.getElem?_eq_none (Nat.le_of_not_lt outside)]
  rfl

theorem Puzzle.cells_ext (size : q.cells.size = p.cells.size) (cell : ∀ c, q.cell c = p.cell c) :
    q.cells = p.cells := by
  refine Array.ext size fun c short short' => ?_
  have same := cell c
  simpa [Puzzle.cell,Array.getD_eq_getD_getElem?,short,short'] using same

/-! ### What a cell shows -/

/-- A cell is what it shows and what each direction has put into it. -/
theorem Cell.eq_of_shown {a b : Cell} (shown : Puzzle.shownCell a = Puzzle.shownCell b)
    (slot : ∀ d, a.slot d = b.slot d) : a = b := by
  have across : a.across = b.across := slot .across
  have down : a.down = b.down := slot .down
  obtain ⟨x,y,light,_,_,answer,solution,label⟩ := a
  obtain ⟨x',y',light',_,_,answer',solution',label'⟩ := b
  simp only at across down
  subst across down
  simp only [Puzzle.shownCell,Cell.mk.injEq,true_and] at shown
  simp [shown]

/-! ### Puzzles built from the same numbers of clues -/

namespace Built
variable (one : Built g across down o p q) (other : Built g across down o' p' q')

include one other

theorem clues_eq : q'.board.clues = q.board.clues := by
  rw [one.board_clues,other.board_clues]

theorem columns_eq : q'.board.columns = q.board.columns := by
  rw [one.columns,other.columns]

variable (shown : q.shown = q'.shown)
include shown

theorem own_eq (i : ClueId) : (q.shownClue i).own = (q'.shownClue i).own := by
  by_cases inside : i ∈ q.board.clues
  · have across : q.board.across.map q.shownClue = q'.board.across.map q'.shownClue :=
      congrArg Puzzle.Shown.across shown
    have down : q.board.down.map q.shownClue = q'.board.down.map q'.shownClue :=
      congrArg Puzzle.Shown.down shown
    have clues : q.board.clues.map q.shownClue = q'.board.clues.map q'.shownClue := by
      rw [Board.clues,Board.clues,List.map_append,List.map_append,across,down]
    rw [one.clues_eq other] at clues
    exact congrArg Puzzle.ShownClue.own (List.map_inj_left.mp clues i inside)
  · have outside : i ∉ q'.board.clues := one.clues_eq other ▸ inside
    rw [Puzzle.shownClue,Puzzle.shownClue,one.clue_outside inside,other.clue_outside outside]

/-- Before the clues were laid, they had the same outlines. -/
theorem sameOutlines_start : SameOutlines o o' := by
  intro i
  rw [← one.outline,← other.outline]
  exact (congrArg Clue.outline (one.own_eq other shown i) :)

theorem cell_eq (c : CellId) : q.cell c = q'.cell c := by
  by_cases inside : c ∈ q.board.columns.flatten
  · obtain ⟨column,member,within⟩ := List.mem_flatten.mp inside
    have cells : q.shownCells = q'.shownCells := congrArg Puzzle.Shown.cells shown
    rw [Puzzle.shownCells,Puzzle.shownCells,one.columns_eq other] at cells
    have shows : Puzzle.shownCell (q.cell c) = Puzzle.shownCell (q'.cell c) :=
      List.map_inj_left.mp (List.map_inj_left.mp cells column member) c within
    obtain ⟨place,on,rfl⟩ := one.mem_columns.mp inside
    have start := one.sameOutlines_start other shown
    refine Cell.eq_of_shown shows fun d => ?_
    rw [(one.marked on).slot,(other.marked on).slot,start.strokesOf,start.slotOf]
  · rw [one.flatten_columns,List.mem_range] at inside
    have outside : ¬ c < q'.cells.size := by rwa [other.size_cells,← one.size_cells]
    rw [Puzzle.cell_outside inside,Puzzle.cell_outside outside]

theorem clueCells_eq (i : ClueId) : (q.clue i).cells = (q'.clue i).cells := by
  by_cases inside : i ∈ q.board.clues
  · have start := one.sameOutlines_start other shown
    rw [one.cells inside,other.cells (one.clues_eq other ▸ inside),start.strokesOf,start.cellsOf]
  · have outside : i ∉ q'.board.clues := one.clues_eq other ▸ inside
    rw [one.clue_outside inside,other.clue_outside outside]

theorem sameButChains : SameButChains q q' where
  board := by
    have lit : litCells q = litCells q' := by
      simp only [litCells,one.columns_eq other,one.cell_eq other shown]
    have lightCells : q'.board.lightCells = q.board.lightCells := by
      rw [one.lightCells,other.lightCells,lit]
    have board := one.board
    have board' := other.board
    rw [board] at lightCells ⊢
    rw [board'] at lightCells ⊢
    simp only at lightCells
    simp only [lightCells]
  cells := Puzzle.cells_ext (by rw [one.size_cells,other.size_cells]) fun c => (one.cell_eq other shown c).symm
  size := by rw [one.size_clues,other.size_clues]
  clue i :=
    calc (q'.clue i).unlinked
        = { (q'.shownClue i).own with cells := (q'.clue i).cells, links := {} } := rfl
      _ = { (q.shownClue i).own with cells := (q.clue i).cells, links := {} } := by
        rw [one.own_eq other shown,one.clueCells_eq other shown]
      _ = (q.clue i).unlinked := rfl

/-- Two puzzles built from as many clues on the same ground are the same if they show the
    same. -/
theorem eq_of_shown : q = q' := by
  have alike := link_alike (one.sameButChains other shown)
  have heads := heads_eq_of_link_ok (one.sameButChains other shown) one.link_gives.1
  rw [one.link_gives.2,other.link_gives.2] at heads
  have same := alike.puzzle.2.2
  rw [one.link_gives.2,other.link_gives.2] at same
  have acrossHeads : q'.board.acrossHeads = q.board.acrossHeads := heads .across
  have downHeads : q'.board.downHeads = q.board.downHeads := heads .down
  refine (Puzzle.ext_of_clue ?_ ?_ ?_ ?_).symm
  · exact (one.sameButChains other shown).size
  · intro i
    by_cases inside : i ∈ q.board.clues
    · exact (same i inside).symm
    · have outside : i ∉ q'.board.clues := one.clues_eq other ▸ inside
      rw [one.clue_outside inside,other.clue_outside outside]
  · exact (one.sameButChains other shown).cells
  · rw [(one.sameButChains other shown).board,acrossHeads,downHeads]

end Built

/-! ### Any two definitions -/

/-- Two compiled puzzles that show the same have as many clues on the same ground. -/
theorem Built.same_start {g' : Ground} {across' down' : List ClueId} (one : Built g across down o p q)
    (other : Built g' across' down' o' p' q') (shown : q.shown = q'.shown) :
    g = g' ∧ across = across' ∧ down = down' := by
  have width : (g.width : Int) = g'.width := by
    rw [← one.width,← other.width]
    exact congrArg Puzzle.Shown.width shown
  have height : (g.height : Int) = g'.height := by
    rw [← one.height,← other.height]
    exact congrArg Puzzle.Shown.height shown
  have acrossLength : across.length = across'.length := by
    have length := congrArg (fun s => s.across.length) shown
    simp only [Puzzle.shown,List.length_map] at length
    rwa [one.board,other.board] at length
  have downLength : down.length = down'.length := by
    have length := congrArg (fun s => s.down.length) shown
    simp only [Puzzle.shown,List.length_map] at length
    rwa [one.board,other.board] at length
  refine ⟨?_,?_,?_⟩
  · obtain ⟨first,_,_⟩ := g
    obtain ⟨first',_,_⟩ := g'
    have start : first = 0 := one.first
    have start' : first' = 0 := other.first
    simp only [Ground.mk.injEq]
    exact ⟨start.trans start'.symm,Int.ofNat_inj.mp width,Int.ofNat_inj.mp height⟩
  · rw [one.numbersAcross,other.numbersAcross,acrossLength]
  · rw [one.numbersDown,other.numbersDown,acrossLength,downLength]

/-- Whatever two definitions compile to is the same puzzle if it shows the same: the clues
    over each cell, the light cells, the links of each clue and the heads of each direction
    are the same ones, where the numbers of clues and cells are their positions. -/
theorem eq_of_shown_eq (definition definition' : Datum) (config config' : Config) (p q : Puzzle)
    (compiled : (Puzzle.compile definition config).1 = .ok p)
    (compiled' : (Puzzle.compile definition' config').1 = .ok q) (shown : p.shown = q.shown) :
    p = q ∧ Numbered p := by
  obtain ⟨g,across,down,o,m,one⟩ := compile_built compiled
  obtain ⟨g',across',down',o',m',other⟩ := compile_built compiled'
  obtain ⟨rfl,rfl,rfl⟩ := one.same_start other shown
  exact ⟨one.eq_of_shown other shown,one.clues,one.flatten_columns⟩

/-- The corner with the answer of its column written out, which the other corner takes over
    from the clue that crosses there. -/
def filledCorner : Datum :=
  .table [(.text "width".toList,.whole 2),(.text "height".toList,.whole 2),
    (.text "acrossClues".toList,.list [specification 1 1 "1,2d. Row (2)" "a",specification 2 1 "2. End (1)" "b"]),
    (.text "downClues".toList,.list [specification 2 1 "2. Column (2)" "b"])]

theorem eq_filledCorner : ∃ p q, (Puzzle.compile corner {}).1 = .ok p ∧
    (Puzzle.compile filledCorner ⟨false,false,true⟩).1 = .ok q ∧ p.shown = q.shown ∧ p = q := by
  have same : (Puzzle.compile corner {}).1.toOption.map Puzzle.shown =
      (Puzzle.compile filledCorner ⟨false,false,true⟩).1.toOption.map Puzzle.shown := by decide +kernel
  obtain ⟨p,compiled⟩ := exists_of_compiles corner {} (by decide +kernel)
  obtain ⟨q,compiled'⟩ := exists_of_compiles filledCorner ⟨false,false,true⟩ (by decide +kernel)
  rw [compiled,compiled'] at same
  have shown : p.shown = q.shown := Option.some.inj same
  exact ⟨p,q,compiled,compiled',shown,(eq_of_shown_eq corner filledCorner {} _ p q compiled compiled' shown).1⟩

end

end Crossword
