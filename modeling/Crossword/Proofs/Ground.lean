import Crossword.Puzzle

/-!
The ground of a board: a rectangle of places with the numbers of its cells, which
run column by column from a first one on. Every place inside has a cell of its own
(`cellOn_inj`, `cellAt?_inside`), and on a board just opened that cell is dark
(`opened_openBoard`).
-/
namespace Crossword

/-- A column and a row, both counted from zero. -/
abbrev Place := Int × Int

/-- The size of a board and the number of its first cell. -/
structure Ground where
  first : Nat
  width : Nat
  height : Nat

namespace Ground

/-- The rectangle that the ground takes up. -/
def bounds (g : Ground) : Bounds := ⟨g.width,g.height⟩

/-- A place lies on the ground. -/
def Inside (g : Ground) (place : Place) : Prop := g.bounds.contains place.1 place.2 = true

/-- The number of the cell on a place. -/
def cellOn (g : Ground) (place : Place) : Nat := g.first + (place.1.toNat * g.height + place.2.toNat)

/-- The columns of cells on the ground. -/
def columns (g : Ground) : List (List CellId) := Board.freshColumns g.first g.width g.height

variable {g : Ground} {place other : Place}

theorem inside_iff :
    g.Inside place ↔ (0 ≤ place.1 ∧ place.1 < g.width) ∧ 0 ≤ place.2 ∧ place.2 < g.height := by
  show (0 ≤ place.1 && place.1 < (g.width : Int) && 0 ≤ place.2 && place.2 < (g.height : Int)) = true ↔ _
  simp [and_assoc]

theorem cellOn_inj (one : g.Inside place) (two : g.Inside other) (same : g.cellOn place = g.cellOn other) :
    place = other := by
  obtain ⟨x,y⟩ := place
  obtain ⟨x',y'⟩ := other
  simp only [inside_iff] at one two
  -- Dividing by the height gives back the column, with the row as the remainder.
  have number : x.toNat * g.height + y.toNat = x'.toNat * g.height + y'.toNat := Nat.add_left_cancel same
  have row : y.toNat = y'.toNat := by
    have rest := congrArg (· % g.height) number
    simpa [Nat.mod_eq_of_lt (show y.toNat < g.height by omega),
      Nat.mod_eq_of_lt (show y'.toNat < g.height by omega)] using rest
  have column : x.toNat = x'.toNat :=
    Nat.eq_of_mul_eq_mul_right (show 0 < g.height by omega) (by omega)
  ext
  · show x = x'
    omega
  · show y = y'
    omega

theorem cellOn_lt (inside : g.Inside place) : g.cellOn place < g.first + g.width * g.height := by
  obtain ⟨⟨left,right⟩,low,high⟩ := inside_iff.mp inside
  have columnsBefore : (place.1.toNat + 1) * g.height ≤ g.width * g.height :=
    Nat.mul_le_mul_right _ (by omega)
  rw [Nat.add_mul] at columnsBefore
  simp only [cellOn]
  omega

/-! ### Places and columns -/

theorem pick?_of_nonneg {α : Type} (items : List α) {position : Int} (low : 0 ≤ position) :
    pick? items position = items[position.toNat]? := by
  unfold pick? place?
  by_cases high : position.toNat < items.length
  · simp [low,high]
  · simp [low,high]

theorem cellAt?_inside {b : Board} (lies : b.columns = g.columns) (inside : g.Inside place) :
    b.cellAt? place.1 place.2 = some (g.cellOn place) := by
  obtain ⟨⟨left,right⟩,low,high⟩ := inside_iff.mp inside
  have column : place.1.toNat < g.width := by omega
  have row : place.2.toNat < g.height := by omega
  simp [Board.cellAt?,lies,columns,Board.freshColumns,pick?_of_nonneg _ left,pick?_of_nonneg _ low,column,row,cellOn]

theorem mem_columns {c : CellId} : c ∈ g.columns.flatten ↔ ∃ place, g.Inside place ∧ c = g.cellOn place := by
  simp only [columns,Board.freshColumns,List.mem_flatten,List.mem_map,List.mem_range]
  constructor
  · rintro ⟨_,⟨x,column,rfl⟩,member⟩
    obtain ⟨y,row,rfl⟩ := List.mem_map.mp member
    refine ⟨(x,y),inside_iff.mpr ?_,by simp [cellOn]⟩
    have := List.mem_range.mp row
    simp only
    omega
  · rintro ⟨place,inside,rfl⟩
    obtain ⟨⟨left,right⟩,low,high⟩ := inside_iff.mp inside
    refine ⟨_,⟨place.1.toNat,by omega,rfl⟩,List.mem_map.mpr ⟨place.2.toNat,List.mem_range.mpr (by omega),rfl⟩⟩

theorem length_columns (g : Ground) : g.columns.length = g.width := by
  simp [columns,Board.freshColumns]

theorem length_column {column : List CellId} (member : column ∈ g.columns) : column.length = g.height := by
  obtain ⟨x,_,rfl⟩ := List.mem_map.mp member
  simp

/-- The cells are numbered in their order, column by column. -/
theorem flatten_columns (g : Ground) : g.columns.flatten = List.range' g.first (g.width * g.height) := by
  obtain ⟨first,width,height⟩ := g
  show (Board.freshColumns first width height).flatten = List.range' first (width * height)
  induction width with
  | zero => simp [Board.freshColumns]
  | succ width ih =>
    have column : (List.range height).map (fun y => first + (width * height + y)) =
        List.range' (first + width * height) height := by
      rw [List.range'_eq_map_range]
      exact List.map_congr_left fun y _ => (Nat.add_assoc _ _ _).symm
    have split : Board.freshColumns first (width + 1) height =
        Board.freshColumns first width height ++ [(List.range height).map fun y => first + (width * height + y)] := by
      simp [Board.freshColumns,List.range_succ]
    rw [split,List.flatten_append,ih,List.flatten_singleton,column,List.range'_append_1,Nat.succ_mul]

/-! ### A board just opened -/

/-- A puzzle whose board has just been opened on the ground: nothing is laid yet
and every cell is dark. -/
structure Opened (g : Ground) (p : Puzzle) : Prop where
  board : p.board = Board.fresh g.first g.bounds
  room : g.first + g.width * g.height ≤ p.cells.size
  dark : ∀ place, g.Inside place → p.cell (g.cellOn place) = Cell.dark place.1.toNat place.2.toNat

theorem length_freshCells (width height : Nat) :
    (Board.freshCells width height).length = width * height := by
  induction width with
  | zero => simp [Board.freshCells]
  | succ width ih =>
    have split : Board.freshCells (width + 1) height =
        Board.freshCells width height ++ (List.range height).map fun y => Cell.dark width y := by
      simp [Board.freshCells,List.range_succ,List.flatMap_append]
    rw [split]
    simp [ih,Nat.succ_mul]

theorem getElem?_freshCells {width height x y : Nat} (column : x < width) (row : y < height) :
    (Board.freshCells width height)[x * height + y]? = some (Cell.dark x y) := by
  induction width with
  | zero => omega
  | succ width ih =>
    have split : Board.freshCells (width + 1) height =
        Board.freshCells width height ++ (List.range height).map fun y => Cell.dark width y := by
      simp [Board.freshCells,List.range_succ,List.flatMap_append]
    rw [split]
    rcases Nat.lt_or_eq_of_le (Nat.le_of_lt_succ column) with earlier | rfl
    · have before : x * height + y < width * height := by
        have := Nat.mul_le_mul_right height (Nat.succ_le_of_lt earlier)
        rw [Nat.succ_mul] at this
        omega
      rw [List.getElem?_append_left (by rw [length_freshCells]; exact before)]
      exact ih earlier
    · rw [List.getElem?_append_right (by rw [length_freshCells]; omega),length_freshCells]
      simp [row]

theorem opened_openBoard (p : Puzzle) (width height : Nat) :
    Opened ⟨p.cells.size,width,height⟩ (p.openBoard ⟨width,height⟩) where
  board := rfl
  room := by simp [Puzzle.openBoard,length_freshCells]
  dark place inside := by
    obtain ⟨⟨left,right⟩,low,high⟩ := inside_iff.mp inside
    simp only at right high
    have found := getElem?_freshCells (show place.1.toNat < width by omega) (show place.2.toNat < height by omega)
    simp only [Puzzle.cell,Puzzle.openBoard,Array.getD_eq_getD_getElem?,cellOn]
    rw [Array.getElem?_append_right (by omega)]
    simp [found]

end Ground

end Crossword
