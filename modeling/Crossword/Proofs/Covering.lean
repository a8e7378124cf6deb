import Crossword.Proofs.Agreement
import Mathlib.Data.List.Nodup

/-!
Clues and the cells under them. After any run of clues laid on a board just opened, a
clue lists the cells of its letters in their order (`Laying.Spans`), and a cell names
for each direction the clue that covers it last, with the letter that it holds of it
(`Names`). A later clue of the same direction takes a cell over but leaves the lists of
the earlier ones alone, so that what a cell names is read off the whole run
(`latest_strokesOf`). The cells noted as light in the end are the covered ones
(`LightNoted`).
-/
namespace Crossword
open Edit Placement

/-- The clue covers the place with one of its letters. -/
def Laying.Covers (p : Puzzle) (l : Laying) (place : Place) : Prop :=
  ∃ k : Nat, (k : Int) < (p.clue l.clue).length ∧ (p.clue l.clue).spot l.direction k = place

/-- The clue covers the place, and none that is laid later in its direction does. -/
def LastOver (p : Puzzle) (steps : List Laying) (place : Place) (l : Laying) : Prop :=
  ∃ before after, steps = before ++ l :: after ∧ l.Covers p place ∧
    ∀ m ∈ after, m.direction = l.direction → ¬ m.Covers p place

/-- The clue lists as many cells as it has letters, all different, and each one is the
    cell of the board that its letter falls on. -/
structure Laying.Spans (g : Ground) (p : Puzzle) (l : Laying) : Prop where
  length : ((p.clue l.clue).cells.length : Int) = (p.clue l.clue).length
  distinct : (p.clue l.clue).cells.Nodup
  cell : ∀ k c, (p.clue l.clue).cells[k]? = some c → g.Inside ((p.clue l.clue).spot l.direction k) ∧
    p.board.cellAt? ((p.clue l.clue).spot l.direction k).1 ((p.clue l.clue).spot l.direction k).2 = some c

/-- The cell on a place names for each direction the clue that covers the place last and
    the letter it holds of it, and neither of them if no clue of the direction covers the
    place. It is light if some clue does, and else it is as on a board just opened. -/
structure Names (p : Puzzle) (steps : List Laying) (place : Place) (c : CellId) : Prop where
  clue : ∀ d i, ((p.cell c).slot d).clue = some i → ∃ l, LastOver p steps place l ∧ l.direction = d ∧ l.clue = i ∧
    ∃ k : Nat, ((p.cell c).slot d).letter = some (k : Int) ∧ (p.clue i).cells[k]? = some c
  noClue : ∀ d, ((p.cell c).slot d).clue = none ↔ ∀ l ∈ steps, l.direction = d → ¬ l.Covers p place
  noLetter : ∀ d, ((p.cell c).slot d).letter = none ↔ ∀ l ∈ steps, l.direction = d → ¬ l.Covers p place
  light : (p.cell c).light = true ↔ ∃ l ∈ steps, l.Covers p place
  dark : (∀ l ∈ steps, ¬ l.Covers p place) → p.cell c = Cell.dark place.1.toNat place.2.toNat

/-- The clues of a run and the cells of the board point at each other. -/
structure Fastened (g : Ground) (steps : List Laying) (p : Puzzle) : Prop where
  clues : ∀ l ∈ steps, l.Spans g p
  cells : ∀ place, g.Inside place → ∃ c, p.board.cellAt? place.1 place.2 = some c ∧ Names p steps place c

/-- The cells noted as light are those that some clue covers, each one once, column by
    column. -/
structure LightNoted (g : Ground) (steps : List Laying) (p : Puzzle) : Prop where
  order : p.board.lightCells.Sublist p.board.columns.flatten
  once : p.board.lightCells.Nodup
  covered : ∀ c, c ∈ p.board.lightCells ↔
    ∃ place, g.Inside place ∧ p.board.cellAt? place.1 place.2 = some c ∧ ∃ l ∈ steps, l.Covers p place

section
variable {g : Ground} {o p q : Puzzle} {trail : List Stroke} {s t : Stroke} {l m : Laying} {steps : List Laying}
  {d : Direction} {place : Place}

/-! ### What a clue covers -/

theorem Laid.covers_iff (laid : Laid g o trail p) : l.Covers p place ↔ ∃ s ∈ l.strokes o, s.place o = place := by
  simp only [Laying.Covers,laid.length_eq,laid.spot_eq]
  constructor
  · rintro ⟨k,short,on⟩
    exact ⟨⟨l.direction,l.clue,k⟩,mem_strokes.mpr ⟨rfl,rfl,short⟩,on⟩
  · rintro ⟨s,stroke,on⟩
    obtain ⟨direction,clue,short⟩ := mem_strokes.mp stroke
    rw [Stroke.place,direction,clue] at on
    exact ⟨s.letter,short,on⟩

theorem findSome?_flatMap {α β γ : Type} {xs : List α} {f : α → List β} {g : β → Option γ} :
    (xs.flatMap f).findSome? g = xs.findSome? fun x => (f x).findSome? g := by
  induction xs with
  | nil => rfl
  | cons x xs ih =>
    rw [List.flatMap_cons,List.findSome?_append,List.findSome?_cons,ih]
    cases (f x).findSome? g <;> rfl

/-- What is found first among the strokes of a run, the newest one first, is found among those of
    the last clue that has any such stroke. -/
theorem findSome?_strokesOf {α : Type} {f : Stroke → Option α} {found : α} :
    (strokesOf o steps).reverse.findSome? f = some found ↔ ∃ before l after, steps = before ++ l :: after ∧
      (l.strokes o).reverse.findSome? f = some found ∧ ∀ m ∈ after, ∀ s ∈ m.strokes o, f s = none := by
  rw [strokesOf,List.reverse_flatMap,findSome?_flatMap,List.findSome?_eq_some_iff]
  simp only [Function.comp_apply,List.findSome?_eq_none_iff,List.mem_reverse]
  constructor
  · rintro ⟨after,l,before,split,own,none⟩
    refine ⟨before.reverse,l,after.reverse,?_,own,fun m member => none m (List.mem_reverse.mp member)⟩
    simpa using congrArg List.reverse split
  · rintro ⟨before,l,after,rfl,own,none⟩
    exact ⟨after.reverse,l,before.reverse,by simp,own,fun m member => none m (List.mem_reverse.mp member)⟩

/-- The newest stroke of a direction on a place belongs to the last clue of the direction
    that has one there. -/
theorem latest_strokesOf (newest : latest o (strokesOf o steps).reverse d place = some s) :
    ∃ before l after, steps = before ++ l :: after ∧ s ∈ l.strokes o ∧
      ∀ m ∈ after, m.direction = d → ¬ ∃ t ∈ m.strokes o, t.place o = place := by
  rw [latest,List.find?_eq_findSome?_guard,findSome?_strokesOf] at newest
  obtain ⟨before,l,after,split,own,none⟩ := newest
  rw [← List.find?_eq_findSome?_guard] at own
  refine ⟨before,l,after,split,List.mem_reverse.mp (List.mem_of_find?_eq_some own),?_⟩
  rintro m member direction ⟨t,stroke,on⟩
  have off := Option.guard_eq_none_iff.mp (none m member t stroke)
  simp [(mem_strokes.mp stroke).1,direction,on] at off

/-- A cell that no stroke has fallen on is as it was at first. -/
theorem Marked.eq_dark {cell : Cell} (marked : Marked o trail place cell)
    (untouched : ¬ ∃ s ∈ trail, s.place o = place) : cell = Cell.dark place.1.toNat place.2.toNat := by
  have slot : ∀ d, cell.slot d = {} := by
    intro d
    have none : latest o trail d place = none := by
      rw [← Option.not_isSome_iff_eq_none,latest_isSome]
      rintro ⟨s,member,_,on⟩
      exact untouched ⟨s,member,on⟩
    rw [marked.slot,slotOf,none]
    simp only [Option.map_none,Slot.mk.injEq,true_and,List.findSome?_eq_none_iff]
    intro s member
    rw [if_neg fun here => untouched ⟨s,member,here.2⟩]
  have row : ∀ r, cell.row r = [blank] := by
    intro r
    obtain ⟨letter,shown,holds⟩ := marked.row r
    rcases holds.source with empty | ⟨s,member,on,_⟩
    · rw [shown,empty]
    · exact absurd ⟨s,member,on⟩ untouched
  have label : cell.label = none := by
    rcases marked.label.source with unset | ⟨s,member,on,_⟩
    · exact unset
    · exact absurd ⟨s,member,on⟩ untouched
  have light : cell.light = false := Bool.eq_false_iff.mpr fun light => untouched (marked.light.mp light)
  have x := marked.x
  have y := marked.y
  have across := slot .across
  have down := slot .down
  have answer := row .answer
  have solution := row .solution
  obtain ⟨column,line,_,_,_,_,_,_⟩ := cell
  simp only [Cell.slot,Cell.row] at across down answer solution x y label light
  simp only [Cell.dark,Cell.mk.injEq]
  exact ⟨by omega,by omega,light,across,down,answer,solution,label⟩

/-! ### After a run -/

namespace Placed
variable (placed : Placed g o steps p)
include placed

theorem covers_iff_latest : (latest o (strokesOf o steps).reverse d place).isSome ↔
    ∃ l ∈ steps, l.direction = d ∧ l.Covers p place := by
  rw [latest_isSome]
  simp only [List.mem_reverse,mem_strokesOf,placed.laid.covers_iff]
  constructor
  · rintro ⟨s,⟨l,member,stroke⟩,direction,on⟩
    exact ⟨l,member,(mem_strokes.mp stroke).1.symm.trans direction,s,stroke,on⟩
  · rintro ⟨l,member,direction,s,stroke,on⟩
    exact ⟨s,⟨l,member,stroke⟩,(mem_strokes.mp stroke).1.trans direction,on⟩

theorem latest_eq_none_iff : latest o (strokesOf o steps).reverse d place = none ↔
    ∀ l ∈ steps, l.direction = d → ¬ l.Covers p place := by
  rw [← Option.not_isSome_iff_eq_none,placed.covers_iff_latest]
  simp

theorem exists_stroke_iff : (∃ s ∈ (strokesOf o steps).reverse, s.place o = place) ↔ ∃ l ∈ steps, l.Covers p place := by
  simp only [List.mem_reverse,mem_strokesOf,placed.laid.covers_iff]
  constructor
  · rintro ⟨s,⟨l,member,stroke⟩,on⟩
    exact ⟨l,member,s,stroke,on⟩
  · rintro ⟨l,member,s,stroke,on⟩
    exact ⟨s,⟨l,member,stroke⟩,on⟩

theorem lastOver_of_latest (newest : latest o (strokesOf o steps).reverse d place = some s) :
    ∃ l, LastOver p steps place l ∧ s ∈ l.strokes o ∧ l.direction = d := by
  obtain ⟨before,l,after,split,stroke,none⟩ := latest_strokesOf newest
  obtain ⟨_,direction,on⟩ := latest_mem newest
  have along : l.direction = d := (mem_strokes.mp stroke).1.symm.trans direction
  refine ⟨l,⟨before,after,split,placed.laid.covers_iff.mpr ⟨s,stroke,on⟩,?_⟩,stroke,along⟩
  intro m member same covers
  exact none m member (same.trans along) (placed.laid.covers_iff.mp covers)

theorem dark (inside : g.Inside place) (uncovered : ∀ l ∈ steps, ¬ l.Covers p place) :
    p.cell (g.cellOn place) = Cell.dark place.1.toNat place.2.toNat := by
  refine (placed.laid.marked place inside).eq_dark fun found => ?_
  obtain ⟨l,member,covers⟩ := placed.exists_stroke_iff.mp found
  exact uncovered l member covers

variable (run : FreshRun o steps)
include run

theorem cells_eq (member : l ∈ steps) : (p.clue l.clue).cells =
    (List.range (p.clue l.clue).length.toNat).map fun k => g.cellOn ((p.clue l.clue).spot l.direction k) := by
  have unplaced : (o.clue l.clue).cells = [] := (Clue.fit_of_fresh (run.fresh l member)).unplaced
  have cells : (p.clue l.clue).cells = cellsOf g o (strokesOf o steps).reverse l.clue := by
    rw [placed.laid.clue,unplaced,List.nil_append]
  rw [cells,cellsOf_strokesOf run.distinct member,Laying.strokes,List.map_map,placed.laid.length_eq]
  refine List.map_congr_left fun k _ => ?_
  rw [placed.laid.spot_eq]
  rfl

omit run in
theorem inside (member : l ∈ steps) {k : Nat} (short : (k : Int) < (p.clue l.clue).length) :
    g.Inside ((p.clue l.clue).spot l.direction k) := by
  rw [placed.laid.length_eq] at short
  rw [placed.laid.spot_eq]
  have stroke : (⟨l.direction,l.clue,k⟩ : Stroke) ∈ l.strokes o := mem_strokes.mpr ⟨rfl,rfl,short⟩
  exact placed.laid.drawn.inside (List.mem_reverse.mpr (mem_strokesOf.mpr ⟨l,member,stroke⟩))

theorem getElem?_cells (member : l ∈ steps) {k : Nat} (short : (k : Int) < (p.clue l.clue).length) :
    (p.clue l.clue).cells[k]? = some (g.cellOn ((p.clue l.clue).spot l.direction k)) := by
  rw [placed.cells_eq run member,List.getElem?_map,List.getElem?_range (by omega)]
  rfl

theorem spans (member : l ∈ steps) : l.Spans g p where
  length := by
    have positive := (Clue.fit_of_fresh (run.fresh l member)).length_pos
    have length := placed.laid.length_eq l.clue
    rw [placed.cells_eq run member,List.length_map,List.length_range]
    omega
  distinct := by
    rw [placed.cells_eq run member]
    refine List.Nodup.map_on (fun k first n second same => ?_) List.nodup_range
    have short := List.mem_range.mp first
    have short' := List.mem_range.mp second
    have place := Ground.cellOn_inj (placed.inside member (by omega)) (placed.inside member (by omega)) same
    by_contra differ
    rw [placed.laid.spot_eq,placed.laid.spot_eq] at place
    exact Stroke.place_ne (s := ⟨l.direction,l.clue,k⟩) (t := ⟨l.direction,l.clue,n⟩) rfl rfl differ place
  cell k c found := by
    have short : (k : Int) < (p.clue l.clue).length := by
      have inside := (List.getElem?_eq_some_iff.mp found).1
      rw [placed.cells_eq run member,List.length_map,List.length_range] at inside
      omega
    have inside := placed.inside member short
    rw [placed.getElem?_cells run member short] at found
    cases found
    exact ⟨inside,Ground.cellAt?_inside placed.laid.columns inside⟩

theorem names (inside : g.Inside place) : Names p steps place (g.cellOn place) where
  clue d i named := by
    rw [(placed.laid.marked place inside).slot] at named ⊢
    obtain ⟨s,newest,rfl⟩ := Option.map_eq_some_iff.mp named
    obtain ⟨l,last,stroke,direction⟩ := placed.lastOver_of_latest newest
    obtain ⟨along,clue,short⟩ := mem_strokes.mp stroke
    obtain ⟨_,_,on⟩ := latest_mem newest
    refine ⟨l,last,direction,clue.symm,s.letter,by rw [slotOf,newest]; rfl,?_⟩
    obtain ⟨before,after,split,_⟩ := last
    have member : l ∈ steps := by simp [split]
    rw [clue,placed.getElem?_cells run member (by rw [placed.laid.length_eq]; exact short),placed.laid.spot_eq,← on,
      Stroke.place,along,clue]
  noClue d := by
    rw [(placed.laid.marked place inside).slot,slotOf,Option.map_eq_none_iff]
    exact placed.latest_eq_none_iff
  noLetter d := by
    rw [(placed.laid.marked place inside).slot,slotOf,Option.map_eq_none_iff]
    exact placed.latest_eq_none_iff
  light := (placed.laid.marked place inside).light.trans placed.exists_stroke_iff
  dark := placed.dark inside

theorem fastened : Fastened g steps p where
  clues _ member := placed.spans run member
  cells place inside := ⟨g.cellOn place,Ground.cellAt?_inside placed.laid.columns inside,placed.names run inside⟩

end Placed

/-! ### Light cells -/

theorem Ground.nodup_columns (g : Ground) : g.columns.flatten.Nodup := by
  rw [g.flatten_columns]
  exact List.nodup_range'

theorem Placed.lightNoted (placed : Placed g o steps p) : LightNoted g steps (noteLight p) := by
  have columns : p.board.columns = g.columns := placed.laid.columns
  refine ⟨?_,?_,fun c => ?_⟩
  · exact List.filter_sublist
  · show (litCells p).Nodup
    rw [litCells,columns]
    exact g.nodup_columns.filter _
  · show c ∈ litCells p ↔ _
    rw [litCells,List.mem_filter,columns,Ground.mem_columns]
    constructor
    · rintro ⟨⟨place,inside,rfl⟩,light⟩
      have marked := placed.laid.marked place inside
      exact ⟨place,inside,Ground.cellAt?_inside columns inside,placed.exists_stroke_iff.mp (marked.light.mp light)⟩
    · rintro ⟨place,inside,found,covered⟩
      have same : c = g.cellOn place := by
        rw [show (noteLight p).board.cellAt? place.1 place.2 = some (g.cellOn place) from
          Ground.cellAt?_inside columns inside] at found
        exact (Option.some.inj found).symm
      subst same
      exact ⟨⟨place,inside,rfl⟩,(placed.laid.marked place inside).light.mpr (placed.exists_stroke_iff.mpr covered)⟩

/-- Noting the light cells leaves clues and cells as they point at each other. -/
theorem Fastened.noteLight (fastened : Fastened g steps p) : Fastened g steps (noteLight p) where
  clues l member := ⟨(fastened.clues l member).length,(fastened.clues l member).distinct,(fastened.clues l member).cell⟩
  cells place inside := by
    obtain ⟨c,found,names⟩ := fastened.cells place inside
    exact ⟨c,found,names.clue,names.noClue,names.noLetter,names.light,names.dark⟩

/-! ### Any run on a board just opened -/

theorem layAll_append_gives {front back : List Laying} : (layAll (front ++ back)).Gives p () q ↔
    ∃ m, (layAll front).Gives p () m ∧ (layAll back).Gives m () q :=
  gives_forM_append

/-- Whatever compiled clues have been laid on a board just opened, in any order, the clues and
    the cells point at each other; and once further clues have been assembled, the light cells
    are those that some clue covers. -/
theorem layAll_fastened (p : Puzzle) (width height : Nat) (steps : List Laying) :
    let g : Ground := ⟨p.cells.size,width,height⟩
    let start := p.openBoard ⟨width,height⟩
    ∀ q, FreshRun start steps → (layAll steps).Gives start () q →
      Fastened g steps q ∧ ∀ across down r, FreshRun start (steps ++ acrossThenDown across down) →
        (assemble across down).Gives q () r →
          Fastened g (steps ++ acrossThenDown across down) r ∧ LightNoted g (steps ++ acrossThenDown across down) r := by
  intro g start q run gives
  have opened : g.Opened start := Ground.opened_openBoard p width height
  have placed : ∀ {steps q}, FreshRun start steps → (layAll steps).Gives start () q → Placed g start steps q :=
    fun run gives => (placed_of_layAll (placed_nil opened) run.allNew gives).2
  refine ⟨(placed run gives).fastened run,?_⟩
  intro across down r more assembled
  obtain ⟨q',laid,rfl⟩ := assemble_gives_iff.mp assembled
  have last := placed more (layAll_append_gives.mpr ⟨q,gives,laid⟩)
  exact ⟨(last.fastened more).noteLight,last.lightNoted⟩

/-- The first row is laid after the column, and then its end is covered by a further clue. -/
theorem fastened_threeClues : ∃ q r, FreshRun (threeClues.openBoard ⟨3,2⟩) threeSteps ∧
    (layAll [⟨.down,2⟩,⟨.across,0⟩]).Gives (threeClues.openBoard ⟨3,2⟩) () q ∧
    (assemble [1] []).Gives q () r ∧ Fastened ⟨0,3,2⟩ [⟨.down,2⟩,⟨.across,0⟩] q ∧ Fastened ⟨0,3,2⟩ threeSteps r ∧
      LightNoted ⟨0,3,2⟩ threeSteps r := by
  have run : FreshRun (threeClues.openBoard ⟨3,2⟩) ([⟨.down,2⟩,⟨.across,0⟩] ++ [⟨.across,1⟩]) := freshRun_threeSteps
  have laid : (layAll [⟨.down,2⟩,⟨.across,0⟩]).Gives (threeClues.openBoard ⟨3,2⟩) () _ :=
    gives_of_isSome (by decide +kernel)
  have assembled : (assemble [1] []).Gives ((layAll [⟨.down,2⟩,⟨.across,0⟩]).run (threeClues.openBoard ⟨3,2⟩)).puzzle ()
      _ := gives_of_isSome (by decide +kernel)
  obtain ⟨fastened,further⟩ := layAll_fastened threeClues 3 2 _ _ run.front laid
  exact ⟨_,_,run,laid,assembled,fastened,further [1] [] _ run assembled⟩

end

end Crossword
