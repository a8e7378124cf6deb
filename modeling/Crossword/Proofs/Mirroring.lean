import Crossword.Proofs.Apart
import Crossword.Proofs.Reading

/-!
Across and down are mirror images of each other. If columns and rows are swapped, the clues
across become those down, which are laid in the other half of the run; but what a run leaves
depends on the order of strokes within one direction only. So the condition for the clues to
be laid is the same (`Mirrors.consistent`), and every cell becomes its own mirror image
(`Mirrors.marked`).
-/
namespace Crossword
open Edit Placement

/-- The clue with its column and its row swapped. -/
def Clue.mirrored (c : Clue) : Clue := { c with x := c.y, y := c.x }

/-- The cell with column and row swapped, and with what each direction has put into it. -/
def Cell.mirrored (c : Cell) : Cell := { c with x := c.y, y := c.x, across := c.down, down := c.across }

/-- The puzzle with columns and rows swapped in all clues. -/
def Puzzle.mirrored (p : Puzzle) : Puzzle := { p with clues := p.clues.map Clue.mirrored }

/-- The stroke in the other direction. -/
def Stroke.turned (s : Stroke) : Stroke := { s with direction := s.direction.crossing }

/-- The clue laid in the other direction. -/
def Laying.turned (l : Laying) : Laying := { l with direction := l.direction.crossing }

/-- The ground with width and height swapped. -/
def Ground.turned (g : Ground) : Ground := ⟨g.first,g.height,g.width⟩

/-- Two runs that are mirror images: the clues have columns and rows swapped, and the clues of
    each direction are laid in the other one, in the same order. -/
structure Mirrors (o : Puzzle) (steps : List Laying) (o' : Puzzle) (steps' : List Laying) : Prop where
  clue : ∀ i, o'.clue i = (o.clue i).mirrored
  steps : ∀ d, steps'.filter (fun l => l.direction = d.crossing) = (steps.filter fun l => l.direction = d).map .turned

@[simp] theorem Direction.crossing_crossing (d : Direction) : d.crossing.crossing = d := by
  cases d <;> rfl

@[simp] theorem Stroke.turned_turned (s : Stroke) : s.turned.turned = s := by
  simp [Stroke.turned]

@[simp] theorem Laying.turned_turned (l : Laying) : l.turned.turned = l := by
  simp [Laying.turned]

section
variable {g : Ground} {o o' p p' : Puzzle} {steps steps' : List Laying} {s : Stroke} {l : Laying} {d : Direction}
  {here : Place}

/-! ### Clues -/

/-- A clue with columns and rows swapped is a compiled clue too. -/
theorem Clue.Fresh.mirrored {c : Clue} (fresh : c.Fresh) : c.mirrored.Fresh := by
  obtain ⟨spec,across,tagEmphasis,compiled⟩ := fresh
  obtain ⟨draft,read,made⟩ := Clue.compile_eq_ok_iff.mp compiled
  obtain ⟨solution,revealed,room,rfl⟩ := Draft.clue_eq_ok_iff.mp made
  obtain ⟨b,rfl⟩ : ∃ b, across = .truth b := by
    unfold Draft.read at read
    split at read
    · cases read
    · next found => exact ClueSpec.truth_of_read found
  obtain ⟨reads,words⟩ := Draft.read_eq_ok_iff.mp read
  obtain ⟨_,_,_,direction⟩ := ClueSpec.read_eq_ok_iff.mp reads
  -- The same specification with the two fields swapped.
  let swapped : ClueSpec := { draft.spec with x := draft.spec.y, y := draft.spec.x }
  refine ⟨.table swapped.entries,.truth b,tagEmphasis,Clue.compile_eq_ok_iff.mpr ⟨⟨swapped,draft.wording⟩,?_,?_⟩⟩
  · exact Draft.read_eq_ok_iff.mpr ⟨ClueSpec.read_eq_ok_iff.mpr ⟨_,rfl,swapped.reads_entries,direction⟩,words⟩
  · exact Draft.clue_eq_ok_iff.mpr ⟨solution,revealed,room,rfl⟩

theorem Puzzle.clue_mirrored (p : Puzzle) (i : ClueId) : p.mirrored.clue i = (p.clue i).mirrored := by
  simp only [clue,Puzzle.mirrored,Array.getD_eq_getD_getElem?,Array.getElem?_map]
  cases p.clues[i]? <;> rfl

theorem Ground.inside_turned : g.turned.Inside here.swap ↔ g.Inside here := by
  rw [inside_iff,inside_iff]
  exact And.comm

/-! ### Strokes of one direction -/

theorem filter_strokesOf (o : Puzzle) (d : Direction) (steps : List Laying) :
    (strokesOf o steps).filter (fun s => s.direction = d) = strokesOf o (steps.filter fun l => l.direction = d) := by
  induction steps with
  | nil => rfl
  | cons l rest ih =>
    have split : strokesOf o (l :: rest) = l.strokes o ++ strokesOf o rest := rfl
    rw [split,List.filter_append,ih,List.filter_cons]
    by_cases same : l.direction = d
    · have all : (l.strokes o).filter (fun s => s.direction = d) = l.strokes o :=
        List.filter_eq_self.mpr fun s stroke => decide_eq_true ((mem_strokes.mp stroke).1.trans same)
      rw [all,if_pos (decide_eq_true same)]
      rfl
    · have none : (l.strokes o).filter (fun s => s.direction = d) = [] :=
        List.filter_eq_nil_iff.mpr fun s stroke found =>
          same ((mem_strokes.mp stroke).1.symm.trans (of_decide_eq_true found))
      rw [none,if_neg (by simpa using same),List.nil_append]

theorem latest_eq_find? (trail : List Stroke) :
    latest o trail d here = (trail.filter fun s => s.direction = d).find? fun s => s.place o = here := by
  simp only [latest,List.find?_filter,Bool.decide_and,decide_eq_true_eq]

theorem findSome?_mark (trail : List Stroke) :
    trail.findSome? (fun s => if s.direction = d ∧ s.place o = here then s.mark o else none) =
      (trail.filter fun s => s.direction = d).findSome? fun s => if s.place o = here then s.mark o else none := by
  induction trail with
  | nil => rfl
  | cons s rest ih =>
    by_cases same : s.direction = d
    · simp only [List.findSome?_cons,List.filter_cons,same,true_and,decide_true,if_true,ih]
    · simp only [List.findSome?_cons,List.filter_cons,same,false_and,decide_false,if_false,ih,Bool.false_eq_true]

/-! ### Runs -/

namespace Mirrors
variable (mirrors : Mirrors o steps o' steps')
include mirrors

theorem symm : Mirrors o' steps' o steps where
  clue i := by
    rw [mirrors.clue]
    rfl
  steps d := by
    have own := mirrors.steps d.crossing
    rw [Direction.crossing_crossing] at own
    rw [own,List.map_map]
    simp [Function.comp_def]

theorem mem_steps (member : l ∈ steps) : l.turned ∈ steps' := by
  have turned : l.turned ∈ (steps.filter fun m => m.direction = l.direction).map .turned :=
    List.mem_map_of_mem (List.mem_filter.mpr ⟨member,decide_eq_true rfl⟩)
  rw [← mirrors.steps] at turned
  exact (List.mem_filter.mp turned).1

theorem place (s : Stroke) : s.turned.place o' = (s.place o).swap := by
  obtain ⟨direction,i,k⟩ := s
  simp only [Stroke.place,Stroke.turned,mirrors.clue]
  cases direction <;> rfl

theorem written (r : Row) (s : Stroke) : s.turned.written o' r = s.written o r := by
  simp only [Stroke.written,Stroke.turned,mirrors.clue]
  cases r <;> rfl

theorem mark (s : Stroke) : s.turned.mark o' = s.mark o := by
  simp only [Stroke.mark,Stroke.turned,mirrors.clue]
  rfl

theorem start (l : Laying) : l.turned.start o' = (l.start o).swap :=
  mirrors.place ⟨l.direction,l.clue,0⟩

theorem strokes (l : Laying) : l.turned.strokes o' = (l.strokes o).map .turned := by
  simp only [Laying.strokes,Laying.turned,mirrors.clue,List.map_map]
  rfl

theorem mem_strokesOf (stroke : s ∈ strokesOf o steps) : s.turned ∈ strokesOf o' steps' := by
  obtain ⟨l,member,stroke⟩ := Crossword.mem_strokesOf.mp stroke
  refine Crossword.mem_strokesOf.mpr ⟨l.turned,mirrors.mem_steps member,?_⟩
  rw [mirrors.strokes]
  exact List.mem_map_of_mem stroke

/-- Strokes of the mirror image come from strokes of the run. -/
theorem exists_stroke {property : Stroke → Prop} :
    (∃ s ∈ (strokesOf o' steps').reverse, property s) ↔ ∃ s ∈ (strokesOf o steps).reverse, property s.turned := by
  simp only [List.mem_reverse]
  constructor
  · rintro ⟨s,stroke,holds⟩
    exact ⟨s.turned,mirrors.symm.mem_strokesOf stroke,by simpa using holds⟩
  · rintro ⟨s,stroke,holds⟩
    exact ⟨s.turned,mirrors.mem_strokesOf stroke,holds⟩

theorem place_turned_iff : s.turned.place o' = here.swap ↔ s.place o = here := by
  rw [mirrors.place,Prod.swap_inj]

/-- A run can be laid if its mirror image can. -/
theorem consistent (consistent : Consistent g.turned o' steps') : Consistent g o steps where
  inside s stroke := by
    rw [← Ground.inside_turned,← mirrors.place]
    exact consistent.inside _ (mirrors.mem_strokesOf stroke)
  answers s one t other on := by
    rw [← mirrors.written,← mirrors.written]
    refine consistent.answers _ (mirrors.mem_strokesOf one) _ (mirrors.mem_strokesOf other) ?_
    rw [mirrors.place,mirrors.place,on]
  solutions s one t other on := by
    rw [← mirrors.written,← mirrors.written]
    refine consistent.solutions _ (mirrors.mem_strokesOf one) _ (mirrors.mem_strokesOf other) ?_
    rw [mirrors.place,mirrors.place,on]
  labels l member m member' on := by
    have same := consistent.labels _ (mirrors.mem_steps member) _ (mirrors.mem_steps member')
      (by rw [mirrors.start,mirrors.start,on])
    simpa only [Laying.turned,mirrors.clue,Clue.mirrored] using same

/-! ### Slots -/

/-- In one direction the strokes of the mirror image are those of the other direction, turned
    and in the same order. -/
theorem filter_trail (d : Direction) : (strokesOf o' steps').reverse.filter (fun s => s.direction = d.crossing) =
    ((strokesOf o steps).reverse.filter fun s => s.direction = d).map .turned := by
  have turned : ∀ ls : List Laying, Crossword.strokesOf o' (ls.map .turned) = (Crossword.strokesOf o ls).map .turned := by
    intro ls
    simp only [Crossword.strokesOf,List.flatMap_map,List.map_flatMap,mirrors.strokes]
  rw [List.filter_reverse,List.filter_reverse,filter_strokesOf,filter_strokesOf,mirrors.steps,turned,List.map_reverse]

theorem latest (d : Direction) (here : Place) : latest o' (strokesOf o' steps').reverse d.crossing here.swap =
    (latest o (strokesOf o steps).reverse d here).map .turned := by
  rw [latest_eq_find?,latest_eq_find?,mirrors.filter_trail,List.find?_map]
  simp only [Function.comp_def,mirrors.place_turned_iff]

theorem slotOf (d : Direction) (here : Place) : slotOf o' (strokesOf o' steps').reverse d.crossing here.swap =
    slotOf o (strokesOf o steps).reverse d here := by
  simp only [Crossword.slotOf,mirrors.latest,findSome?_mark,mirrors.filter_trail,List.findSome?_map,Option.map_map,
    Function.comp_def,mirrors.place_turned_iff,mirrors.mark]
  rfl

/-! ### Cells -/

theorem mem_trail (stroke : s ∈ (strokesOf o steps).reverse) : s.turned ∈ (strokesOf o' steps').reverse :=
  List.mem_reverse.mpr (mirrors.mem_strokesOf (List.mem_reverse.mp stroke))

/-- A cell of the mirror image is the mirror image of the cell. -/
theorem marked {cell : Cell} (marked : Marked o' (strokesOf o' steps').reverse here.swap cell) :
    Marked o (strokesOf o steps).reverse here cell.mirrored where
  x := marked.y
  y := marked.x
  light := by
    refine marked.light.trans ?_
    rw [mirrors.exists_stroke]
    simp only [mirrors.place_turned_iff]
  slot d := by
    rw [← mirrors.slotOf,← marked.slot]
    cases d <;> rfl
  row r := by
    obtain ⟨letter,shown,holds⟩ := marked.row r
    refine ⟨letter,by cases r <;> exact shown,?_,?_⟩
    · intro s stroke on
      rw [← mirrors.written]
      exact holds.all _ (mirrors.mem_trail stroke) (mirrors.place_turned_iff.mpr on)
    · refine holds.source.imp_right fun found => ?_
      simpa only [mirrors.place_turned_iff,mirrors.written] using mirrors.exists_stroke.mp found
  label := by
    have label : ∀ s : Stroke, (o'.clue s.turned.clue).label = (o.clue s.clue).label := by
      intro s
      rw [mirrors.clue]
      rfl
    refine ⟨fun s stroke on first => ?_,marked.label.source.imp_right fun found => ?_⟩
    · rw [← label]
      exact marked.label.all _ (mirrors.mem_trail stroke) (mirrors.place_turned_iff.mpr on) first
    · have found := mirrors.exists_stroke.mp found
      simp only [mirrors.place_turned_iff,label] at found
      exact found

/-- Strokes that are still the newest are so in the mirror image. -/
theorem current (current : Current o (strokesOf o steps).reverse) : Current o' (strokesOf o' steps').reverse := by
  intro s stroke
  have newest := current _ (mirrors.symm.mem_trail stroke)
  have turned := mirrors.latest s.turned.direction (s.turned.place o)
  rw [newest,← mirrors.place,Stroke.turned_turned] at turned
  simpa [Stroke.turned] using turned

section
variable (placed : Placed g o steps p) (placed' : Placed g.turned o' steps' p')
include placed placed'

theorem cell (inside : g.Inside here) : p'.cell (g.turned.cellOn here.swap) = (p.cell (g.cellOn here)).mirrored := by
  have marked := mirrors.marked (placed'.laid.marked _ (Ground.inside_turned.mpr inside))
  rw [(placed.laid.marked _ inside).unique marked]
  rfl

theorem answer (run : FreshRun o steps) (run' : FreshRun o' steps') (apart : p.Apart) (member : l ∈ steps) :
    (p'.clue l.clue).answer = (p.clue l.clue).answer := by
  have current := placed.current run apart
  have answer : (p.clue l.clue).answer = p.spelled l.clue := placed.answer_eq_spelled run current member
  have answer' : (p'.clue l.clue).answer = p'.spelled l.clue :=
    placed'.answer_eq_spelled run' (mirrors.current current) (l := l.turned) (mirrors.mem_steps member)
  have cells : (p.clue l.clue).cells = _ := placed.cells_strokes run member
  have cells' : (p'.clue l.clue).cells = _ := placed'.cells_strokes run' (l := l.turned) (mirrors.mem_steps member)
  rw [answer,answer',Puzzle.spelled,Puzzle.spelled,cells,cells',mirrors.strokes,List.flatMap_map,List.flatMap_map,
    List.flatMap_map]
  refine List.flatMap_congr fun s stroke => ?_
  have inside := placed.laid.drawn.inside (List.mem_reverse.mpr (Crossword.mem_strokesOf.mpr ⟨l,member,stroke⟩))
  rw [mirrors.place,mirrors.cell placed placed' inside]
  rfl

end

end Mirrors

/-! ### Across and down swapped -/

theorem mirrors_openBoard (p : Puzzle) (b c : Bounds) (across down : List ClueId) :
    Mirrors (p.openBoard b) (acrossThenDown across down) (p.mirrored.openBoard c) (acrossThenDown down across) where
  clue := p.clue_mirrored
  steps d := by
    cases d <;> simp [acrossThenDown,List.filter_append,List.filter_map,Function.comp_def,Laying.turned,Direction.crossing]

theorem FreshRun.mirrored {b c : Bounds} {across down : List ClueId}
    (run : FreshRun (p.openBoard b) (acrossThenDown across down)) :
    FreshRun (p.mirrored.openBoard c) (acrossThenDown down across) := by
  have mirrors := mirrors_openBoard p b c across down
  refine ⟨?_,fun l member => ?_,fun l member => ?_⟩
  · have distinct := run.distinct
    rw [clues_acrossThenDown] at distinct ⊢
    exact List.nodup_append_comm.mp distinct
  · have known := run.known _ (mirrors.symm.mem_steps member)
    simpa [Puzzle.openBoard,Puzzle.mirrored,Laying.turned] using known
  · rw [mirrors.clue]
    exact (run.fresh _ (mirrors.symm.mem_steps member)).mirrored

/-- Compiled clues can be assembled exactly if, with columns and rows swapped, those down can
    be laid across and those across down. Then every cell of one grid is the mirror image of
    one of the other grid, and clues have the same answer in both if no two of one direction
    share a cell. -/
theorem assemble_mirrored (p : Puzzle) (width height : Nat) (across down : List ClueId) :
    let start := p.openBoard ⟨width,height⟩
    let turned := p.mirrored.openBoard ⟨height,width⟩
    FreshRun start (acrossThenDown across down) →
      ((∃ q, (assemble across down).Gives start () q) ↔ ∃ r, (assemble down across).Gives turned () r) ∧
        ∀ q r, (assemble across down).Gives start () q → (assemble down across).Gives turned () r →
          (∀ x y : Nat, x < width → y < height → ∃ c e, q.board.cellAt? x y = some c ∧ r.board.cellAt? y x = some e ∧
            r.cell e = (q.cell c).mirrored) ∧
          (q.Apart → ∀ i ∈ across ++ down, (r.clue i).answer = (q.clue i).answer) := by
  intro start turned run
  let g : Ground := ⟨p.cells.size,width,height⟩
  have mirrors : Mirrors start _ turned _ := mirrors_openBoard p ⟨width,height⟩ ⟨height,width⟩ across down
  have run' : FreshRun turned (acrossThenDown down across) := run.mirrored
  have opened : g.Opened start := Ground.opened_openBoard p width height
  have opened' : g.turned.Opened turned := Ground.opened_openBoard p.mirrored height width
  refine ⟨?_,?_⟩
  · rw [assemble_ok_iff opened run,assemble_ok_iff opened' run']
    exact ⟨mirrors.symm.consistent (g := g.turned),mirrors.consistent⟩
  · intro q r gives gives'
    obtain ⟨m,placed,rfl⟩ := placed_of_assemble opened run gives
    obtain ⟨n,placed',rfl⟩ := placed_of_assemble opened' run' gives'
    refine ⟨?_,?_⟩
    · intro x y column row
      have inside : g.Inside ((x : Int),(y : Int)) := Ground.inside_iff.mpr (by simp only [g]; omega)
      exact ⟨_,_,Ground.cellAt?_inside placed.laid.columns inside,
        Ground.cellAt?_inside placed'.laid.columns (Ground.inside_turned.mpr inside),
        (mirrors.cell placed placed' inside :)⟩
    · intro apart i member
      rw [← clues_acrossThenDown] at member
      obtain ⟨l,step,rfl⟩ := List.mem_map.mp member
      exact (mirrors.answer placed placed' run run' apart step :)

/-- One clue across and one down start in the same cell, and the one down takes its first
    letter over from the other. -/
theorem assemble_mirrored_pair : ∃ q r, FreshRun (threeClues.openBoard ⟨3,2⟩) (acrossThenDown [1] [2]) ∧
    (assemble [1] [2]).Gives (threeClues.openBoard ⟨3,2⟩) () q ∧ q.Apart ∧
      (assemble [2] [1]).Gives (threeClues.mirrored.openBoard ⟨2,3⟩) () r ∧
        ∀ i ∈ [1,2], (r.clue i).answer = (q.clue i).answer := by
  have run : FreshRun (threeClues.openBoard ⟨3,2⟩) (acrossThenDown [1] [2]) := by
    have part : ∀ l ∈ acrossThenDown [1] [2], l ∈ threeSteps := by decide
    exact ⟨by decide,fun l member => freshRun_threeSteps.known l (part l member),
      fun l member => freshRun_threeSteps.fresh l (part l member)⟩
  have gives : (assemble [1] [2]).Gives (threeClues.openBoard ⟨3,2⟩) () _ := gives_of_isSome (by decide +kernel)
  have apart : ((assemble [1] [2]).run (threeClues.openBoard ⟨3,2⟩)).puzzle.Apart :=
    apart_of_length_le fun d => by cases d <;> decide +kernel
  have mirrored := assemble_mirrored threeClues 3 2 [1] [2] run
  obtain ⟨r,gives'⟩ := mirrored.1.mp ⟨_,gives⟩
  exact ⟨_,r,run,gives,apart,gives',(mirrored.2 _ r gives gives').2 apart⟩

end

end Crossword
