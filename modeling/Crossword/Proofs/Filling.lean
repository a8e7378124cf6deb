import Crossword.Proofs.Covering

/-!
The letters of laid clues beside those of the cells. However many clues have been laid, and
in whatever order, a clue that a cell still names has the answer letter of the cell, one that
has lost the cell to a later clue has that letter or none, and no letter that was compiled is
lost (`LetterKept`). The carrying invariant is `Answered`, stroke by stroke; here it is read
clue by clue (`Placed.keeps`).
-/
namespace Crossword
open Edit Placement

/-- A letter of a laid clue and the cell under it, with what the clue has filled in there
    and what is intended there. The cell shows what is filled in if it still names the clue;
    if another clue has taken it over, it does so unless nothing is filled in. A compiled
    answer letter stays, and an intended letter is the one that the cell shows. -/
structure LetterKept (o p : Puzzle) (l : Laying) (k : Nat) (c : CellId) (filled intended : Char) : Prop where
  cell : (p.clue l.clue).cells[k]? = some c
  answer : (p.clue l.clue).answer[k]? = some filled
  solution : (p.clue l.clue).solution[k]? = some intended
  current : ((p.cell c).slot l.direction).clue = some l.clue → (p.cell c).answer = [filled]
  agrees : filled = blank ∨ (p.cell c).answer = [filled]
  compiled : ∀ letter, (o.clue l.clue).answer[k]? = some letter → letter ≠ blank → filled = letter
  shown : intended = blank ∨ (p.cell c).solution = [intended]

/-- What becomes of a laid clue: only its answer and its cells have changed since it was
    compiled, the answer is as long as the clue, and every letter is kept. -/
structure Laying.Keeps (o p : Puzzle) (l : Laying) : Prop where
  unchanged : p.clue l.clue =
    { o.clue l.clue with answer := (p.clue l.clue).answer, cells := (p.clue l.clue).cells }
  length : ((p.clue l.clue).answer.length : Int) = (p.clue l.clue).length
  letters : ∀ k : Nat, (k : Int) < (p.clue l.clue).length → ∃ c filled intended, LetterKept o p l k c filled intended

section
variable {g : Ground} {o p : Puzzle} {trail : List Stroke} {s t : Stroke} {l : Laying} {steps : List Laying}

/-- Of one clue a trail has no two strokes on a place. -/
theorem Drawn.eq_of_place (drawn : Drawn g o trail) (one : s ∈ trail) (other : t ∈ trail) (clue : s.clue = t.clue)
    (on : s.place o = t.place o) : s = t := by
  obtain ⟨direction,unique⟩ := drawn.unique one other clue
  by_contra differ
  exact Stroke.place_ne direction clue (fun letter => differ (unique letter)) on

/-- A cell that names the clue of a stroke has that stroke as its newest one. -/
theorem Laid.latest_eq (laid : Laid g o trail p) (member : s ∈ trail)
    (named : ((p.cell (g.cellOn (s.place o))).slot s.direction).clue = some s.clue) :
    latest o trail s.direction (s.place o) = some s := by
  rw [(laid.marked _ (laid.drawn.inside member)).slot] at named
  obtain ⟨t,newest,clue⟩ := Option.map_eq_some_iff.mp named
  obtain ⟨older,_,on⟩ := latest_mem newest
  rw [newest,laid.drawn.eq_of_place older member clue on]

theorem Laid.letterKept (laid : Laid g o trail p) (member : s ∈ trail)
    (cell : (p.clue s.clue).cells[s.letter]? = some (g.cellOn (s.place o))) :
    LetterKept o p ⟨s.direction,s.clue⟩ s.letter (g.cellOn (s.place o)) (s.written p .answer)
      (s.written p .solution) where
  cell := cell
  answer := laid.getElem?_row member .answer
  solution := laid.getElem?_row member .solution
  current named := (laid.answered s member).current (laid.latest_eq member named)
  agrees := (laid.answered s member).agrees
  compiled letter found filled := by
    have written : s.written o .answer = letter := by simp [Stroke.written,Clue.row,found]
    rw [(laid.answered s member).keeps (written ▸ filled),written]
  shown := by
    have unchanged : s.written p .solution = s.written o .solution := by
      rw [Stroke.written,laid.clue]
      rfl
    obtain ⟨letter,shown,holds⟩ := (laid.marked _ (laid.drawn.inside member)).row .solution
    rw [unchanged]
    rcases holds.all s member rfl with none | same
    · exact .inl none
    · exact .inr (by rw [same]; exact shown)

theorem Placed.keeps (placed : Placed g o steps p) (run : FreshRun o steps) (member : l ∈ steps) : l.Keeps o p where
  unchanged := by
    rw [placed.laid.clue]
  length := by
    rw [placed.laid.length_eq,placed.laid.length]
    exact (Clue.fit_of_fresh (run.fresh l member)).row_length .answer
  letters k short := by
    have stroke : (⟨l.direction,l.clue,k⟩ : Stroke) ∈ (strokesOf o steps).reverse := by
      rw [placed.laid.length_eq] at short
      exact List.mem_reverse.mpr (mem_strokesOf.mpr ⟨l,member,mem_strokes.mpr ⟨rfl,rfl,short⟩⟩)
    have cell := placed.getElem?_cells run member short
    rw [placed.laid.spot_eq] at cell
    exact ⟨_,_,_,placed.laid.letterKept stroke cell⟩

/-- Whatever compiled clues have been laid on a board just opened, in any order, each of them
    has the answer and the solution that its cells show, as far as it has letters of its own
    or is still named there, and none of its compiled letters is lost. -/
theorem layAll_keeps (p : Puzzle) (width height : Nat) (steps : List Laying) :
    let start := p.openBoard ⟨width,height⟩
    ∀ q, FreshRun start steps → (layAll steps).Gives start () q → ∀ l ∈ steps, l.Keeps start q := by
  intro start q run gives l member
  have opened := Ground.opened_openBoard p width height
  exact (placed_of_layAll (placed_nil opened) run.allNew gives).2.keeps run member

/-- The row keeps its compiled letter, and the cell that it loses to the clue over its end
    shows a letter that the row does not have. -/
theorem keeps_threeSteps : ∃ q, FreshRun (threeClues.openBoard ⟨3,2⟩) threeSteps ∧
    (layAll threeSteps).Gives (threeClues.openBoard ⟨3,2⟩) () q ∧
      Laying.Keeps (threeClues.openBoard ⟨3,2⟩) q ⟨.across,0⟩ := by
  have laid : (layAll threeSteps).Gives (threeClues.openBoard ⟨3,2⟩) () _ := gives_of_isSome (by decide +kernel)
  exact ⟨_,freshRun_threeSteps,laid,layAll_keeps threeClues 3 2 threeSteps _ freshRun_threeSteps laid _ (by decide)⟩

end

end Crossword
