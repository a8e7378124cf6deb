import Crossword.Proofs.Letter

/-!
Puzzles along a trail. `Laid` says what a puzzle looks like once the strokes of a
trail have been made on a board just opened: every cell shows what the trail says,
every clue has the cells of its strokes, and its answer shows, letter by letter, what
the cells show. A further stroke that is compatible with every stroke of the trail goes
through and leads to the longer trail (`layLetter_gives`).
-/
namespace Crossword
open Edit Placement

/-! ### Trails -/

/-- The stroke can be made after the trail: it falls on the ground, its clue has such a
    letter, and of that clue the trail has only other letters in the same direction. -/
structure Ready (g : Ground) (o : Puzzle) (trail : List Stroke) (s : Stroke) : Prop where
  inside : g.Inside (s.place o)
  known : s.clue < o.clues.size
  fit : (o.clue s.clue).Fit
  letter : (s.letter : Int) < (o.clue s.clue).length
  fresh : ∀ t ∈ trail, t.clue = s.clue → t.direction = s.direction ∧ t.letter ≠ s.letter

/-- Every stroke was ready when it was made. -/
inductive Drawn (g : Ground) (o : Puzzle) : List Stroke → Prop
  | nil : Drawn g o []
  | cons {s : Stroke} {trail : List Stroke} : Ready g o trail s → Drawn g o trail → Drawn g o (s :: trail)

section
variable {g : Ground} {o p q : Puzzle} {trail : List Stroke} {s t : Stroke}

theorem Drawn.ready (drawn : Drawn g o trail) (member : s ∈ trail) : ∃ older, Ready g o older s := by
  induction drawn with
  | nil => cases member
  | @cons t older ready _ ih =>
    rcases List.mem_cons.mp member with rfl | before
    · exact ⟨older,ready⟩
    · exact ih before

theorem Drawn.inside (drawn : Drawn g o trail) (member : s ∈ trail) : g.Inside (s.place o) := by
  obtain ⟨_,ready⟩ := drawn.ready member
  exact ready.inside

theorem Drawn.unique (drawn : Drawn g o trail) (one : s ∈ trail) (other : t ∈ trail) (clue : s.clue = t.clue) :
    s.direction = t.direction ∧ (s.letter = t.letter → s = t) := by
  induction drawn with
  | nil => cases one
  | @cons u older ready _ ih =>
    rcases List.mem_cons.mp one with rfl | before
    · rcases List.mem_cons.mp other with rfl | before
      · exact ⟨rfl,fun _ => rfl⟩
      · obtain ⟨direction,letter⟩ := ready.fresh t before clue.symm
        exact ⟨direction.symm,fun same => absurd same.symm letter⟩
    · rcases List.mem_cons.mp other with rfl | before'
      · obtain ⟨direction,letter⟩ := ready.fresh s before clue
        exact ⟨direction,fun same => absurd same letter⟩
      · exact ih before before'

theorem Ready.letter_lt (ready : Ready g o trail s) (r : Row) : s.letter < ((o.clue s.clue).row r).length := by
  have := ready.letter
  have := ready.fit.row_length r
  omega

/-! ### What a trail leaves -/

/-- The cell shows what the trail says of its place. -/
structure Marked (o : Puzzle) (trail : List Stroke) (place : Place) (cell : Cell) : Prop where
  x : (cell.x : Int) = place.1
  y : (cell.y : Int) = place.2
  light : cell.light = true ↔ ∃ s ∈ trail, s.place o = place
  slot : ∀ d, cell.slot d = slotOf o trail d place
  row : ∀ r, ∃ letter, cell.row r = [letter] ∧ Holds o trail r place letter
  label : Labels o trail place cell.label

/-- The cells that a trail has laid a clue over, in the order of its letters. -/
def cellsOf (g : Ground) (o : Puzzle) (trail : List Stroke) (i : ClueId) : List CellId :=
  ((trail.filter fun s => s.clue = i).map fun s => g.cellOn (s.place o)).reverse

/-- The answer letter of a clue at one of its strokes: a compiled letter stays, the
    letter is blank or the one in the cell, and it is that one while no newer stroke of
    the direction has covered the cell. -/
structure Answered (g : Ground) (o : Puzzle) (trail : List Stroke) (p : Puzzle) (s : Stroke) : Prop where
  keeps : s.written o .answer ≠ blank → s.written p .answer = s.written o .answer
  agrees : s.written p .answer = blank ∨ (p.cell (g.cellOn (s.place o))).answer = [s.written p .answer]
  current : latest o trail s.direction (s.place o) = some s →
    (p.cell (g.cellOn (s.place o))).answer = [s.written p .answer]

/-- The puzzle that the strokes of a trail leave, when they are made on a board just
    opened. -/
structure Laid (g : Ground) (o : Puzzle) (trail : List Stroke) (p : Puzzle) : Prop where
  opened : g.Opened o
  drawn : Drawn g o trail
  board : p.board = { o.board with across := p.board.across, down := p.board.down }
  room : p.cells.size = o.cells.size
  known : p.clues.size = o.clues.size
  marked : ∀ place, g.Inside place → Marked o trail place (p.cell (g.cellOn place))
  clue : ∀ i, p.clue i =
    { o.clue i with answer := (p.clue i).answer, cells := (o.clue i).cells ++ cellsOf g o trail i }
  length : ∀ i, (p.clue i).answer.length = (o.clue i).answer.length
  waiting : ∀ i k, (∀ s ∈ trail, s.clue = i → s.letter ≠ k) → (p.clue i).answer[k]? = (o.clue i).answer[k]?
  answered : ∀ s ∈ trail, Answered g o trail p s

theorem laid_nil (opened : g.Opened o) : Laid g o [] o where
  opened := opened
  drawn := .nil
  board := rfl
  room := rfl
  known := rfl
  marked place inside := by
    obtain ⟨⟨left,_⟩,low,_⟩ := Ground.inside_iff.mp inside
    rw [opened.dark place inside]
    exact {
      x := Int.toNat_of_nonneg left
      y := Int.toNat_of_nonneg low
      light := by simp [Cell.dark]
      slot := fun d => by cases d <;> simp [Cell.dark,Cell.slot,slotOf,latest]
      row := fun r => ⟨blank,by cases r <;> rfl,by simp,.inl rfl⟩
      label := ⟨by simp,.inl rfl⟩ }
  clue i := by simp [cellsOf]
  length _ := rfl
  waiting _ _ _ := rfl
  answered s member := by cases member

namespace Laid

theorem columns (laid : Laid g o trail p) : p.board.columns = g.columns := by
  rw [laid.board,laid.opened.board]
  rfl

theorem cellOn_lt (laid : Laid g o trail p) {place : Place} (inside : g.Inside place) :
    g.cellOn place < p.cells.size := by
  have := Ground.cellOn_lt inside
  have := laid.opened.room
  rw [laid.room]
  omega

theorem length_eq (laid : Laid g o trail p) (i : ClueId) : (p.clue i).length = (o.clue i).length := by
  rw [laid.clue]

theorem spot_eq (laid : Laid g o trail p) (i : ClueId) (d : Direction) (k : Nat) :
    (p.clue i).spot d k = (o.clue i).spot d k := by
  rw [laid.clue]
  cases d <;> rfl

theorem row_length (laid : Laid g o trail p) (i : ClueId) (r : Row) :
    ((p.clue i).row r).length = ((o.clue i).row r).length := by
  cases r with
  | answer => exact laid.length i
  | solution =>
    rw [laid.clue]
    rfl

theorem letter_lt (laid : Laid g o trail p) (member : s ∈ trail) (r : Row) :
    s.letter < ((p.clue s.clue).row r).length := by
  obtain ⟨_,ready⟩ := laid.drawn.ready member
  rw [laid.row_length]
  exact ready.letter_lt r

theorem getElem?_row (laid : Laid g o trail p) (member : s ∈ trail) (r : Row) :
    ((p.clue s.clue).row r)[s.letter]? = some (s.written p r) := by
  simp [Stroke.written,laid.letter_lt member r]

/-! ### Before a stroke -/

theorem cellFor_eq (laid : Laid g o trail p) (ready : Ready g o trail s) :
    cellFor s.direction s.clue s.letter p = .ok (g.cellOn (s.place o)) := by
  have spot : (p.clue s.clue).spot s.direction s.letter = s.place o := laid.spot_eq s.clue s.direction s.letter
  simp only [cellFor,spot,Ground.cellAt?_inside laid.columns ready.inside]

theorem terminator_eq (laid : Laid g o trail p) (ready : Ready g o trail s) :
    terminator (p.clue s.clue) s.letter = .ok (s.mark o) := by
  have same : terminator (p.clue s.clue) s.letter = terminator (o.clue s.clue) s.letter := by
    rw [laid.clue]
    rfl
  obtain ⟨mark,ends⟩ := terminator_of_fit ready.fit s.letter
  rw [same,ends,Stroke.mark,ends]

theorem letter_eq (laid : Laid g o trail p) (ready : Ready g o trail s) (r : Row) :
    ((p.clue s.clue).row r)[s.letter]? = some (s.written o r) := by
  have compiled : ((o.clue s.clue).row r)[s.letter]? = some (s.written o r) := by
    rw [Stroke.written,List.getElem?_eq_getElem (ready.letter_lt r)]
    rfl
  cases r with
  | answer => exact (laid.waiting _ _ fun t member clue => (ready.fresh t member clue).2).trans compiled
  | solution =>
    rw [laid.clue]
    exact compiled

end Laid

/-! ### A stroke that goes through -/

/-- The stroke that crosses a new one: the newest of the other direction there. -/
def crossing (o : Puzzle) (trail : List Stroke) (s : Stroke) : Option Stroke :=
  latest o trail s.direction.crossing (s.place o)

theorem crossing_ne (d : Direction) : d.crossing ≠ d := by
  cases d <;> simp [Direction.crossing]

/-- The cell that a stroke falls on holds these letters, and the stroke agrees with
    them and with the label. -/
structure Meets (o : Puzzle) (s : Stroke) (cell : Cell) (held held' : Char) : Prop where
  answer : cell.answer = [held]
  solution : cell.solution = [held']
  agreeAnswer : Agree held (s.written o .answer)
  agreeSolution : Agree held' (s.written o .solution)
  label : LabelFits o s.clue s.letter cell.label

/-- The cell of a stroke once its answer letter is laid. -/
def lit (o : Puzzle) (s : Stroke) (answer : Char) (cell : Cell) : Cell :=
  { (cell.updateSlot s.direction fun slot =>
      { clue := some s.clue, letter := some s.letter, terminator := s.mark o <|> slot.terminator }) with
    light := true
    answer := [answer] }

/-- The cell of a stroke once all of it is laid. -/
def covered (o : Puzzle) (s : Stroke) (answer solution : Char) (cell : Cell) : Cell :=
  { lit o s answer cell with
    solution := [solution]
    label := if s.letter = 0 then some (o.clue s.clue).label else cell.label }

/-- What a stroke changes: its cell becomes another one, its clue is laid over it, and
    the answers of its clue and of the clue that crosses there show a letter. -/
structure Struck (g : Ground) (o : Puzzle) (trail : List Stroke) (s : Stroke) (answer : Char) (cell : Cell)
    (p q : Puzzle) : Prop where
  board : q.board = p.board
  room : q.cells.size = p.cells.size
  known : q.clues.size = p.clues.size
  here : q.cell (g.cellOn (s.place o)) = cell
  elsewhere : ∀ x, x ≠ g.cellOn (s.place o) → q.cell x = p.cell x
  own : q.clue s.clue =
    { p.clue s.clue with
      answer := (p.clue s.clue).answer.set s.letter answer
      cells := (p.clue s.clue).cells ++ [g.cellOn (s.place o)] }
  crossed : ∀ t, crossing o trail s = some t →
    q.clue t.clue = { p.clue t.clue with answer := (p.clue t.clue).answer.set t.letter answer }
  others : ∀ j, j ≠ s.clue → (∀ t, crossing o trail s = some t → t.clue ≠ j) → q.clue j = p.clue j

namespace Laid

/-- The clue that a cell names last in a direction has the answer letter that the cell shows. -/
theorem latest_current (laid : Laid g o trail p) {d : Direction} {place : Place} {held : Char}
    (newest : latest o trail d place = some t) (shown : (p.cell (g.cellOn place)).answer = [held]) :
    (p.clue t.clue).answer[t.letter]? = some held := by
  obtain ⟨member,direction,on⟩ := latest_mem newest
  subst direction on
  have same := (laid.answered t member).current newest
  rw [shown] at same
  rw [List.singleton_inj.mp same]
  exact laid.getElem?_row member .answer

theorem crossing_crosses (laid : Laid g o trail p) (ready : Ready g o trail s) {held : Char}
    (shown : (p.cell (g.cellOn (s.place o))).answer = [held]) :
    Crosses s.direction.crossing s.clue (g.cellOn (s.place o)) held (crossing o trail s)
      (attached s.direction s.clue s.letter (g.cellOn (s.place o)) (s.mark o) p) := by
  set c := g.cellOn (s.place o) with cIs
  have inside : c < p.cells.size := laid.cellOn_lt ready.inside
  have known : s.clue < p.clues.size := laid.known ▸ ready.known
  have slot : ((attached s.direction s.clue s.letter c (s.mark o) p).cell c).slot s.direction.crossing =
      slotOf o trail s.direction.crossing (s.place o) := by
    rw [cell_attached inside,if_pos rfl,← (laid.marked _ ready.inside).slot]
    cases s.direction <;> rfl
  have other : ∀ t, crossing o trail s = some t → t.clue ≠ s.clue := by
    intro t found same
    obtain ⟨member,direction,_⟩ := latest_mem found
    exact crossing_ne s.direction (direction.symm.trans (ready.fresh t member same).1)
  refine ⟨?_,?_,other,?_,?_⟩
  · rw [slot]
    rfl
  · rw [slot]
    rfl
  · intro t found
    obtain ⟨_,ready'⟩ := laid.drawn.ready (latest_mem found).1
    show t.clue < (attached s.direction s.clue s.letter c (s.mark o) p).clues.size
    simpa [attached,laid.known] using ready'.known
  · intro t found
    rw [clue_attached known,if_neg (other t found).symm]
    exact laid.latest_current found shown

/-- Everything up to the solution goes through if the answer letters agree. -/
theorem layAnswer_struck (laid : Laid g o trail p) (ready : Ready g o trail s) {held : Char}
    (shown : (p.cell (g.cellOn (s.place o))).answer = [held]) (agree : Agree held (s.written o .answer))
    (previous : Option ClueId) :
    ∃ q, (layAnswer s.direction s.clue s.letter (g.cellOn (s.place o)) previous).Gives
        (attached s.direction s.clue s.letter (g.cellOn (s.place o)) (s.mark o) p) () q ∧
      Struck g o trail s (overlay held (s.written o .answer))
        (lit o s (overlay held (s.written o .answer)) (p.cell (g.cellOn (s.place o)))) p q := by
  have crosses := laid.crossing_crosses ready shown
  set c := g.cellOn (s.place o) with cIs
  have inside : c < p.cells.size := laid.cellOn_lt ready.inside
  have known : s.clue < p.clues.size := laid.known ▸ ready.known
  set tied := attached s.direction s.clue s.letter c (s.mark o) p with tiedIs
  have cellTied : tied.cell c = _ := cell_attached inside c
  have clueTied : tied.clue s.clue = _ := clue_attached known s.clue
  rw [if_pos rfl] at cellTied clueTied
  have insideTied : c < tied.cells.size := by simpa [tiedIs,attached] using inside
  have knownTied : s.clue < tied.clues.size := by simpa [tiedIs,attached] using known
  have cellShown : (tied.cell c).answer = [held] := by
    rw [cellTied]
    cases s.direction <;> exact shown
  have clueKnown : (tied.clue s.clue).answer[s.letter]? = some (s.written o .answer) := by
    rw [clueTied]
    exact laid.letter_eq ready .answer
  obtain ⟨q,gives,spread⟩ := layAnswer_gives previous insideTied knownTied clueKnown cellShown crosses agree
  have cells : ∀ x, q.cell x = if c = x then (tied.cell x).setRow .answer [overlay held (s.written o .answer)]
      else tied.cell x := by
    intro x
    rw [Puzzle.cell_congr spread.cells,Puzzle.cell_updateCell _ _ insideTied]
  refine ⟨q,gives,?_,?_,?_,?_,?_,?_,?_,?_⟩
  · rw [spread.board]
    rfl
  · rw [spread.cells]
    simp [tiedIs,attached]
  · rw [spread.size]
    simp [tiedIs,attached]
  · rw [← cIs,cells,if_pos rfl,cellTied]
    cases along : s.direction <;> simp only [lit,along] <;> rfl
  · intro x off
    rw [cells,if_neg off.symm,tiedIs,cell_attached inside,if_neg off.symm]
  · rw [spread.own,Puzzle.clue_updateCell,clueTied]
  · intro t found
    rw [spread.crossed t found,Puzzle.clue_updateCell,tiedIs,clue_attached known,if_neg (crosses.other t found).symm]
  · intro j apart other
    rw [spread.others j apart other,Puzzle.clue_updateCell,tiedIs,clue_attached known,if_neg apart.symm]

theorem layLetter_struck (laid : Laid g o trail p) (ready : Ready g o trail s) {held held' : Char}
    (meets : Meets o s (p.cell (g.cellOn (s.place o))) held held') :
    ∃ q, (layLetter s.direction s.clue s.letter).Gives p () q ∧
      Struck g o trail s (overlay held (s.written o .answer))
        (covered o s (overlay held (s.written o .answer)) (overlay held' (s.written o .solution))
          (p.cell (g.cellOn (s.place o)))) p q := by
  set c := g.cellOn (s.place o) with cIs
  obtain ⟨r,answerGives,struck⟩ := laid.layAnswer_struck ready meets.answer meets.agreeAnswer
    ((p.cell c).occupant s.direction)
  rw [← cIs] at answerGives struck
  have inside : c < r.cells.size := struck.room ▸ laid.cellOn_lt ready.inside
  have here : r.cell c = _ := struck.here
  have label : (r.clue s.clue).label = (o.clue s.clue).label := by rw [struck.own,laid.clue]
  have own : (r.clue s.clue).solution[s.letter]? = some (s.written o .solution) := by
    rw [struck.own]
    exact laid.letter_eq ready .solution
  have solution : (r.cell c).solution = [held'] := by
    rw [here]
    simpa [lit] using meets.solution
  have fits : LabelFits r s.clue s.letter (r.cell c).label := by
    rw [LabelFits,here,label]
    simpa [lit,LabelFits] using meets.label
  have restGives := layRest_gives ((p.cell c).occupant s.direction) inside own solution meets.agreeSolution fits
  refine ⟨finished s.clue s.letter c (overlay held' (s.written o .solution)) r,?_,?_,?_,?_,?_,?_,?_,?_,?_⟩
  · rw [layLetter_eq]
    simp only [gives_bind,gives_judge,gives_read]
    exact ⟨c,p,⟨laid.cellFor_eq ready,rfl⟩,_,p,⟨rfl,rfl⟩,(),_,attach_gives (laid.terminator_eq ready),
      (),r,answerGives,restGives⟩
  · exact board_finished.trans struck.board
  · exact size_cells_finished.trans struck.room
  · rw [clues_finished]
    exact struck.known
  · rw [← cIs,cell_finished inside,if_pos rfl,here,label]
    simp [covered,lit]
  · intro x off
    rw [cell_finished inside,if_neg off.symm]
    exact struck.elsewhere x off
  · exact (Puzzle.clue_congr clues_finished _).trans struck.own
  · intro t found
    exact (Puzzle.clue_congr clues_finished _).trans (struck.crossed t found)
  · intro j apart other
    exact (Puzzle.clue_congr clues_finished _).trans (struck.others j apart other)

end Laid

/-! ### The longer trail -/

theorem overlay_held {held letter : Char} (agree : Agree held letter) (filled : held ≠ blank) :
    overlay held letter = held := by
  unfold overlay
  split
  · rfl
  · next some_letter =>
    rcases agree with none | none | same
    · exact absurd none filled
    · exact absurd none some_letter
    · exact same.symm

theorem eq_crossing_of_ne {d e : Direction} (apart : e ≠ d) : e = d.crossing := by
  cases d <;> cases e <;> simp_all [Direction.crossing]

namespace Struck
variable {held held' : Char}

section
variable {answer : Char} {cell : Cell}

/-- What becomes of the clues: the one that is laid, the one that crosses it, and the
    others. -/
theorem clue_cases (struck : Struck g o trail s answer cell p q) (i : ClueId) :
    (i = s.clue ∧ q.clue i =
        { p.clue i with
          answer := (p.clue i).answer.set s.letter answer
          cells := (p.clue i).cells ++ [g.cellOn (s.place o)] }) ∨
      i ≠ s.clue ∧ ((∃ t, crossing o trail s = some t ∧ t.clue = i ∧
        q.clue i = { p.clue i with answer := (p.clue i).answer.set t.letter answer }) ∨ q.clue i = p.clue i) := by
  by_cases own : i = s.clue
  · subst own
    exact .inl ⟨rfl,struck.own⟩
  · refine .inr ⟨own,?_⟩
    by_cases crosses : ∃ t, crossing o trail s = some t ∧ t.clue = i
    · obtain ⟨t,found,rfl⟩ := crosses
      exact .inl ⟨t,found,rfl,struck.crossed t found⟩
    · exact .inr (struck.others i own fun t found same => crosses ⟨t,found,same⟩)

theorem written_own (struck : Struck g o trail s answer cell p q) (laid : Laid g o trail p)
    (ready : Ready g o trail s) : s.written q .answer = answer := by
  have short : s.letter < (p.clue s.clue).answer.length := by
    rw [laid.length]
    exact ready.letter_lt .answer
  simp [Stroke.written,Clue.row,struck.own,short]

theorem written_crossed (struck : Struck g o trail s answer cell p q) (laid : Laid g o trail p)
    (found : crossing o trail s = some t) : t.written q .answer = answer := by
  have short : t.letter < (p.clue t.clue).answer.length := laid.letter_lt (latest_mem found).1 .answer
  simp [Stroke.written,Clue.row,struck.crossed t found,short]

/-- The letters of all other strokes stay. -/
theorem written_other (struck : Struck g o trail s answer cell p q) (laid : Laid g o trail p)
    (ready : Ready g o trail s) (member : t ∈ trail) (other : crossing o trail s ≠ some t) :
    t.written q .answer = t.written p .answer := by
  simp only [Stroke.written,Clue.row]
  rcases struck.clue_cases t.clue with ⟨own,laidOver⟩ | ⟨_,⟨u,found,same,crossed⟩ | same⟩
  · rw [laidOver]
    simp only [List.getElem?_set_ne (Ne.symm (ready.fresh t member own).2)]
  · have letter : u.letter ≠ t.letter := by
      intro equal
      have := (laid.drawn.unique (latest_mem found).1 member same).2 equal
      exact other (by rw [found,this])
    rw [crossed]
    simp only [List.getElem?_set_ne letter]
  · rw [same]

end

section
variable (meets : Meets o s (p.cell (g.cellOn (s.place o))) held held')
  (struck : Struck g o trail s (overlay held (s.written o .answer))
    (covered o s (overlay held (s.written o .answer)) (overlay held' (s.written o .solution))
      (p.cell (g.cellOn (s.place o)))) p q)
  (laid : Laid g o trail p) (ready : Ready g o trail s)
include meets struck laid ready

theorem marked {place : Place} (inside : g.Inside place) : Marked o (s :: trail) place (q.cell (g.cellOn place)) := by
  have before := laid.marked place inside
  by_cases on : s.place o = place
  · subst on
    have holds : ∀ r letter, (p.cell (g.cellOn (s.place o))).row r = [letter] → Holds o trail r (s.place o) letter := by
      intro r letter shown
      obtain ⟨_,shown',holds⟩ := before.row r
      rw [shown] at shown'
      cases shown'
      exact holds
    rw [struck.here]
    refine ⟨?_,?_,?_,?_,?_,?_⟩
    · simpa [covered,lit] using before.x
    · simpa [covered,lit] using before.y
    · exact iff_of_true rfl ⟨s,List.mem_cons_self,rfl⟩
    · intro d
      have slot : ∀ answer solution cell, (covered o s answer solution cell).slot d =
          if s.direction = d then
            { clue := some s.clue, letter := some s.letter, terminator := s.mark o <|> (cell.slot d).terminator }
          else cell.slot d := fun answer solution cell => Cell.slot_updateSlot (c := cell) d
      rw [slot,before.slot]
      by_cases direction : s.direction = d
      · rw [if_pos direction,slotOf_cons_here direction rfl]
      · rw [if_neg direction,slotOf_cons_elsewhere (fun here => direction here.1)]
    · intro r
      cases r with
      | answer => exact ⟨_,rfl,holds_cons (holds .answer held meets.answer) meets.agreeAnswer⟩
      | solution => exact ⟨_,rfl,holds_cons (holds .solution held' meets.solution) meets.agreeSolution⟩
    · exact labels_cons before.label meets.label
  · rw [struck.elsewhere _ (fun same => on (Ground.cellOn_inj inside ready.inside same).symm)]
    refine ⟨before.x,before.y,?_,?_,?_,labels_cons_elsewhere before.label on⟩
    · rw [before.light]
      simp [on]
    · intro d
      rw [slotOf_cons_elsewhere (fun here => on here.2)]
      exact before.slot d
    · intro r
      obtain ⟨letter,shown,holds⟩ := before.row r
      exact ⟨letter,shown,holds_cons_elsewhere holds on⟩

omit meets in
theorem answered_new : Answered g o (s :: trail) q s := by
  have own := struck.written_own laid ready
  have here : (q.cell (g.cellOn (s.place o))).answer = [s.written q .answer] := by
    rw [struck.here,own]
    rfl
  refine ⟨?_,.inr here,fun _ => here⟩
  intro compiled
  rw [own,overlay,if_neg compiled]

omit ready in
/-- The stroke that crosses takes the letter that the cell shows. -/
theorem answered_crossed (crosses : crossing o trail s = some t) : Answered g o (s :: trail) q t := by
  obtain ⟨older,direction,on⟩ := latest_mem crosses
  have before := laid.answered t older
  have written := struck.written_crossed laid crosses
  have here : (q.cell (g.cellOn (t.place o))).answer = [t.written q .answer] := by
    rw [on,written,struck.here]
    rfl
  refine ⟨?_,.inr here,fun _ => here⟩
  intro compiled
  -- The crossing stroke was up to date, so the cell held its compiled letter.
  have current := before.current (by rw [direction,on]; exact crosses)
  rw [on,meets.answer] at current
  have same : held = t.written o .answer := by
    rw [← before.keeps compiled]
    exact List.singleton_inj.mp current
  rw [written,overlay_held meets.agreeAnswer (same ▸ compiled),same]

/-- Every other stroke keeps its letter, also one that the new stroke covers. -/
theorem answered_other (older : t ∈ trail) (crosses : crossing o trail s ≠ some t) : Answered g o (s :: trail) q t := by
  have before := laid.answered t older
  have written := struck.written_other laid ready older crosses
  by_cases on : t.place o = s.place o
  · refine ⟨fun compiled => written.trans (before.keeps compiled),?_,?_⟩
    · rw [written,on,struck.here]
      rcases before.agrees with none | same
      · exact .inl none
      · rw [on,meets.answer] at same
        have same := List.singleton_inj.mp same
        by_cases empty : held = blank
        · exact .inl (same.symm.trans empty)
        · refine .inr ?_
          show [overlay held (s.written o .answer)] = _
          rw [overlay_held meets.agreeAnswer empty,same]
    · -- The newest stroke here is the new one, or one of the other direction, which crosses it.
      intro newest
      rw [latest_cons] at newest
      split at newest
      · cases newest
        exact absurd rfl (ready.fresh s older rfl).2
      · next off =>
        have direction : t.direction = s.direction.crossing :=
          eq_crossing_of_ne fun same => off ⟨same.symm,on.symm⟩
        exact absurd (by rw [crossing,← direction,← on]; exact newest) crosses
  · have elsewhere : q.cell (g.cellOn (t.place o)) = p.cell (g.cellOn (t.place o)) :=
      struck.elsewhere _ fun same => on (Ground.cellOn_inj (laid.drawn.inside older) ready.inside same)
    refine ⟨fun compiled => written.trans (before.keeps compiled),by rw [written,elsewhere]; exact before.agrees,?_⟩
    intro newest
    rw [latest_cons,if_neg (fun here => on here.2.symm)] at newest
    rw [written,elsewhere]
    exact before.current newest

theorem answered (member : t ∈ s :: trail) : Answered g o (s :: trail) q t := by
  rcases List.mem_cons.mp member with rfl | older
  · exact struck.answered_new laid ready
  · by_cases crosses : crossing o trail s = some t
    · exact struck.answered_crossed meets laid crosses
    · exact struck.answered_other meets laid ready older crosses

theorem laid_cons : Laid g o (s :: trail) q where
  opened := laid.opened
  drawn := .cons ready laid.drawn
  board := by
    rw [struck.board]
    exact laid.board
  room := struck.room.trans laid.room
  known := struck.known.trans laid.known
  marked place inside := struck.marked meets laid ready inside
  clue i := by
    rcases struck.clue_cases i with ⟨rfl,own⟩ | ⟨apart,other⟩
    · rw [own,laid.clue]
      simp [cellsOf]
    · have cells : cellsOf g o (s :: trail) i = cellsOf g o trail i := by
        simp [cellsOf,Ne.symm apart]
      rw [cells]
      rcases other with ⟨t,_,_,crossed⟩ | same
      · rw [crossed,laid.clue]
      · rw [same]
        exact laid.clue i
  length i := by
    rw [← laid.length i]
    rcases struck.clue_cases i with ⟨_,own⟩ | ⟨_,⟨t,_,_,crossed⟩ | same⟩
    · simp [own]
    · simp [crossed]
    · rw [same]
  waiting i k unmade := by
    rw [← laid.waiting i k fun t member => unmade t (List.mem_cons_of_mem _ member)]
    rcases struck.clue_cases i with ⟨clue,own⟩ | ⟨_,⟨t,found,clue,crossed⟩ | same⟩
    · rw [own]
      exact List.getElem?_set_ne (unmade s List.mem_cons_self clue.symm)
    · rw [crossed]
      exact List.getElem?_set_ne (unmade t (List.mem_cons_of_mem _ (latest_mem found).1) clue)
    · rw [same]
  answered t member := struck.answered meets laid ready member

end

end Struck

/-! ### Which strokes go through -/

theorem Marked.compatible_iff {cell : Cell} (marked : Marked o trail (s.place o) cell) {held held' : Char}
    (answer : cell.answer = [held]) (solution : cell.solution = [held']) :
    (∀ t ∈ trail, t.Compatible o s) ↔
      Agree held (s.written o .answer) ∧ Agree held' (s.written o .solution) ∧
        LabelFits o s.clue s.letter cell.label := by
  obtain ⟨_,shown,holds⟩ := marked.row .answer
  obtain ⟨_,shown',holds'⟩ := marked.row .solution
  cases (answer.symm.trans shown)
  cases (solution.symm.trans shown')
  constructor
  · intro all
    refine ⟨?_,?_,?_⟩
    · exact (agree_iff_of_holds holds).mpr fun t member on => (all t member).letters on .answer
    · exact (agree_iff_of_holds holds').mpr fun t member on => (all t member).letters on .solution
    · intro start
      exact (label_agrees_iff marked.label).mpr fun t member on first => (all t member).labels on first start
  · rintro ⟨agree,agree',fits⟩ t member
    refine ⟨?_,?_⟩
    · intro on r
      cases r with
      | answer => exact (agree_iff_of_holds holds).mp agree t member on
      | solution => exact (agree_iff_of_holds holds').mp agree' t member on
    · intro on first start
      exact (label_agrees_iff marked.label).mp (fits start) t member on first

namespace Laid

theorem layLetter_gives (laid : Laid g o trail p) (ready : Ready g o trail s)
    (compatible : ∀ t ∈ trail, t.Compatible o s) :
    ∃ q, (layLetter s.direction s.clue s.letter).Gives p () q ∧ q.board = p.board ∧ Laid g o (s :: trail) q := by
  have marked := laid.marked _ ready.inside
  obtain ⟨held,answer,_⟩ := marked.row .answer
  obtain ⟨held',solution,_⟩ := marked.row .solution
  obtain ⟨agree,agree',fits⟩ := (marked.compatible_iff answer solution).mp compatible
  have meets : Meets o s (p.cell (g.cellOn (s.place o))) held held' := ⟨answer,solution,agree,agree',fits⟩
  obtain ⟨q,gives,struck⟩ := laid.layLetter_struck ready meets
  exact ⟨q,gives,struck.board,struck.laid_cons meets laid ready⟩

end Laid

end

end Crossword
