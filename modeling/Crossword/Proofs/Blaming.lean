import Crossword.Proofs.Covering
import Crossword.Proofs.Touching

/-!
What the report of two answers that differ can be relied on for. The clue that it gives as the
previous one is the one that the cell names, first in the direction of the clue that is refused.
This need not be the clue that the letter came from, but it has the letter all the same: a clue
that a cell names has in its answer what the cell shows (`Laid.previous_of_filled`). Since a
letter differs only from one that some clue has brought there, there always is such a clue, and
the report never lacks its name (`layAll_reports_answers`).
-/
namespace Crossword
open Edit Placement

/-- The report is about a letter of one clue and an existing one of another, which fall on one
    cell. The puzzle has all this as it is reported: the place of the cell and what it shows, the
    two answers, and in them the letters that differ. -/
structure Reported (q : Puzzle) (s t : Stroke) (letter existing : Char) (report : LetterConflict) : Prop where
  place : (q.clue s.clue).spot s.direction s.letter = ((report.x : Int),(report.y : Int))
  shared : (q.clue t.clue).spot t.direction t.letter = ((report.x : Int),(report.y : Int))
  shown : ∃ c, q.board.cellAt? report.x report.y = some c ∧ (q.cell c).answer = [existing]
  own : (q.clue s.clue).answer[s.letter]? = some letter
  current : (q.clue t.clue).answer[t.letter]? = some existing
  letters : letter ≠ blank ∧ existing ≠ blank ∧ letter ≠ existing
  said : report = {
    row := .answer
    clue := (q.clue s.clue).id
    x := report.x
    y := report.y
    letters := (q.clue s.clue).answer
    position := s.letter
    letter := letter
    previous := some ((q.clue t.clue).id,(q.clue t.clue).answer)
    existing := [existing] }

section
variable {g : Ground} {o p q : Puzzle} {trail : List Stroke} {s t : Stroke} {l : Laying} {done : List Laying}
  {k : Nat} {report : LetterConflict}

/-! ### The clue that is named -/

/-- Another stroke on the place of one that is ready is of another clue. -/
theorem Ready.clue_ne (ready : Ready g o trail s) (member : t ∈ trail) (on : t.place o = s.place o) :
    t.clue ≠ s.clue := by
  intro same
  obtain ⟨direction,letter⟩ := ready.fresh t member same
  exact Stroke.place_ne direction same letter on

/-- If a cell shows a letter, a clue that is laid over it finds a previous one there, which has
    this letter in its answer. -/
theorem Laid.previous_of_filled (laid : Laid g o trail p) (ready : Ready g o trail s) {held : Char}
    (shown : (p.cell (g.cellOn (s.place o))).answer = [held]) (filled : held ≠ blank) :
    ∃ t ∈ trail, t.place o = s.place o ∧ s.previous g o p = some t.clue ∧
      (p.clue t.clue).answer[t.letter]? = some held := by
  have marked := laid.marked _ ready.inside
  have named (d : Direction) :
      ((p.cell (g.cellOn (s.place o))).slot d).clue = (latest o trail d (s.place o)).map (·.clue) := by
    rw [marked.slot]
    rfl
  obtain ⟨_,shown',holds⟩ := marked.row .answer
  cases shown.symm.trans shown'
  obtain ⟨source,member,on,_⟩ := holds.source.resolve_left filled
  cases along : latest o trail s.direction (s.place o) with
  | some t =>
    obtain ⟨older,_,here⟩ := latest_mem along
    exact ⟨t,older,here,by simp [Stroke.previous,Cell.occupant,named,along],laid.latest_current along shown⟩
  | none =>
    -- No clue of the direction lies here, so the letter has come from one that crosses.
    have direction : source.direction = s.direction.crossing := by
      refine eq_crossing_of_ne fun same => ?_
      have found := latest_isSome.mpr ⟨source,member,same,on⟩
      simp [along] at found
    obtain ⟨t,across⟩ := Option.isSome_iff_exists.mp (latest_isSome.mpr ⟨source,member,direction,on⟩)
    obtain ⟨older,_,here⟩ := latest_mem across
    exact ⟨t,older,here,by simp [Stroke.previous,Cell.occupant,named,along,across],laid.latest_current across shown⟩

/-! ### What is reported -/

/-- A stroke that stops at an answer letter is reported as the puzzle then is. -/
theorem Laid.reported (laid : Laid g o trail p) (ready : Ready g o trail s)
    (halted : Halted g o trail s p q (.letter report)) (answer : report.row = .answer) :
    ∃ t ∈ trail, t.clue ≠ s.clue ∧ ∃ letter existing, Reported q s t letter existing report := by
  cases halted with
  | solution => cases answer
  | @answer existing shown differ tied =>
    simp only [Agree,not_or] at differ
    obtain ⟨filled,some_letter,other⟩ := differ
    obtain ⟨t,member,on,previous,current⟩ := laid.previous_of_filled ready shown filled
    set c := g.cellOn (s.place o)
    -- The stroke has only been tied to its cell, so that letters and places are as before.
    have cell : q.cell c = _ := tied ▸ cell_attached_eq (laid.cellOn_lt ready.inside) c
    have clue (i : ClueId) : q.clue i = _ := tied ▸ clue_attached_eq (laid.known ▸ ready.known) i
    have spot (u : Stroke) : (q.clue u.clue).spot u.direction u.letter = u.place o := by
      rw [clue]
      exact laid.spot_eq u.clue u.direction u.letter
    have x : (s.place o).1 = ((q.cell c).x : Int) := by
      rw [cell]
      exact (laid.marked _ ready.inside).x.symm
    have y : (s.place o).2 = ((q.cell c).y : Int) := by
      rw [cell]
      exact (laid.marked _ ready.inside).y.symm
    have shown' : (q.cell c).answer = [existing] := by
      rw [cell]
      exact shown
    have found : q.board.cellAt? (s.place o).1 (s.place o).2 = some c := by
      rw [tied]
      exact Ground.cellAt?_inside laid.columns ready.inside
    rw [x,y] at found
    refine ⟨t,member,ready.clue_ne member on,s.written o .answer,existing,?_⟩
    exact {
      place := (spot s).trans (Prod.ext x y)
      shared := (spot t).trans (on.trans (Prod.ext x y))
      shown := ⟨c,found,shown'⟩
      own := by
        rw [clue]
        exact laid.letter_eq ready .answer
      current := by
        rw [clue]
        exact current
      letters := ⟨some_letter,filled,Ne.symm other⟩
      said := by
        simp only [conflict,previous,Option.map_some,Cell.row,shown',Clue.row] }

/-- A clue that stops at an answer letter is reported with one laid before. -/
theorem Placed.reported (placed : Placed g o done p) (fresh : l.New o done)
    (checked : checkBounds p.board.bounds (p.clue l.clue) l.direction = .ok ())
    (short : (k : Int) < (p.clue l.clue).length)
    (stops : l.StopsAt p k (.coherence (.letter report)) q) (answer : report.row = .answer) :
    ∃ m ∈ done, ∃ n : Nat, (n : Int) < (p.clue m.clue).length ∧ m.clue ≠ l.clue ∧ ∃ letter existing,
      Reported q ⟨l.direction,l.clue,k⟩ ⟨m.direction,m.clue,n⟩ letter existing report := by
  obtain ⟨r,gives,stops⟩ := stops
  obtain ⟨laid,ready⟩ := placed.arrives fresh checked short gives
  obtain ⟨_,same,halted⟩ := laid.halted_of_stops ready stops
  cases same
  obtain ⟨t,member,apart,letter,existing,reported⟩ := laid.reported ready halted answer
  -- It is no letter of the clue itself, so one of a clue that was laid before.
  rcases List.mem_append.mp member with own | older
  · simp only [strokesFrom,List.mem_reverse,List.mem_map] at own
    obtain ⟨_,-,rfl⟩ := own
    exact absurd rfl apart
  · obtain ⟨m,earlier,stroke⟩ := mem_strokesOf.mp (List.mem_reverse.mp older)
    obtain ⟨direction,clue,inRange⟩ := mem_strokes.mp stroke
    rw [← placed.laid.length_eq] at inRange
    obtain ⟨_,_,n⟩ := t
    subst direction clue
    exact ⟨m,earlier,n,inRange,apart,letter,existing,reported⟩

theorem Reported.message {letter existing : Char} (reported : Reported q s t letter existing report) :
    report.message = s!"Clue {(q.clue s.clue).id.shown} answer at ({number (report.x + 1)},{number (report.y + 1)}) "
      ++ s!"[{(q.clue s.clue).answer.shown}[{number (s.letter + 1)}],{Text.shown [letter]}] is not coherent "
      ++ s!"with previous clue ({(q.clue t.clue).id.shown}) answer "
      ++ s!"[{(q.clue t.clue).answer.shown},{Text.shown [existing]}]." := by
  have row : Row.answer.name = "answer" := rfl
  rw [reported.said]
  unfold LetterConflict.message
  apply String.toList_inj.mp
  simp [row,nameOrMark,toString]

/-- If compiled clues, laid in any order on a board just opened, stop because two answers differ,
    the report gives one of the clues laid before as the previous one. This clue covers the cell
    that is reported, and has there in its answer, as it now is, the letter that is reported as
    existing. The clue that is refused has the other letter at the position reported. -/
theorem layAll_reports_answers (p : Puzzle) (width height : Nat) (steps : List Laying) :
    let start := p.openBoard ⟨width,height⟩
    ∀ report r, FreshRun start steps → (layAll steps).Stops start (.coherence (.letter report)) r →
      report.row = .answer →
      ∃ before l after m, ∃ k n : Nat, ∃ letter existing, steps = before ++ l :: after ∧ m ∈ before ∧
        (∃ q, (layAll before).Gives start () q ∧
          (place l.direction l.clue).Stops q (.coherence (.letter report)) r) ∧
        (k : Int) < (r.clue l.clue).length ∧ (n : Int) < (r.clue m.clue).length ∧
        Reported r ⟨l.direction,l.clue,k⟩ ⟨m.direction,m.clue,n⟩ letter existing report ∧
        (r.clue m.clue).cells[n]? = r.board.cellAt? report.x report.y ∧
        report.message =
          s!"Clue {(r.clue l.clue).id.shown} answer at ({number (report.x + 1)},{number (report.y + 1)}) "
          ++ s!"[{(r.clue l.clue).answer.shown}[{number (k + 1)}],{Text.shown [letter]}] is not coherent "
          ++ s!"with previous clue ({(r.clue m.clue).id.shown}) answer "
          ++ s!"[{(r.clue m.clue).answer.shown},{Text.shown [existing]}]." := by
  intro start report r run stops answer
  let g : Ground := ⟨p.cells.size,width,height⟩
  obtain ⟨before,l,after,q,rfl,gives,stops⟩ := stops_forM_iff.mp stops
  have placed : Placed g start before q := run.front.placed (Ground.opened_openBoard p width height) gives
  have fresh : l.New start before := run.isNew
  rcases place_stops_at_iff.mp stops with ⟨_,_,other,_⟩ | ⟨checked,k,short,stopsAt⟩
  · cases other
  · obtain ⟨m,earlier,n,inRange,apart,letter,existing,reported⟩ := placed.reported fresh checked short stopsAt answer
    obtain ⟨-,touched⟩ := placed.touched_of_stopsAt fresh checked short stopsAt
    have length (i : ClueId) : (r.clue i).length = (q.clue i).length := by
      rw [touched.clue]
      rfl
    refine ⟨before,l,after,m,k,n,letter,existing,rfl,earlier,⟨q,gives,stops⟩,?_,?_,reported,?_,reported.message⟩
    · rw [length]
      exact short
    · rw [length]
      exact inRange
    · have cells := placed.getElem?_cells run.front earlier inRange
      obtain ⟨-,found⟩ := (placed.spans run.front earlier).cell n _ cells
      have place : (q.clue m.clue).spot m.direction n = ((report.x : Int),(report.y : Int)) := by
        rw [← reported.shared,touched.clue]
        cases m.direction <;> rfl
      have board : r.board.cellAt? report.x report.y = q.board.cellAt? report.x report.y := by
        rw [touched.board]
        cases l.direction <;> rfl
      rw [place] at found
      rw [board,found,touched.cells m.clue apart]
      exact cells.trans (by rw [place])

theorem stops_answer_clashingClues : ∃ report r,
    (layAll (clashingSteps ++ [⟨.across,2⟩])).Stops (clashingClues.openBoard ⟨3,2⟩) (.coherence (.letter report)) r ∧
      report.row = .answer := by
  have differ : (match ((layAll (clashingSteps ++ [⟨.across,2⟩])).run (clashingClues.openBoard ⟨3,2⟩)).result with
    | .error (.coherence (.letter report)) => report.row == .answer
    | _ => false) = true := by decide +kernel
  split at differ
  · next report result => exact ⟨report,_,⟨result,rfl⟩,eq_of_beq differ⟩
  · cases differ

/-- The column has brought its letter into the row, which is the clue that is named. -/
theorem reported_clashingClues : ∃ report r, FreshRun (clashingClues.openBoard ⟨3,2⟩) (clashingSteps ++ [⟨.across,2⟩]) ∧
    (layAll (clashingSteps ++ [⟨.across,2⟩])).Stops (clashingClues.openBoard ⟨3,2⟩) (.coherence (.letter report)) r ∧
      report.row = .answer ∧ ∃ s t letter existing, Reported r s t letter existing report := by
  obtain ⟨report,r,stops,answer⟩ := stops_answer_clashingClues
  obtain ⟨_,_,_,_,_,_,_,_,-,-,-,-,-,reported,-,-⟩ :=
    layAll_reports_answers clashingClues 3 2 _ report r freshRun_clashingClues stops answer
  exact ⟨report,r,freshRun_clashingClues,stops,answer,_,_,_,_,reported⟩

end

end Crossword
