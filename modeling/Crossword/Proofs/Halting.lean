import Crossword.Proofs.Trail

/-!
Where a stroke stops. A stroke that clashes with one of its trail fails at the first of three
checks: its answer letter against the one in the cell, its solution letter against the other,
and the label of its clue against the one printed there. What it has done before that check
stays done, and the fault is made from the puzzle as it is then (`Halted`). No stroke that is
ready stops for another reason (`halted_of_stops`).
-/
namespace Crossword
open Edit Placement

section
variable {g : Ground} {o p q : Puzzle} {trail : List Stroke} {s : Stroke} {fault : Fault}

/-- The clue that lies over the cell of a stroke before it is made. -/
def Stroke.previous (g : Ground) (o p : Puzzle) (s : Stroke) : Option ClueId :=
  (p.cell (g.cellOn (s.place o))).occupant s.direction

/-- The stroke stops with a fault and leaves another puzzle. -/
inductive Halted (g : Ground) (o : Puzzle) (trail : List Stroke) (s : Stroke) (p q : Puzzle) : CoherenceFault → Prop
  /-- The cell holds another answer letter; the stroke has only been tied to it. -/
  | answer {held : Char} : (p.cell (g.cellOn (s.place o))).answer = [held] → ¬ Agree held (s.written o .answer) →
      q = attached s.direction s.clue s.letter (g.cellOn (s.place o)) (s.mark o) p →
      Halted g o trail s p q (.letter (conflict q .answer s.clue s.letter (s.written o .answer)
        (g.cellOn (s.place o)) (s.previous g o p)))
  /-- The cell holds another solution letter; the answer letter has been laid. -/
  | solution {held held' : Char} : (p.cell (g.cellOn (s.place o))).answer = [held] → Agree held (s.written o .answer) →
      (p.cell (g.cellOn (s.place o))).solution = [held'] → ¬ Agree held' (s.written o .solution) →
      Struck g o trail s (overlay held (s.written o .answer))
        (lit o s (overlay held (s.written o .answer)) (p.cell (g.cellOn (s.place o)))) p q →
      Halted g o trail s p q (.letter (conflict q .solution s.clue s.letter (s.written o .solution)
        (g.cellOn (s.place o)) (s.previous g o p)))
  /-- Another label is printed where the clue starts; both letters have been laid. -/
  | label {held held' : Char} {other : Text} : (p.cell (g.cellOn (s.place o))).answer = [held] →
      Agree held (s.written o .answer) → (p.cell (g.cellOn (s.place o))).solution = [held'] →
      Agree held' (s.written o .solution) → s.letter = 0 → (p.cell (g.cellOn (s.place o))).label = some other →
      other ≠ (o.clue s.clue).label →
      Struck g o trail s (overlay held (s.written o .answer))
        { lit o s (overlay held (s.written o .answer)) (p.cell (g.cellOn (s.place o))) with
          solution := [overlay held' (s.written o .solution)] } p q →
      Halted g o trail s p q (.label (q.clue s.clue).id ((s.previous g o p).map fun j => (q.clue j).id))

/-- A label that does not fit is another one, where the clue starts. -/
theorem not_labelFits {i : ClueId} {k : Nat} {label : Option Text} (misfit : ¬ LabelFits o i k label) :
    k = 0 ∧ ∃ other, label = some other ∧ other ≠ (o.clue i).label := by
  simpa [LabelFits] using misfit

namespace Laid

/-- A stroke that stops does so at its answer letter or at what follows. -/
theorem layLetter_stops_of (laid : Laid g o trail p) (ready : Ready g o trail s)
    (stopped : let c := g.cellOn (s.place o)
      let tied := attached s.direction s.clue s.letter c (s.mark o) p
      (layAnswer s.direction s.clue s.letter c (s.previous g o p)).Stops tied fault q ∨
        ∃ r, (layAnswer s.direction s.clue s.letter c (s.previous g o p)).Gives tied () r ∧
          (layRest s.clue s.letter c (s.previous g o p)).Stops r fault q) :
    (layLetter s.direction s.clue s.letter).Stops p fault q := by
  have tied : (attach s.direction s.clue s.letter (g.cellOn (s.place o))).Gives p () _ :=
    attach_gives (laid.terminator_eq ready)
  rw [layLetter_eq]
  simp only [stops_bind,gives_judge,gives_read]
  refine .inr ⟨_,p,⟨laid.cellFor_eq ready,rfl⟩,.inr ⟨_,p,⟨rfl,rfl⟩,.inr ⟨(),_,tied,?_⟩⟩⟩
  rcases stopped with now | ⟨r,gives,stops⟩
  · exact .inl now
  · exact .inr ⟨(),r,gives,stops⟩

/-- If the answer letters differ, the stroke stops at them. -/
theorem halts_answer (laid : Laid g o trail p) (ready : Ready g o trail s) {held : Char}
    (answer : (p.cell (g.cellOn (s.place o))).answer = [held]) (differ : ¬ Agree held (s.written o .answer)) :
    ∃ cause q, (layLetter s.direction s.clue s.letter).Stops p (.coherence cause) q ∧ Halted g o trail s p q cause := by
  set c := g.cellOn (s.place o) with cIs
  have inside : c < p.cells.size := laid.cellOn_lt ready.inside
  have known : s.clue < p.clues.size := laid.known ▸ ready.known
  have own : ((attached s.direction s.clue s.letter c (s.mark o) p).clue s.clue).answer[s.letter]? =
      some (s.written o .answer) := by
    rw [clue_attached_eq known]
    exact laid.letter_eq ready .answer
  have shown : ((attached s.direction s.clue s.letter c (s.mark o) p).cell c).answer = [held] := by
    rw [cell_attached_eq inside]
    exact answer
  have stops := layAnswer_stops (s.previous g o p) (d := s.direction) own shown differ
  exact ⟨_,_,laid.layLetter_stops_of ready (.inl stops),.answer answer differ rfl⟩

/-- If the answer letters agree, the stroke stops at the solution or at the label. -/
theorem halts_rest (laid : Laid g o trail p) (ready : Ready g o trail s) {held held' : Char}
    (answer : (p.cell (g.cellOn (s.place o))).answer = [held]) (agree : Agree held (s.written o .answer))
    (solution : (p.cell (g.cellOn (s.place o))).solution = [held'])
    (misfit : ¬ (Agree held' (s.written o .solution) ∧
      LabelFits o s.clue s.letter (p.cell (g.cellOn (s.place o))).label)) :
    ∃ cause q, (layLetter s.direction s.clue s.letter).Stops p (.coherence cause) q ∧ Halted g o trail s p q cause := by
  obtain ⟨r,gives,struck⟩ := laid.layAnswer_struck ready answer agree (s.previous g o p)
  have inside : g.cellOn (s.place o) < r.cells.size := struck.room ▸ laid.cellOn_lt ready.inside
  have own : (r.clue s.clue).solution[s.letter]? = some (s.written o .solution) := by
    rw [struck.own]
    exact laid.letter_eq ready .solution
  have shown : (r.cell (g.cellOn (s.place o))).solution = [held'] := by
    rw [struck.here]
    simpa [lit] using solution
  by_cases agree' : Agree held' (s.written o .solution)
  · obtain ⟨first,other,found,differ⟩ := not_labelFits fun fits => misfit ⟨agree',fits⟩
    have label : (r.cell (g.cellOn (s.place o))).label = some other := by
      rw [struck.here]
      simpa [lit] using found
    have differ' : other ≠ (r.clue s.clue).label := by
      rw [struck.own,laid.clue]
      exact differ
    rw [first] at own
    have stops := layRest_stops_label (s.previous g o p) inside own shown agree' label differ'
    rw [← first] at stops
    refine ⟨_,_,laid.layLetter_stops_of ready (.inr ⟨r,gives,stops⟩),
      .label answer agree solution agree' first found differ ?_⟩
    refine ⟨struck.board,?_,struck.known,?_,?_,struck.own,struck.crossed,struck.others⟩
    · rw [Puzzle.size_cells_updateCell]
      exact struck.room
    · rw [Puzzle.cell_updateCell _ _ inside,if_pos rfl,struck.here]
      rfl
    · intro x off
      rw [Puzzle.cell_updateCell _ _ inside,if_neg off.symm]
      exact struck.elsewhere x off
  · have stops := layRest_stops_letter (s.previous g o p) own shown agree'
    exact ⟨_,_,laid.layLetter_stops_of ready (.inr ⟨r,gives,stops⟩),.solution answer agree solution agree' struck⟩

/-- A stroke that clashes with one of the trail stops. -/
theorem layLetter_halts (laid : Laid g o trail p) (ready : Ready g o trail s)
    (clash : ¬ ∀ t ∈ trail, t.Compatible o s) :
    ∃ cause q, (layLetter s.direction s.clue s.letter).Stops p (.coherence cause) q ∧ Halted g o trail s p q cause := by
  have marked := laid.marked _ ready.inside
  obtain ⟨held,answer,_⟩ := marked.row .answer
  obtain ⟨held',solution,_⟩ := marked.row .solution
  rw [marked.compatible_iff answer solution] at clash
  by_cases agree : Agree held (s.written o .answer)
  · exact laid.halts_rest ready answer agree solution fun fits => clash ⟨agree,fits⟩
  · exact laid.halts_answer ready answer agree

theorem halted_of_stops (laid : Laid g o trail p) (ready : Ready g o trail s)
    (stops : (layLetter s.direction s.clue s.letter).Stops p fault q) :
    ∃ cause, fault = .coherence cause ∧ Halted g o trail s p q cause := by
  by_cases compatible : ∀ t ∈ trail, t.Compatible o s
  · obtain ⟨_,gives,_⟩ := laid.layLetter_gives ready compatible
    exact absurd stops (not_stops_of_gives gives)
  · obtain ⟨cause,_,stops',halted⟩ := laid.layLetter_halts ready compatible
    obtain ⟨rfl,rfl⟩ := stops_unique stops stops'
    exact ⟨cause,rfl,halted⟩

end Laid

end

end Crossword
