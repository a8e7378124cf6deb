import Crossword.Proofs.Filling
import Crossword.Proofs.Soundness

/-!
What a trail leaves is settled by the trail. Letters and label of a cell are the only ones
that the strokes on its place agree on (`Marked.unique`). Of the answers of clues this holds
where no two clues of one direction share a cell: every stroke is then still the newest on its
place, and the answer of a clue is what its cells spell (`Placed.answer_eq_spelled`).
-/
namespace Crossword
open Edit Placement

/-- No two clues of one direction share a cell. -/
def Puzzle.Apart (p : Puzzle) : Prop :=
  ∀ d, ∀ i ∈ p.board.laid d, ∀ j ∈ p.board.laid d, i ≠ j → List.Disjoint (p.clue i).cells (p.clue j).cells

/-- The answer that the cells of a clue spell. -/
def Puzzle.spelled (p : Puzzle) (i : ClueId) : Text := (p.clue i).cells.flatMap fun c => (p.cell c).answer

/-- Every stroke of the trail is the newest of its direction on its place. -/
def Current (o : Puzzle) (trail : List Stroke) : Prop :=
  ∀ s ∈ trail, latest o trail s.direction (s.place o) = some s

section
variable {g : Ground} {o p : Puzzle} {trail : List Stroke} {s : Stroke} {place : Place} {steps : List Laying}
  {l : Laying}

theorem apart_of_length_le (single : ∀ d, (p.board.laid d).length ≤ 1) : p.Apart := by
  intro d i one j other differ
  obtain ⟨n,short,rfl⟩ := List.getElem_of_mem one
  obtain ⟨m,short',rfl⟩ := List.getElem_of_mem other
  have same : n = m := by
    have few := single d
    omega
  subst same
  exact absurd rfl differ

/-! ### Cells -/

theorem Holds.unique {r : Row} {a b : Char} (one : Holds o trail r place a) (other : Holds o trail r place b) : a = b := by
  rcases one.source with none | ⟨s,member,on,same⟩
  · rcases other.source with none' | ⟨s,member,on,same⟩
    · rw [none,none']
    · -- Where the one letter is blank, every stroke is, and so is the one the other comes from.
      rcases one.all s member on with blank | equal
      · rw [none,← same,blank]
      · rw [← same,equal]
  · rcases other.all s member on with blank | equal
    · rcases other.source with none' | ⟨t,member',on',same'⟩
      · rw [← same,blank,none']
      · rcases one.all t member' on' with blank' | equal'
        · rw [← same,blank,← same',blank']
        · rw [← same',equal']
    · rw [← same,equal]

theorem Labels.unique {a b : Option Text} (one : Labels o trail place a) (other : Labels o trail place b) : a = b := by
  rcases one.source with none | ⟨s,member,on,first,same⟩
  · rcases other.source with none' | ⟨s,member,on,first,same⟩
    · rw [none,none']
    · rw [same,one.all s member on first]
  · rw [same,other.all s member on first]

theorem Marked.unique {a b : Cell} (one : Marked o trail place a) (other : Marked o trail place b) : a = b := by
  have row : ∀ r, a.row r = b.row r := by
    intro r
    obtain ⟨letter,shown,holds⟩ := one.row r
    obtain ⟨letter',shown',holds'⟩ := other.row r
    rw [shown,shown',holds.unique holds']
  have light : a.light = b.light := Bool.eq_iff_iff.mpr (one.light.trans other.light.symm)
  have across : a.across = b.across := (one.slot .across).trans (other.slot .across).symm
  have down : a.down = b.down := (one.slot .down).trans (other.slot .down).symm
  have answer : a.answer = b.answer := row .answer
  have solution : a.solution = b.solution := row .solution
  have label := one.label.unique other.label
  have x := Int.ofNat_inj.mp (one.x.trans other.x.symm)
  have y := Int.ofNat_inj.mp (one.y.trans other.y.symm)
  cases a
  cases b
  simp_all

/-! ### Runs -/

/-- Strokes that have left a mark everywhere agree with each other. -/
theorem consistent_of_marked (fit : ∀ l ∈ steps, (o.clue l.clue).Fit)
    (inside : ∀ s ∈ strokesOf o steps, g.Inside (s.place o))
    (marked : ∀ place, g.Inside place → ∃ cell, Marked o (strokesOf o steps).reverse place cell) :
    Consistent g o steps := by
  have agree : ∀ r, ∀ s ∈ strokesOf o steps, ∀ t ∈ strokesOf o steps, s.place o = t.place o →
      Agree (s.written o r) (t.written o r) := by
    intro r s one t other on
    obtain ⟨cell,mark⟩ := marked _ (inside s one)
    obtain ⟨letter,_,holds⟩ := mark.row r
    rcases holds.all s (List.mem_reverse.mpr one) rfl with blank | same
    · exact .inl blank
    · rcases holds.all t (List.mem_reverse.mpr other) on.symm with blank | same'
      · exact .inr (.inl blank)
      · exact .inr (.inr (same.trans same'.symm))
  refine ⟨inside,agree .answer,agree .solution,fun l member m member' on => ?_⟩
  have one := mem_strokesOf.mpr ⟨l,member,start_mem (fit l member)⟩
  have other := mem_strokesOf.mpr ⟨m,member',start_mem (fit m member')⟩
  obtain ⟨cell,mark⟩ := marked _ (inside _ one)
  have label := mark.label.all _ (List.mem_reverse.mpr one) rfl rfl
  rw [mark.label.all _ (List.mem_reverse.mpr other) on.symm rfl] at label
  exact (Option.some.inj label).symm

theorem layAll_ok_iff (opened : g.Opened o) (run : FreshRun o steps) :
    (∃ q, (layAll steps).Gives o () q) ↔ Consistent g o steps := by
  rw [← faultless_iff_consistent fun l member => Clue.fit_of_fresh (run.fresh l member)]
  constructor
  · rintro ⟨q,gives⟩
    exact (placed_of_layAll (placed_nil opened) run.allNew gives).1
  · intro faultless
    rcases layAll_outcome (placed_nil opened) run.allNew with ⟨_,q,gives,_⟩ | ⟨before,l,after,_,_,_,split,faulty,_⟩
    · exact ⟨q,gives⟩
    · exact absurd faulty (faultless before l after split)

theorem assemble_ok_iff {across down : List ClueId} (opened : g.Opened o) (run : FreshRun o (acrossThenDown across down)) :
    (∃ q, (assemble across down).Gives o () q) ↔ Consistent g o (acrossThenDown across down) := by
  rw [← layAll_ok_iff opened run]
  simp only [assemble_gives_iff]
  exact ⟨fun ⟨_,r,gives,_⟩ => ⟨r,gives⟩,fun ⟨r,gives⟩ => ⟨_,r,gives,rfl⟩⟩

/-- Assembled clues have been laid, and then the light cells have been noted. -/
theorem placed_of_assemble {across down : List ClueId} {q : Puzzle} (opened : g.Opened o)
    (run : FreshRun o (acrossThenDown across down)) (gives : (assemble across down).Gives o () q) :
    ∃ p, Placed g o (acrossThenDown across down) p ∧ noteLight p = q := by
  obtain ⟨p,laid,noted⟩ := assemble_gives_iff.mp gives
  exact ⟨p,run.placed opened laid,noted⟩

/-! ### Answers -/

/-- A stroke that is still the newest has the letter of its cell. -/
theorem Laid.answer_eq (laid : Laid g o trail p) (current : Current o trail) (member : s ∈ trail) :
    (p.cell (g.cellOn (s.place o))).answer = [s.written p .answer] :=
  (laid.answered s member).current (current s member)

namespace Placed
variable (placed : Placed g o steps p) (run : FreshRun o steps)
include placed run

theorem cells_strokes (member : l ∈ steps) : (p.clue l.clue).cells = (l.strokes o).map fun s => g.cellOn (s.place o) := by
  rw [placed.laid.clue,(Clue.fit_of_fresh (run.fresh l member)).unplaced,← cellsOf_strokesOf run.distinct member]
  rfl

theorem current (apart : p.Apart) : Current o (strokesOf o steps).reverse := by
  intro s member
  obtain ⟨t,newest⟩ := Option.isSome_iff_exists.mp (latest_isSome (o := o).mpr ⟨s,member,rfl,rfl⟩)
  obtain ⟨member',direction,on⟩ := latest_mem newest
  obtain ⟨l,laid,stroke⟩ := mem_strokesOf.mp (List.mem_reverse.mp member)
  obtain ⟨m,laid',stroke'⟩ := mem_strokesOf.mp (List.mem_reverse.mp member')
  have along : m.direction = l.direction :=
    (mem_strokes.mp stroke').1.symm.trans (direction.trans (mem_strokes.mp stroke).1)
  -- The newest stroke falls on the same cell, so it can only be one of the same clue.
  have same : l.clue = m.clue := by
    by_contra differ
    have inLaid : ∀ n ∈ steps, n.direction = l.direction → n.clue ∈ p.board.laid l.direction := by
      intro n step direction
      rw [placed.clues]
      exact List.mem_map_of_mem (List.mem_filter.mpr ⟨step,decide_eq_true direction⟩)
    have disjoint := apart l.direction l.clue (inLaid l laid rfl) m.clue (inLaid m laid' along) differ
    refine disjoint (a := g.cellOn (s.place o)) ?_ ?_
    · rw [placed.cells_strokes run laid]
      exact List.mem_map_of_mem stroke
    · rw [placed.cells_strokes run laid',← on]
      exact List.mem_map_of_mem stroke'
  have clue : t.clue = s.clue := by rw [(mem_strokes.mp stroke').2.1,(mem_strokes.mp stroke).2.1,same]
  rw [newest,placed.laid.drawn.eq_of_place member' member clue on]

/-- Where every stroke is still the newest, a clue has the answer that its cells spell. -/
theorem answer_eq_spelled (current : Current o (strokesOf o steps).reverse) (member : l ∈ steps) :
    (p.clue l.clue).answer = p.spelled l.clue := by
  have fit := Clue.fit_of_fresh (run.fresh l member)
  have length : (p.clue l.clue).answer.length = (o.clue l.clue).length.toNat := by
    have compiled := fit.row_length .answer
    rw [placed.laid.length]
    simp only [Clue.row] at compiled
    omega
  have spelled : p.spelled l.clue = (l.strokes o).map fun s => s.written p .answer := by
    rw [Puzzle.spelled,placed.cells_strokes run member,List.flatMap_map,List.map_eq_flatMap]
    refine List.flatMap_congr fun s stroke => ?_
    exact placed.laid.answer_eq current (List.mem_reverse.mpr (mem_strokesOf.mpr ⟨l,member,stroke⟩))
  rw [spelled]
  refine List.ext_getElem (by simp [Laying.strokes,length]) fun k short _ => ?_
  simp [Laying.strokes,Stroke.written,Clue.row,short]

end Placed

end

end Crossword
