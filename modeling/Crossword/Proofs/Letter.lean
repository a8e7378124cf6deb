import Crossword.Proofs.Outcome
import Crossword.Proofs.Stroke
import Mathlib.Tactic.ByContra
import Mathlib.Tactic.Set

/-!
Laying one letter. Each operation on the way gets one lemma that says what it leaves
or where it stops: the answer goes through exactly if it agrees with the letter that the
cell holds, and then reaches the clue and the one that crosses there (`layAnswer_gives`,
`Spread`); solution and label follow (`layRest_gives`, `layRest_stops_letter`,
`layRest_stops_label`).
-/
namespace Crossword

theorem set_getElem? {α : Type} {items : List α} {k : Nat} {a : α} (found : items[k]? = some a) :
    items.set k a = items := by
  obtain ⟨inside,rfl⟩ := List.getElem?_eq_some_iff.mp found
  exact List.set_getElem_self inside

theorem setLetter_inside {row : Text} {k : Nat} {letter : Char} (inside : k < row.length) :
    setLetter row k [letter] = .ok (row.set k letter) := by
  simp only [setLetter,Int.natCast_nonneg,Int.toNat_natCast,inside,and_self,if_true]
  rw [List.set_eq_take_append_cons_drop,if_pos inside]
  simp

theorem isUnfilled_letter (letter : Char) : isUnfilled (some [letter]) = decide (letter = blank) := by
  by_cases same : letter = blank <;> simp [isUnfilled,same]

namespace Cell
variable {c : Cell} {d : Direction} {f : Slot → Slot}

@[simp] theorem x_updateSlot : (c.updateSlot d f).x = c.x := by cases d <;> rfl
@[simp] theorem y_updateSlot : (c.updateSlot d f).y = c.y := by cases d <;> rfl
@[simp] theorem answer_updateSlot : (c.updateSlot d f).answer = c.answer := by cases d <;> rfl
@[simp] theorem solution_updateSlot : (c.updateSlot d f).solution = c.solution := by cases d <;> rfl
@[simp] theorem label_updateSlot : (c.updateSlot d f).label = c.label := by cases d <;> rfl

theorem slot_updateSlot (e : Direction) :
    (c.updateSlot d f).slot e = if d = e then f (c.slot e) else c.slot e := by
  cases d <;> cases e <;> rfl

end Cell

namespace Puzzle

theorem cell_congr {p q : Puzzle} (same : q.cells = p.cells) (c : CellId) : q.cell c = p.cell c := by
  rw [cell,cell,same]

theorem clue_congr {p q : Puzzle} (same : q.clues = p.clues) (i : ClueId) : q.clue i = p.clue i := by
  rw [clue,clue,same]

theorem updateCell_self {p : Puzzle} {c : CellId} {f : Cell → Cell} (same : f (p.cell c) = p.cell c) :
    p.updateCell c f = p := by
  obtain ⟨clues,cells,board⟩ := p
  simp only [updateCell,Puzzle.mk.injEq,true_and,and_true]
  refine Array.ext (by simp) ?_
  intro n inside inside'
  rw [Array.getElem_modify]
  split
  · next here =>
    subst here
    simpa [cell,Array.getD,inside'] using same
  · rfl

end Puzzle

namespace Placement
open Edit
variable {p q : Puzzle} {d : Direction} {i : ClueId} {k : Nat} {c : CellId}

/-! ### The operations on one letter -/

/-- The cell and the clue of a letter once they are tied to each other. -/
def attached (d : Direction) (i : ClueId) (k : Nat) (c : CellId) (mark : Option Text) (p : Puzzle) : Puzzle :=
  ((p.updateCell c fun cell => { cell with light := true }).updateCell c fun cell => cell.updateSlot d fun slot =>
    { clue := some i, letter := some k, terminator := mark <|> slot.terminator }).updateClue i
    fun clue => { clue with cells := clue.cells ++ [c] }

theorem attach_gives {mark : Option Text} (ends : terminator (p.clue i) k = .ok mark) :
    (attach d i k c).Gives p () (attached d i k c mark p) := by
  simp only [attach,gives_bind,gives_change,gives_judge]
  exact ⟨(),_,rfl,mark,_,⟨ends,rfl⟩,rfl⟩

section
variable {r : Row} {letter held : Char}

theorem writeLetter_gives (previous : Option ClueId) (known : ((p.clue i).row r)[k]? = some letter)
    (shown : (p.cell c).row r = [held]) (agree : Agree held letter) : (writeLetter r i k c previous).Gives p (decide (letter ≠ blank))
      (p.updateCell c fun cell => cell.setRow r [overlay held letter]) := by
  by_cases none : letter = blank
  · -- Nothing is written, and the row put back is the one that was there.
    have same : p.updateCell c (fun cell => cell.setRow r [overlay held letter]) = p := by
      apply Puzzle.updateCell_self
      rw [overlay,if_pos none,← shown]
      cases r <;> rfl
    rw [same]
    simp only [writeLetter,gives_bind,gives_judge,letterFor,known,none,if_true]
    exact ⟨_,p,⟨rfl,rfl⟩,by simp⟩
  · have fits : ¬ ((!isUnfilled ((p.cell c).row r) && (p.cell c).row r != [letter]) = true) := by
      rw [shown,isUnfilled_letter]
      rcases agree with free | blank | equal
      · simp [free]
      · exact absurd blank none
      · simp [equal]
    simp only [writeLetter,gives_bind,gives_judge,letterFor,known,none,fits,if_false]
    refine ⟨_,p,⟨rfl,rfl⟩,?_⟩
    simp only [gives_bind,gives_change,gives_pure,overlay,none,if_false]
    exact ⟨(),_,rfl,by simp [none],rfl⟩

theorem writeLetter_stops (previous : Option ClueId) (known : ((p.clue i).row r)[k]? = some letter)
    (shown : (p.cell c).row r = [held]) (differ : ¬ Agree held letter) : (writeLetter r i k c previous).Stops p
      (.coherence (.letter (conflict p r i k letter c previous))) p := by
  simp only [Agree,not_or] at differ
  obtain ⟨filled,some_letter,other⟩ := differ
  have clash : (!isUnfilled ((p.cell c).row r) && (p.cell c).row r != [letter]) = true := by
    rw [shown,isUnfilled_letter]
    simp [filled,other]
  simp only [writeLetter,stops_bind,stops_judge,letterFor,known,some_letter,clash,if_false,if_true]
  exact .inl ⟨⟨_,rfl,rfl⟩,trivial⟩

theorem fillAnswer_gives {j : ClueId} {m : Nat} (shown : (p.cell c).answer = [held])
    (inside : m < (p.clue j).answer.length) : (fillAnswer j m c).Gives p ()
      (p.updateClue j fun clue => { clue with answer := (p.clue j).answer.set m held }) := by
  simp only [fillAnswer,gives_bind,gives_judge,shown,setLetter_inside inside]
  exact ⟨_,p,⟨rfl,rfl⟩,by simp⟩

end

section
variable {mark : Option Text}

theorem cell_attached (inside : c < p.cells.size) (x : CellId) : (attached d i k c mark p).cell x =
    if c = x then
      ({ p.cell x with light := true } : Cell).updateSlot d fun slot =>
        { clue := some i, letter := some k, terminator := mark <|> slot.terminator }
    else p.cell x := by
  simp only [attached,Puzzle.cell_updateClue]
  rw [Puzzle.cell_updateCell _ _ (by simpa using inside),Puzzle.cell_updateCell _ _ inside]
  split <;> rfl

theorem clue_attached (known : i < p.clues.size) (j : ClueId) : (attached d i k c mark p).clue j =
    if i = j then { p.clue j with cells := (p.clue j).cells ++ [c] } else p.clue j := by
  unfold attached
  exact Puzzle.clue_updateClue j _ known

/-- Tying a cell leaves its letters and its place. -/
theorem cell_attached_eq (inside : c < p.cells.size) (x : CellId) : (attached d i k c mark p).cell x =
    { p.cell x with
      light := ((attached d i k c mark p).cell x).light
      across := ((attached d i k c mark p).cell x).across
      down := ((attached d i k c mark p).cell x).down } := by
  rw [cell_attached inside]
  split
  · cases d <;> rfl
  · rfl

/-- Tying a clue changes only the list of its cells. -/
theorem clue_attached_eq (known : i < p.clues.size) (j : ClueId) : (attached d i k c mark p).clue j =
    { p.clue j with cells := ((attached d i k c mark p).clue j).cells } := by
  rw [clue_attached known]
  split <;> rfl

end

/-! ### The parts of laying a letter -/

/-- The answer part: the letter of the clue is written and passed on, or the letter of
    the cell is taken over. -/
def layAnswer (d : Direction) (i : ClueId) (k : Nat) (c : CellId) (previous : Option ClueId) : Edit Unit := do
  let written ← writeLetter .answer i k c previous
  if written then passOn d.crossing c else takeOver i k c

/-- What follows the answer: the solution, and the label at the start of the clue. -/
def layRest (i : ClueId) (k : Nat) (c : CellId) (previous : Option ClueId) : Edit Unit := do
  let _ ← writeLetter .solution i k c previous
  if k = 0 then setLabel i c previous else pure ()

theorem layLetter_eq (d : Direction) (i : ClueId) (k : Nat) :
    layLetter d i k = (do
      let c ← judge .index (cellFor d i k)
      let previous ← read fun p => (p.cell c).occupant d
      attach d i k c
      layAnswer d i k c previous
      layRest i k c previous) := by
  unfold layLetter layAnswer layRest
  refine congrArg _ (funext fun c => congrArg _ (funext fun previous => congrArg _ (funext fun _ => ?_)))
  rw [andThen_assoc]
  refine congrArg _ (funext fun written => ?_)
  cases written <;> rfl

/-! ### The answers that a letter reaches -/

/-- Once a letter is written or taken over, the answer of its clue and the answer of
    the clue that crosses there show what the cell shows. `crossing` is the stroke that
    crosses, if there is one. -/
structure Spread (i : ClueId) (k : Nat) (crossing : Option Stroke) (held : Char) (p q : Puzzle) : Prop where
  board : q.board = p.board
  cells : q.cells = p.cells
  size : q.clues.size = p.clues.size
  own : q.clue i = { p.clue i with answer := (p.clue i).answer.set k held }
  crossed : ∀ t, crossing = some t →
    q.clue t.clue = { p.clue t.clue with answer := (p.clue t.clue).answer.set t.letter held }
  others : ∀ j, j ≠ i → (∀ t, crossing = some t → t.clue ≠ j) → q.clue j = p.clue j

private theorem clue_same_answer {clue : Clue} {m : Nat} {held : Char} (found : clue.answer[m]? = some held) :
    clue = { clue with answer := clue.answer.set m held } := by
  rw [set_getElem? found]

section
variable {crossing : Option Stroke} {letter held : Char}

private theorem passOn_spread (shown : (p.cell c).answer = [held])
    (slot : ((p.cell c).slot d).clue = crossing.map (·.clue) ∧
      ((p.cell c).slot d).letter = crossing.map fun t => (t.letter : Int))
    (own : (p.clue i).answer[k]? = some held)
    (inside : ∀ t, crossing = some t →
      t.clue ≠ i ∧ t.clue < p.clues.size ∧ t.letter < (p.clue t.clue).answer.length) :
    ∃ q, (passOn d c).Gives p () q ∧ Spread i k crossing held p q := by
  cases crossing with
  | none =>
    refine ⟨p,?_,rfl,rfl,rfl,clue_same_answer own,by simp,fun _ _ _ => rfl⟩
    simp only [passOn,gives_bind,gives_read]
    exact ⟨_,p,⟨rfl,rfl⟩,by simp [slot.1]⟩
  | some t =>
    obtain ⟨apart,known,short⟩ := inside t rfl
    refine ⟨p.updateClue t.clue fun clue => { clue with answer := (p.clue t.clue).answer.set t.letter held },?_,?_⟩
    · simp only [passOn,gives_bind,gives_read]
      exact ⟨_,p,⟨rfl,rfl⟩,by simpa [slot.1,slot.2] using fillAnswer_gives shown short⟩
    · refine ⟨rfl,rfl,by simp,?_,?_,?_⟩
      · rw [Puzzle.clue_updateClue _ _ known,if_neg apart]
        exact clue_same_answer own
      · rintro _ ⟨⟩
        rw [Puzzle.clue_updateClue _ _ known,if_pos rfl]
      · intro j _ other
        rw [Puzzle.clue_updateClue _ _ known,if_neg (other t rfl)]

private theorem takeOver_spread (shown : (p.cell c).answer = [held]) (known : i < p.clues.size)
    (own : (p.clue i).answer[k]? = some letter) (none : letter = blank)
    (current : ∀ t, crossing = some t → t.clue ≠ i ∧ (p.clue t.clue).answer[t.letter]? = some held) :
    ∃ q, (takeOver i k c).Gives p () q ∧ Spread i k crossing held p q := by
  by_cases empty : held = blank
  · refine ⟨p,?_,rfl,rfl,rfl,clue_same_answer (own.trans (by rw [none,empty])),?_,fun _ _ _ => rfl⟩
    · simp only [takeOver,gives_bind,gives_read]
      exact ⟨_,p,⟨rfl,rfl⟩,by simp [shown,isUnfilled_letter,empty]⟩
    · intro t found
      exact clue_same_answer (current t found).2
  · have inside : k < (p.clue i).answer.length := (List.getElem?_eq_some_iff.mp own).1
    refine ⟨p.updateClue i fun clue => { clue with answer := (p.clue i).answer.set k held },?_,?_⟩
    · simp only [takeOver,gives_bind,gives_read]
      exact ⟨_,p,⟨rfl,rfl⟩,by simpa [shown,isUnfilled_letter,empty] using fillAnswer_gives shown inside⟩
    · refine ⟨rfl,rfl,by simp,?_,?_,?_⟩
      · rw [Puzzle.clue_updateClue _ _ known,if_pos rfl]
      · intro t found
        rw [Puzzle.clue_updateClue _ _ known,if_neg (current t found).1.symm]
        exact clue_same_answer (current t found).2
      · intro j other _
        rw [Puzzle.clue_updateClue _ _ known,if_neg other.symm]

/-- What the crossing stroke of a cell has to be for an answer letter to pass on to
    it: what the cell says of that direction, and up to date with the cell. -/
structure Crosses (d : Direction) (i : ClueId) (c : CellId) (held : Char) (crossing : Option Stroke) (p : Puzzle) :
    Prop where
  clue : ((p.cell c).slot d).clue = crossing.map (·.clue)
  letter : ((p.cell c).slot d).letter = crossing.map fun t => (t.letter : Int)
  other : ∀ t, crossing = some t → t.clue ≠ i
  known : ∀ t, crossing = some t → t.clue < p.clues.size
  current : ∀ t, crossing = some t → (p.clue t.clue).answer[t.letter]? = some held

theorem layAnswer_gives (previous : Option ClueId) (inside : c < p.cells.size) (known : i < p.clues.size)
    (own : (p.clue i).answer[k]? = some letter) (shown : (p.cell c).answer = [held])
    (crosses : Crosses d.crossing i c held crossing p) (agree : Agree held letter) :
    ∃ q, (layAnswer d i k c previous).Gives p () q ∧
      Spread i k crossing (overlay held letter)
        (p.updateCell c fun cell => cell.setRow .answer [overlay held letter]) q := by
  set written := p.updateCell c fun cell => cell.setRow .answer [overlay held letter] with writtenIs
  have cell : written.cell c = (p.cell c).setRow .answer [overlay held letter] := by
    rw [writtenIs,Puzzle.cell_updateCell _ _ inside,if_pos rfl]
  have answer : (written.cell c).answer = [overlay held letter] := by
    rw [cell]
    rfl
  have slot : (written.cell c).slot d.crossing = (p.cell c).slot d.crossing := by
    rw [cell]
    cases d <;> rfl
  have first := writeLetter_gives previous (r := .answer) own shown agree
  by_cases none : letter = blank
  · obtain ⟨q,gives,spread⟩ := takeOver_spread (p := written) answer known own none
      (fun t found => ⟨crosses.other t found,by rw [overlay,if_pos none]; exact crosses.current t found⟩)
    rw [decide_eq_false (not_not_intro none)] at first
    refine ⟨q,?_,spread⟩
    simp only [layAnswer,gives_bind]
    exact ⟨false,_,first,gives⟩
  · have inside' : ∀ t, crossing = some t →
        t.clue ≠ i ∧ t.clue < written.clues.size ∧ t.letter < (written.clue t.clue).answer.length :=
      fun t found => ⟨crosses.other t found,crosses.known t found,
        (List.getElem?_eq_some_iff.mp (crosses.current t found)).1⟩
    obtain ⟨q,gives,spread⟩ := passOn_spread (p := written) (i := i) (k := k) answer
      (by rw [slot]; exact ⟨crosses.clue,crosses.letter⟩) (own.trans (by rw [overlay,if_neg none])) inside'
    rw [decide_eq_true none] at first
    refine ⟨q,?_,spread⟩
    simp only [layAnswer,gives_bind]
    exact ⟨true,_,first,gives⟩

theorem layAnswer_stops (previous : Option ClueId) (own : (p.clue i).answer[k]? = some letter)
    (shown : (p.cell c).answer = [held]) (differ : ¬ Agree held letter) : (layAnswer d i k c previous).Stops p
      (.coherence (.letter (conflict p .answer i k letter c previous))) p := by
  have stopped := writeLetter_stops previous (r := .answer) own shown differ
  simp only [layAnswer,stops_bind]
  exact .inl stopped

/-! ### Solution and label -/

/-- The label that a letter asks its cell to have fits the one it has. -/
def LabelFits (o : Puzzle) (i : ClueId) (k : Nat) (label : Option Text) : Prop :=
  k = 0 → ∀ other, label = some other → other = (o.clue i).label

/-- The cell once solution and label are laid. -/
def finished (i : ClueId) (k : Nat) (c : CellId) (letter : Char) (p : Puzzle) : Puzzle :=
  let written := p.updateCell c fun cell => cell.setRow .solution [letter]
  if k = 0 then written.updateCell c fun cell => { cell with label := some (p.clue i).label } else written

theorem cell_finished {letter : Char} (inside : c < p.cells.size) (x : CellId) : (finished i k c letter p).cell x =
    if c = x then
      { p.cell x with
        solution := [letter]
        label := if k = 0 then some (p.clue i).label else (p.cell x).label }
    else p.cell x := by
  unfold finished
  by_cases start : k = 0
  · simp only [start,if_true]
    rw [Puzzle.cell_updateCell _ _ (by simpa using inside),Puzzle.cell_updateCell _ _ inside]
    split <;> rfl
  · simp only [start,if_false]
    rw [Puzzle.cell_updateCell _ _ inside]
    split <;> rfl

theorem clues_finished {letter : Char} : (finished i k c letter p).clues = p.clues := by
  unfold finished
  by_cases start : k = 0 <;> simp [start]

theorem board_finished {letter : Char} : (finished i k c letter p).board = p.board := by
  unfold finished
  by_cases start : k = 0 <;> simp [start]

theorem size_cells_finished {letter : Char} : (finished i k c letter p).cells.size = p.cells.size := by
  unfold finished
  by_cases start : k = 0 <;> simp [start]

private theorem labelFor_fits (previous : Option ClueId) (fits : LabelFits p i 0 (p.cell c).label) :
    labelFor i c previous p = .ok (p.clue i).label := by
  unfold labelFor
  cases found : (p.cell c).label with
  | none => simp
  | some other => simp [fits rfl other found]

private theorem labelFor_clash (previous : Option ClueId) {other : Text} (found : (p.cell c).label = some other)
    (differ : other ≠ (p.clue i).label) :
    labelFor i c previous p = .error (.label (p.clue i).id (previous.map fun j => (p.clue j).id)) := by
  simp [labelFor,found,differ]

private theorem label_setRow (inside : c < p.cells.size) (r : Row) (letter : Text) :
    ((p.updateCell c fun cell => cell.setRow r letter).cell c).label = (p.cell c).label := by
  rw [Puzzle.cell_updateCell _ _ inside,if_pos rfl]
  cases r <;> rfl

theorem layRest_gives (previous : Option ClueId) (inside : c < p.cells.size)
    (own : (p.clue i).solution[k]? = some letter) (shown : (p.cell c).solution = [held]) (agree : Agree held letter) (fits : LabelFits p i k (p.cell c).label) :
    (layRest i k c previous).Gives p () (finished i k c (overlay held letter) p) := by
  have first := writeLetter_gives previous (r := .solution) own shown agree
  simp only [layRest,gives_bind]
  refine ⟨_,_,first,?_⟩
  by_cases start : k = 0
  · subst start
    have label := label_setRow inside .solution [overlay held letter]
    simp only [if_true,setLabel,gives_bind,gives_judge,finished]
    exact ⟨_,_,⟨labelFor_fits previous (by rw [label]; exact fits),rfl⟩,by simp⟩
  · simp [start,finished]

theorem layRest_stops_letter (previous : Option ClueId) (own : (p.clue i).solution[k]? = some letter)
    (shown : (p.cell c).solution = [held]) (differ : ¬ Agree held letter) : (layRest i k c previous).Stops p
      (.coherence (.letter (conflict p .solution i k letter c previous))) p := by
  have stopped := writeLetter_stops previous (r := .solution) own shown differ
  simp only [layRest,stops_bind]
  exact .inl stopped

theorem layRest_stops_label (previous : Option ClueId) (inside : c < p.cells.size)
    (own : (p.clue i).solution[0]? = some letter) (shown : (p.cell c).solution = [held]) (agree : Agree held letter)
    {other : Text} (found : (p.cell c).label = some other) (differ : other ≠ (p.clue i).label) :
    (layRest i 0 c previous).Stops p
      (.coherence (.label (p.clue i).id (previous.map fun j => (p.clue j).id)))
      (p.updateCell c fun cell => cell.setRow .solution [overlay held letter]) := by
  have first := writeLetter_gives previous (r := .solution) own shown agree
  have label := label_setRow inside .solution [overlay held letter]
  have clash := labelFor_clash (i := i) previous (label.trans found) differ
  simp only [layRest,stops_bind]
  refine .inr ⟨_,_,first,?_⟩
  simp only [if_true,setLabel,stops_bind,stops_judge]
  exact .inl ⟨⟨_,clash,rfl⟩,trivial⟩

end

end Placement

end Crossword
