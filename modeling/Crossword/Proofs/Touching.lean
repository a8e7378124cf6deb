import Crossword.Proofs.Agreement

/-!
What laying one more clue can change. A letter changes its own cell and its own clue, and beyond
these only the answer of the clue that crosses in that cell, from a blank to the letter of the
cell (`Touched`, `PassedOn`). This is so whether the letter goes through or stops
(`Halted.touched`), and stretches of letters add up (`Touched.append`), so that a clue that stops
half way has touched nothing beyond its letters up to there. A letter once written, in a cell or
in an answer, stays (`place_touches`).
-/
namespace Crossword
open Edit Placement

/-- The clue being laid has passed a letter on: its letter `n` falls on a cell that names another
    clue across its direction, with a position of that clue's answer, and where this was blank it
    now has the letter that is in the cell and in the clue being laid. -/
structure PassedOn (p q : Puzzle) (l : Laying) (n : Nat) (c : CellId) (i : ClueId) (position : Nat) (letter : Char) :
    Prop where
  cell : cellFor l.direction l.clue n p = .ok c
  clue : ((p.cell c).slot l.direction.crossing).clue = some i
  numbered : ((p.cell c).slot l.direction.crossing).letter = some (position : Int)
  before : (p.clue i).answer[position]? = some blank
  after : (q.clue i).answer[position]? = some letter
  filled : letter ≠ blank
  shown : (q.cell c).answer = [letter]
  own : (q.clue l.clue).answer[n]? = some letter

/-- Between two puzzles, letters of a clue have been laid: so many, from a first one on. The board is
    the same. Cells that the letters do not fall on are as they were, and all cells are so in what
    the crossing direction has put there. Of the clues only answers have changed, and the list of
    cells of the one being laid; answers of other clues only by letters passed on. No letter that
    was there has changed. -/
structure Touched (p q : Puzzle) (l : Laying) (first count : Nat) : Prop where
  board : q.board = p.board
  room : q.cells.size = p.cells.size
  known : q.clues.size = p.clues.size
  elsewhere : ∀ c, (∀ n, first ≤ n → n < first + count → cellFor l.direction l.clue n p ≠ .ok c) → q.cell c = p.cell c
  crossing : ∀ c, (q.cell c).slot l.direction.crossing = (p.cell c).slot l.direction.crossing
  letters : ∀ c r, (p.cell c).row r ≠ [blank] → (q.cell c).row r = (p.cell c).row r
  clue : ∀ i, q.clue i = { p.clue i with answer := (q.clue i).answer, cells := (q.clue i).cells }
  cells : ∀ i, i ≠ l.clue → (q.clue i).cells = (p.clue i).cells
  length : ∀ i, (q.clue i).answer.length = (p.clue i).answer.length
  kept : ∀ i (k : Nat) a, (p.clue i).answer[k]? = some a → a ≠ blank → (q.clue i).answer[k]? = some a
  others : ∀ i (k : Nat), i ≠ l.clue → (q.clue i).answer[k]? = (p.clue i).answer[k]? ∨
    ∃ n c letter, first ≤ n ∧ n < first + count ∧ PassedOn p q l n c i k letter

section
variable {g : Ground} {o p q m : Puzzle} {trail : List Stroke} {s : Stroke} {l : Laying} {first count more : Nat}

/-! ### Stretches of letters -/

theorem cellFor_congr {d : Direction} {i : ClueId} {n : Nat} (board : q.board = p.board)
    (spot : (q.clue i).spot d n = (p.clue i).spot d n) : cellFor d i n q = cellFor d i n p := by
  simp only [cellFor,spot,board]

namespace Touched

theorem none (p : Puzzle) (l : Laying) (first : Nat) : Touched p p l first 0 where
  board := rfl
  room := rfl
  known := rfl
  elsewhere _ _ := rfl
  crossing _ := rfl
  letters _ _ _ := rfl
  clue _ := rfl
  cells _ _ := rfl
  length _ := rfl
  kept _ _ _ found _ := found
  others _ _ _ := .inl rfl

theorem cellFor_eq (touched : Touched p q l first count) (n : Nat) :
    cellFor l.direction l.clue n q = cellFor l.direction l.clue n p := by
  refine cellFor_congr touched.board ?_
  rw [touched.clue]
  cases l.direction <;> rfl

/-- The letters of one stretch and those of the next make one stretch. -/
theorem append (one : Touched p m l first count) (two : Touched m q l (first + count) more) :
    Touched p q l first (count + more) where
  board := two.board.trans one.board
  room := two.room.trans one.room
  known := two.known.trans one.known
  elsewhere c off := by
    rw [two.elsewhere c fun n low high => one.cellFor_eq n ▸ off n (by omega) (by omega)]
    exact one.elsewhere c fun n low high => off n low (by omega)
  crossing c := (two.crossing c).trans (one.crossing c)
  letters c r filled := by
    have same := one.letters c r filled
    rw [two.letters c r (same ▸ filled),same]
  clue i := by
    rw [two.clue,one.clue]
  cells i other := (two.cells i other).trans (one.cells i other)
  length i := (two.length i).trans (one.length i)
  kept i k a found filled := two.kept i k a (one.kept i k a found filled) filled
  others i k other := by
    rcases one.others i k other with same | ⟨n,c,letter,low,high,passed⟩
    · rcases two.others i k other with same' | ⟨n,c,letter,low,high,passed⟩
      · exact .inl (same'.trans same)
      · refine .inr ⟨n,c,letter,by omega,by omega,?_,?_,?_,?_,passed.after,passed.filled,passed.shown,passed.own⟩
        · rw [← one.cellFor_eq]
          exact passed.cell
        · rw [← one.crossing]
          exact passed.clue
        · rw [← one.crossing]
          exact passed.numbered
        · rw [← same]
          exact passed.before
    · -- What the first stretch has passed on is a letter, which the second one leaves alone.
      refine .inr ⟨n,c,letter,low,by omega,passed.cell,passed.clue,passed.numbered,passed.before,
        two.kept i k letter passed.after passed.filled,passed.filled,?_,two.kept _ n letter passed.own passed.filled⟩
      have filled : (m.cell c).row .answer ≠ [blank] := fun same =>
        passed.filled (List.singleton_inj.mp (passed.shown.symm.trans same))
      exact (two.letters c .answer filled).trans passed.shown

end Touched

/-! ### One letter -/

/-- A letter of a row stays if the one replaced was blank or comes back. -/
theorem getElem?_set_kept {row : Text} {n k : Nat} {old new a : Char} (replaced : row[n]? = some old)
    (same : old ≠ blank → new = old) (found : row[k]? = some a) (filled : a ≠ blank) : (row.set n new)[k]? = some a := by
  by_cases here : n = k
  · subst here
    obtain rfl : old = a := Option.some.inj (replaced.symm.trans found)
    rw [List.getElem?_set_self (List.getElem?_eq_some_iff.mp found).1,same filled]
  · rw [List.getElem?_set_ne here]
    exact found

/-- A letter that comes into a blank cell is passed on to the clue that crosses there. -/
theorem Struck.passedOn {t : Stroke} {cell : Cell}
    (struck : Struck g o trail s (s.written o .answer) cell p q) (laid : Laid g o trail p) (ready : Ready g o trail s)
    (shown : (p.cell (g.cellOn (s.place o))).answer = [blank]) (answer : cell.answer = [s.written o .answer])
    (crosses : crossing o trail s = some t) (filled : s.written o .answer ≠ blank) :
    PassedOn p q ⟨s.direction,s.clue⟩ s.letter (g.cellOn (s.place o)) t.clue t.letter (s.written o .answer) := by
  have current : (p.clue t.clue).answer[t.letter]? = some blank := laid.latest_current crosses shown
  have own : (p.clue s.clue).answer[s.letter]? = some (s.written o .answer) := laid.letter_eq ready .answer
  have latest : latest o trail s.direction.crossing (s.place o) = some t := crosses
  have slot : (p.cell (g.cellOn (s.place o))).slot s.direction.crossing =
      slotOf o trail s.direction.crossing (s.place o) := (laid.marked _ ready.inside).slot _
  refine ⟨laid.cellFor_eq ready,?_,?_,current,?_,filled,?_,?_⟩
  · rw [slot,slotOf,latest]
    rfl
  · rw [slot,slotOf,latest]
    rfl
  · rw [struck.crossed t crosses]
    exact List.getElem?_set_self (List.getElem?_eq_some_iff.mp current).1
  · rw [struck.here,answer]
  · rw [struck.own]
    exact List.getElem?_set_self (List.getElem?_eq_some_iff.mp own).1

/-- Of the answer of the clue that crosses, a letter stays as it was or is passed on. -/
theorem Struck.crossed_or_passedOn {t : Stroke} {held : Char} {cell : Cell}
    (struck : Struck g o trail s (overlay held (s.written o .answer)) cell p q) (laid : Laid g o trail p)
    (ready : Ready g o trail s) (shown : (p.cell (g.cellOn (s.place o))).answer = [held])
    (agree : Agree held (s.written o .answer)) (answer : cell.answer = [overlay held (s.written o .answer)])
    (crosses : crossing o trail s = some t) (k : Nat) :
    (q.clue t.clue).answer[k]? = (p.clue t.clue).answer[k]? ∨
      ∃ letter, PassedOn p q ⟨s.direction,s.clue⟩ s.letter (g.cellOn (s.place o)) t.clue k letter := by
  have current := laid.latest_current crosses shown
  by_cases here : t.letter = k
  · subst here
    by_cases passes : held = blank ∧ s.written o .answer ≠ blank
    · obtain ⟨rfl,filled⟩ := passes
      have new : overlay blank (s.written o .answer) = s.written o .answer := if_neg filled
      rw [new] at struck answer
      exact .inr ⟨_,struck.passedOn laid ready shown answer crosses filled⟩
    · -- The cell has a letter already, or there is none to pass on.
      have same : overlay held (s.written o .answer) = held := by
        by_cases empty : held = blank
        · exact if_pos (not_not.mp fun filled => passes ⟨empty,filled⟩)
        · exact overlay_held agree empty
      left
      rw [struck.crossed t crosses,same,set_getElem? current]
  · left
    rw [struck.crossed t crosses]
    exact List.getElem?_set_ne here

/-- A stroke that gets as far as its answer letter touches what one letter may. -/
theorem Struck.touched {held : Char} {cell : Cell}
    (struck : Struck g o trail s (overlay held (s.written o .answer)) cell p q) (laid : Laid g o trail p)
    (ready : Ready g o trail s) (shown : (p.cell (g.cellOn (s.place o))).answer = [held])
    (agree : Agree held (s.written o .answer))
    (slot : cell.slot s.direction.crossing = (p.cell (g.cellOn (s.place o))).slot s.direction.crossing)
    (answer : cell.answer = [overlay held (s.written o .answer)])
    (solution : (p.cell (g.cellOn (s.place o))).solution ≠ [blank] →
      cell.solution = (p.cell (g.cellOn (s.place o))).solution) :
    Touched p q ⟨s.direction,s.clue⟩ s.letter 1 where
  board := struck.board
  room := struck.room
  known := struck.known
  elsewhere c off := struck.elsewhere c fun same => off s.letter le_rfl (by omega) (same ▸ laid.cellFor_eq ready)
  crossing c := by
    by_cases here : c = g.cellOn (s.place o)
    · rw [here,struck.here,slot]
    · rw [struck.elsewhere c here]
  letters c r filled := by
    by_cases here : c = g.cellOn (s.place o)
    · subst here
      rw [struck.here]
      cases r with
      | answer =>
        have some_letter : held ≠ blank := fun same => filled (by rw [Cell.row,shown,same])
        rw [Cell.row,Cell.row,answer,shown,overlay_held agree some_letter]
      | solution => exact solution filled
    · rw [struck.elsewhere c here]
  clue i := by
    rcases struck.clue_cases i with ⟨rfl,own⟩ | ⟨-,⟨t,-,-,crossed⟩ | same⟩
    · rw [own]
    · rw [crossed]
    · rw [same]
  cells i other := by
    rcases struck.clue_cases i with ⟨own,-⟩ | ⟨-,⟨t,-,-,crossed⟩ | same⟩
    · exact absurd own other
    · rw [crossed]
    · rw [same]
  length i := by
    rcases struck.clue_cases i with ⟨rfl,own⟩ | ⟨-,⟨t,-,-,crossed⟩ | same⟩
    · simp [own]
    · simp [crossed]
    · rw [same]
  kept i k a found filled := by
    rcases struck.clue_cases i with ⟨rfl,own⟩ | ⟨-,⟨t,crosses,rfl,crossed⟩ | same⟩
    · rw [own]
      exact getElem?_set_kept (laid.letter_eq ready .answer) (fun some_letter => if_neg some_letter) found filled
    · rw [crossed]
      exact getElem?_set_kept (laid.latest_current crosses shown) (overlay_held agree) found filled
    · rw [same]
      exact found
  others i k other := by
    rcases struck.clue_cases i with ⟨own,-⟩ | ⟨-,⟨t,crosses,rfl,-⟩ | same⟩
    · exact absurd own other
    · rcases struck.crossed_or_passedOn laid ready shown agree answer crosses k with same | ⟨letter,passed⟩
      · exact .inl same
      · exact .inr ⟨_,_,letter,le_rfl,by omega,passed⟩
    · exact .inl (by rw [same])

/-- Tying a letter to its cell touches no letters. -/
theorem Laid.touched_attached (laid : Laid g o trail p) (ready : Ready g o trail s) :
    Touched p (attached s.direction s.clue s.letter (g.cellOn (s.place o)) (s.mark o) p) ⟨s.direction,s.clue⟩
      s.letter 1 := by
  have inside : g.cellOn (s.place o) < p.cells.size := laid.cellOn_lt ready.inside
  have known : s.clue < p.clues.size := laid.known ▸ ready.known
  refine ⟨rfl,by simp [attached],by simp [attached],?_,?_,?_,?_,?_,?_,?_,?_⟩
  · intro c off
    rw [cell_attached inside,if_neg fun same => ?_]
    exact off s.letter le_rfl (by omega) (same ▸ laid.cellFor_eq ready)
  · intro c
    rw [cell_attached inside]
    split
    · rw [Cell.slot_updateSlot,if_neg (crossing_ne s.direction).symm]
      cases s.direction <;> rfl
    · rfl
  · intro c r _
    rw [cell_attached_eq inside]
    cases r <;> rfl
  · intro i
    rw [clue_attached_eq known]
  · intro i other
    rw [clue_attached known,if_neg (Ne.symm other)]
  · intro i
    rw [clue_attached_eq known]
  · intro i k a found _
    rw [clue_attached_eq known]
    exact found
  · intro i k other
    exact .inl (by rw [clue_attached_eq known])

/-- A letter that stops has touched no more than one that goes through may. -/
theorem Halted.touched {cause : CoherenceFault} (halted : Halted g o trail s p q cause) (laid : Laid g o trail p)
    (ready : Ready g o trail s) : Touched p q ⟨s.direction,s.clue⟩ s.letter 1 := by
  have slot {d : Direction} {f : Slot → Slot} {cell : Cell} :
      (cell.updateSlot d f).slot d.crossing = cell.slot d.crossing := by
    rw [Cell.slot_updateSlot,if_neg (crossing_ne d).symm]
  cases halted with
  | answer _ _ tied => exact tied ▸ laid.touched_attached ready
  | solution answer agree _ _ struck =>
    exact struck.touched laid ready answer agree slot rfl fun _ => by simp [lit]
  | @label held held' _ answer agree solution agree' _ _ _ struck =>
    refine struck.touched laid ready answer agree slot rfl fun filled => ?_
    have some_letter : held' ≠ blank := fun same => filled (by rw [solution,same])
    rw [solution,overlay_held agree' some_letter]

/-- A letter that goes through touches its cell, its clue and the clue that crosses. -/
theorem Laid.touched_of_gives (laid : Laid g o trail p) (ready : Ready g o trail s)
    (gives : (layLetter s.direction s.clue s.letter).Gives p () q) :
    Touched p q ⟨s.direction,s.clue⟩ s.letter 1 ∧ Laid g o (s :: trail) q := by
  have marked := laid.marked _ ready.inside
  obtain ⟨held,answer,_⟩ := marked.row .answer
  obtain ⟨held',solution,_⟩ := marked.row .solution
  by_cases compatible : ∀ t ∈ trail, t.Compatible o s
  · obtain ⟨agree,agree',fits⟩ := (marked.compatible_iff answer solution).mp compatible
    have meets : Meets o s (p.cell (g.cellOn (s.place o))) held held' := ⟨answer,solution,agree,agree',fits⟩
    obtain ⟨r,gives',struck⟩ := laid.layLetter_struck ready meets
    obtain ⟨_,rfl⟩ := gives_unique gives gives'
    refine ⟨struck.touched laid ready answer agree ?_ rfl fun filled => ?_,struck.laid_cons meets laid ready⟩
    · rw [covered,lit]
      exact (Cell.slot_updateSlot _).trans (if_neg (crossing_ne s.direction).symm)
    · have some_letter : held' ≠ blank := fun same => filled (by rw [meets.solution,same])
      rw [meets.solution,covered,overlay_held agree' some_letter]
  · obtain ⟨_,_,stops,_⟩ := laid.layLetter_halts ready compatible
    exact absurd stops (not_stops_of_gives gives)

/-! ### One clue -/

theorem Laid.touched_of_letters (laid : Laid g o trail p) (ready : ReadyFrom g o trail l first count)
    (gives : (layLetters l.direction l.clue first count).Gives p () q) : Touched p q l first count := by
  induction count generalizing first trail p with
  | zero =>
    simp only [layLetters,gives_pure,true_and] at gives
    exact gives ▸ .none p l first
  | succ count ih =>
    simp only [layLetters,gives_bind] at gives
    obtain ⟨_,r,now,later⟩ := gives
    obtain ⟨touched,laid'⟩ := laid.touched_of_gives ready.head now
    rw [Nat.add_comm count]
    exact touched.append (ih laid' ready.tail later)

section
variable {done : List Laying} {fault : Fault}

/-- A clue keeps to the bounds if none of its letters lies outside. -/
theorem Placed.checkBounds_iff (placed : Placed g o done p) (fit : (o.clue l.clue).Fit) :
    checkBounds p.board.bounds (p.clue l.clue) l.direction = .ok () ↔
      ∀ n : Nat, (n : Int) < (p.clue l.clue).length → g.Inside ((p.clue l.clue).spot l.direction n) := by
  rw [checkBounds_laid placed.laid fit,placed.laid.length_eq]
  simp only [placed.laid.spot_eq]
  constructor
  · intro all n short
    exact all ⟨l.direction,l.clue,n⟩ (mem_strokes.mpr ⟨rfl,rfl,short⟩)
  · intro all s member
    obtain ⟨direction,clue,short⟩ := mem_strokes.mp member
    rw [Stroke.place,direction,clue]
    exact all s.letter short

theorem Placed.touched_of_gives (placed : Placed g o done p) (fresh : l.New o done)
    (gives : (place l.direction l.clue).Gives p () q) :
    Touched (p.updateBoard fun board => board.addLaid l.direction l.clue) q l 0 (p.clue l.clue).length.toNat := by
  obtain ⟨checked,letters⟩ := place_gives_iff.mp gives
  have ready := readyFrom_zero fresh ((checkBounds_laid placed.laid fresh.fit).mp checked)
  rw [← placed.laid.length_eq] at ready
  exact (placed.laid.addLaid l.direction l.clue).touched_of_letters ready letters

/-- A clue that stops at a letter has touched what its letters may, as far as it came. -/
theorem Placed.touched_of_stopsAt {k : Nat} (placed : Placed g o done p) (fresh : l.New o done)
    (checked : checkBounds p.board.bounds (p.clue l.clue) l.direction = .ok ())
    (short : (k : Int) < (p.clue l.clue).length) (stops : l.StopsAt p k fault q) : (∃ cause, fault = .coherence cause) ∧
      Touched (p.updateBoard fun board => board.addLaid l.direction l.clue) q l 0 (k + 1) := by
  obtain ⟨m,gives,stops⟩ := stops
  obtain ⟨laid,ready⟩ := placed.arrives fresh checked short gives
  obtain ⟨cause,same,halted⟩ := laid.halted_of_stops ready stops
  have letters := readyFrom_zero fresh ((checkBounds_laid placed.laid fresh.fit).mp checked)
  obtain ⟨more,count⟩ : ∃ more, (o.clue l.clue).length.toNat = k + more := by
    rw [placed.laid.length_eq] at short
    exact ⟨(o.clue l.clue).length.toNat - k,by omega⟩
  rw [count] at letters
  have before := (placed.laid.addLaid l.direction l.clue).touched_of_letters letters.front gives
  refine ⟨⟨cause,same⟩,before.append ?_⟩
  rw [Nat.zero_add]
  exact halted.touched laid ready

end

/-- After any run of compiled clues on a board just opened, one more is refused for the bounds
    exactly if one of its letters would lie outside, and then nothing at all has changed. Else it
    is entered in the list of its direction, and whether it goes through or stops at a letter
    that clashes, only what its letters up to there may touch has changed. -/
theorem place_touches (p : Puzzle) (width height : Nat) (steps : List Laying) (l : Laying) :
    let g : Ground := ⟨p.cells.size,width,height⟩
    let start := p.openBoard ⟨width,height⟩
    ∀ q, FreshRun start (steps ++ [l]) → (layAll steps).Gives start () q →
      let entered := q.updateBoard fun board => board.addLaid l.direction l.clue
      ((∃ cause r, (place l.direction l.clue).Stops q (.bounds cause) r) ↔
          ∃ n : Nat, (n : Int) < (q.clue l.clue).length ∧ ¬ g.Inside ((q.clue l.clue).spot l.direction n)) ∧
        (∀ r, (place l.direction l.clue).Gives q () r → Touched entered r l 0 (q.clue l.clue).length.toNat) ∧
        ∀ fault r, (place l.direction l.clue).Stops q fault r →
          (∃ cause, fault = .bounds cause ∧ r = q) ∨
            ∃ cause, ∃ k : Nat, fault = .coherence cause ∧ (k : Int) < (q.clue l.clue).length ∧ l.StopsAt q k fault r ∧
              Touched entered r l 0 (k + 1) := by
  intro g start q run gives entered
  have placed : Placed g start steps q := run.front.placed (Ground.opened_openBoard p width height) gives
  have fresh : l.New start steps := run.isNew
  have checks := placed.checkBounds_iff fresh.fit
  refine ⟨?_,fun r through => placed.touched_of_gives fresh through,?_⟩
  · constructor
    · rintro ⟨cause,r,stops⟩
      rcases place_stops_at_iff.mp stops with ⟨_,broken,_,_⟩ | ⟨checked,k,short,stops⟩
      · by_contra inside
        rw [checks.mpr fun n short => not_not.mp fun outside => inside ⟨n,short,outside⟩] at broken
        cases broken
      · obtain ⟨⟨_,other⟩,_⟩ := placed.touched_of_stopsAt fresh checked short stops
        cases other
    · rintro ⟨n,short,outside⟩
      cases checked : checkBounds q.board.bounds (q.clue l.clue) l.direction with
      | ok => exact absurd (checks.mp checked n short) outside
      | error cause => exact ⟨cause,q,place_stops_at_iff.mpr (.inl ⟨cause,checked,rfl,rfl⟩)⟩
  · intro fault r stops
    rcases place_stops_at_iff.mp stops with ⟨cause,_,same,rfl⟩ | ⟨checked,k,short,stops⟩
    · exact .inl ⟨cause,same.symm,rfl⟩
    · obtain ⟨⟨cause,same⟩,touched⟩ := placed.touched_of_stopsAt fresh checked short stops
      exact .inr ⟨cause,k,same,short,stops,touched⟩

/-- A row with one letter known, a column that brings another letter into it, and the row's place
    once more with a letter that clashes with the column's. -/
def clashingClues : Puzzle :=
  { Puzzle.empty with
    clues := #[.compiled (specification 1 1 "1. Row (3)" "A") (.truth true),
      .compiled (specification 2 1 "2. Column (2)" "B") (.truth false),
      .compiled (specification 1 1 "1. Again (3)" "AC") (.truth true)] }

/-- The row and the column are laid first. -/
def clashingSteps : List Laying := [⟨.across,0⟩,⟨.down,1⟩]

theorem freshRun_clashingClues :
    FreshRun (clashingClues.openBoard ⟨3,2⟩) (clashingSteps ++ [⟨.across,2⟩]) where
  distinct := by decide
  known := by decide
  fresh := by
    intro l member
    simp only [clashingSteps,List.cons_append,List.nil_append,List.mem_cons,List.not_mem_nil,or_false] at member
    rcases member with rfl | rfl | rfl
    · exact Clue.fresh_compiled (by decide +kernel)
    · exact Clue.fresh_compiled (by decide +kernel)
    · exact Clue.fresh_compiled (by decide +kernel)

/-- The last of the clues has a place of its own on the grid, yet does not go through. -/
theorem stops_clashingClues : ∃ q, (layAll clashingSteps).Gives (clashingClues.openBoard ⟨3,2⟩) () q ∧
    (∃ fault r, (place .across 2).Stops q fault r) ∧ (q.clue 2).length = 3 ∧ (q.clue 2).x = 0 ∧ (q.clue 2).y = 0 := by
  refine ⟨_,gives_of_isSome (by decide +kernel),?_,by decide +kernel⟩
  obtain ⟨fault,stops⟩ := stops_of_isNone (e := place .across 2)
    (p := ((layAll clashingSteps).run (clashingClues.openBoard ⟨3,2⟩)).puzzle) (by decide +kernel)
  exact ⟨fault,_,stops⟩

/-- It is within the bounds, so it stops at a letter. -/
theorem place_touches_clash : ∃ q r fault, FreshRun (clashingClues.openBoard ⟨3,2⟩) (clashingSteps ++ [⟨.across,2⟩]) ∧
    (layAll clashingSteps).Gives (clashingClues.openBoard ⟨3,2⟩) () q ∧ (place .across 2).Stops q fault r ∧
      ∃ k, Touched (q.updateBoard fun board => board.addLaid .across 2) r ⟨.across,2⟩ 0 (k + 1) := by
  obtain ⟨q,laid,⟨fault,r,stops⟩,length,x,y⟩ := stops_clashingClues
  obtain ⟨bounds,-,stopped⟩ := place_touches clashingClues 3 2 _ ⟨.across,2⟩ q freshRun_clashingClues laid
  rcases stopped fault r stops with ⟨cause,rfl,-⟩ | ⟨_,k,-,-,-,touched⟩
  · obtain ⟨n,short,outside⟩ := bounds.mp ⟨cause,r,stops⟩
    refine absurd (Ground.inside_iff.mpr ?_) outside
    simp only [Clue.spot,x,y]
    rw [length] at short
    omega
  · exact ⟨q,r,fault,freshRun_clashingClues,laid,stops,k,touched⟩

end

end Crossword
