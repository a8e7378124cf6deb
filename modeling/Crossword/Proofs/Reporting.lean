import Crossword.Proofs.Walking

/-!
What an audit can come to. It reports a finding or none, as long as every letter that it
looks up is there (`reports_check`), and so it reports a finding wherever a puzzle does
not agree with itself (`report_of_not_sound`, `report_of_unfit`). Letters are looked up only
after the rows have been found to have their lengths, so it is enough that light cells with two
clues name clues of the board and positions in them (`audit_settles`); links may lead
anywhere.
-/
namespace Crossword
open Audit

/-- Where two clues cross in a light cell, each has the letter that the cell names. -/
def Readable (p : Puzzle) : Prop :=
  ∀ c ∈ p.board.lightCells, ∀ d i, ((p.cell c).slot d).clue = some i →
    ((p.cell c).slot d.crossing).clue.isSome = true →
      ∀ r, ∃ a, letterAt ((p.clue i).row r) ((p.cell c).slot d).letter = .ok a

/-- In a row, the clue that lies over a cell in a direction has one letter there, and the
    clue that crosses it has another one. -/
structure Crossed (p : Puzzle) (c : CellId) (d : Direction) (r : Row) (i j : ClueId) (k n : Nat)
    (own crossing : Char) : Prop where
  lies : ((p.cell c).slot d).clue = some i
  number : ((p.cell c).slot d).letter = some (k : Int)
  holds : ((p.clue i).row r)[k]? = some own
  lies' : ((p.cell c).slot d.crossing).clue = some j
  number' : ((p.cell c).slot d.crossing).letter = some (n : Int)
  holds' : ((p.clue j).row r)[n]? = some crossing

/-- Where two clues cross in a light cell, both are clues of the board, and the cell names for each
    a position that it has. -/
def CrossingsNumbered (p : Puzzle) : Prop :=
  ∀ c ∈ p.board.lightCells, ∀ d i, ((p.cell c).slot d).clue = some i →
    ((p.cell c).slot d.crossing).clue.isSome = true →
      i ∈ p.board.clues ∧ ∃ k : Nat, ((p.cell c).slot d).letter = some (k : Int) ∧ (k : Int) < (p.clue i).length

section
variable {p q : Puzzle} {i j : ClueId} {c : CellId}

/-! ### Looking up letters -/

theorem letterAt_of_length {row row' : Text} {position : Option Int} {a : Char} (length : row'.length = row.length)
    (found : letterAt row position = .ok a) : ∃ b, letterAt row' position = .ok b := by
  cases position with
  | none => cases found
  | some position =>
    have inside : ∃ n, place? row'.length position = some n ∧ n < row'.length := by
      rw [length]
      cases placed : place? row.length position with
      | none => simp [letterAt,pick?,placed] at found
      | some n =>
        refine ⟨n,rfl,?_⟩
        by_contra outside
        simp [letterAt,pick?,placed,List.getElem?_eq_none (Nat.le_of_not_lt outside)] at found
    obtain ⟨n,placed,short⟩ := inside
    exact ⟨row'[n],by simp [letterAt,pick?,placed,short]⟩

theorem letterAt_natural {row : Text} {n : Nat} {a : Char} (holds : row[n]? = some a) :
    letterAt row (some (n : Int)) = .ok a := by
  simp [letterAt,Ground.pick?_of_nonneg,holds]

theorem Audit.Sound.readable (sound : Sound p) : Readable p := by
  intro c lit d i lies crossed r
  obtain ⟨j,lies'⟩ := Option.isSome_iff_exists.mp crossed
  cases d with
  | across =>
    obtain ⟨a,_,found,_⟩ := sound.crossings c lit i j lies lies' r
    exact ⟨a,found⟩
  | down =>
    obtain ⟨_,a,_,found,_⟩ := sound.crossings c lit j i lies' lies r
    exact ⟨a,found⟩

/-- Letters stay where they are read as long as the rows keep their lengths. -/
theorem Readable.of_same (readable : Readable p) (lightCells : q.board.lightCells = p.board.lightCells)
    (slot : ∀ c d, (q.cell c).slot d = (p.cell c).slot d)
    (length : ∀ i r, ((q.clue i).row r).length = ((p.clue i).row r).length) : Readable q := by
  intro c lit d i lies crossed r
  rw [lightCells] at lit
  rw [slot] at lies crossed ⊢
  obtain ⟨a,found⟩ := readable c lit d i lies crossed r
  exact letterAt_of_length (length i r) found

theorem Readable.updateClue (readable : Readable p) {f : Clue → Clue}
    (length : ∀ c : Clue, ∀ r, ((f c).row r).length = (c.row r).length) : Readable (p.updateClue i f) := by
  refine readable.of_same rfl (fun _ _ => rfl) fun k r => ?_
  rw [Puzzle.clue_updateClue_eq_ite]
  split
  · exact length _ r
  · rfl

theorem Readable.updateCell (readable : Readable p) {f : Cell → Cell}
    (slot : ∀ cell : Cell, ∀ d, (f cell).slot d = cell.slot d) (inside : c < p.cells.size) :
    Readable (p.updateCell c f) := by
  refine readable.of_same rfl (fun e d => ?_) fun _ _ => rfl
  rw [Puzzle.cell_updateCell _ _ inside]
  split
  · exact slot _ d
  · rfl

/-- Rows of the right lengths have letters at all positions of their clues. -/
theorem CrossingsNumbered.readable (numbered : CrossingsNumbered p) (rows : checkRows p = .ok ()) : Readable p := by
  intro c lit d i lies crossed r
  obtain ⟨member,k,number,short⟩ := numbered c lit d i lies crossed
  have length := (checkRows_eq_ok_iff.mp rows i member).1 r
  have inside : k < ((p.clue i).row r).length := by omega
  rw [number]
  exact ⟨_,letterAt_natural (List.getElem?_eq_getElem inside)⟩

/-! ### A finding or none -/

theorem reports_checkCrossings (readable : Readable p) : Reports (checkCrossings p) := by
  refine reports_forM fun c lit => ?_
  split
  case h_2 => exact .inl ⟨(),rfl⟩
  case h_1 across down lies lies' =>
    have one := readable c lit .across across lies (by simp [Cell.slot,Direction.crossing,lies'])
    have other := readable c lit .down down lies' (by simp [Cell.slot,Direction.crossing,lies])
    have shared : ∀ r, Reports (checkShared p c across down r) := fun r =>
      reports_bind (.inl (one r)) fun _ _ => reports_bind (.inl (other r)) fun _ _ => reports_ensure _ _
    exact reports_bind (shared .answer) fun _ _ => shared .solution

theorem Audit.Sound.checkRows_eq_ok (sound : Sound p) : checkRows p = .ok () :=
  checkRows_eq_ok_iff.mpr fun i laid => ⟨sound.rows i laid,sound.revealed i laid⟩

/-- An audit reports a finding or none, unless a letter is looked up that is not there;
    that can be only where the rows have the right lengths. -/
theorem reports_check (readable : checkRows p = .ok () → Readable p) : Reports (check p) := by
  refine reports_bind (reports_ensure _ _) fun _ _ => ?_
  refine reports_bind (reports_forM fun c _ => reports_ensure _ _) fun _ _ => ?_
  refine reports_bind (reports_forM fun i _ => ?_) fun _ rows => ?_
  · exact reports_bind (reports_ensure _ _) fun _ _ => reports_bind (reports_ensure _ _) fun _ _ => reports_ensure _ _
  · refine reports_bind (reports_checkCrossings (readable rows)) fun _ _ => ?_
    refine reports_bind (reports_forM fun i _ => ?_) fun _ _ => reports_checkChains
    split
    · exact .inl ⟨(),rfl⟩
    · exact reports_ensure _ _

theorem report_of_unfit (unfit : checkRows p ≠ .ok ()) : ∃ finding, report p = .ok (Report.of finding) := by
  rcases reports_check fun passed => absurd passed unfit with ⟨_,passed⟩ | ⟨finding,failed⟩
  · exact absurd (check_eq_ok_iff.mp passed).checkRows_eq_ok unfit
  · exact ⟨finding,by rw [report,failed]⟩

theorem report_of_not_sound (readable : Readable p) (faulty : ¬ Sound p) :
    ∃ finding, report p = .ok (Report.of finding) := by
  rcases reports_check fun _ => readable with ⟨_,passed⟩ | ⟨finding,failed⟩
  · exact absurd (check_eq_ok_iff.mp passed) faulty
  · exact ⟨finding,by rw [report,failed]⟩

/-- Whatever has become of a puzzle otherwise, as long as its light cells with two clues name clues
    of the board and positions in them, an audit ends with a report and leaves the puzzle as it is.
    The report is clean if the puzzle agrees with itself. If not, it has one message, which is about
    the finding that the checks stopped at, and this one is entered as an error. -/
theorem audit_settles (p : Puzzle) (numbered : CrossingsNumbered p) :
    ∃ r, (Edit.judge id report).run p = ⟨.ok r,p,[]⟩ ∧ (r.ok = true ↔ Sound p) ∧
      (r = ⟨true,[],[]⟩ ∨ ∃ finding, check p = .error (.audit finding) ∧
        r = ⟨false,[finding.message],[⟨.error,s!"Validation failed: {finding.message}"⟩]⟩) := by
  by_cases sound : Sound p
  · have clean := report_eq_clean_iff.mpr sound
    exact ⟨Report.clean,Edit.run_judge_ok clean,iff_of_true rfl sound,.inl rfl⟩
  · rcases reports_check numbered.readable with ⟨_,passed⟩ | ⟨finding,failed⟩
    · exact absurd (check_eq_ok_iff.mp passed) sound
    · have reported : report p = .ok (Report.of finding) := by rw [report,failed]
      exact ⟨_,Edit.run_judge_ok reported,iff_of_false Bool.false_ne_true sound,.inr ⟨finding,failed,rfl⟩⟩

/-- Two clues that cross in one cell, with links that go round in a circle. -/
def carousel : Puzzle :=
  { Puzzle.empty with
    clues := #[
      { (default : Clue) with
        length := 1, answer := ['A'], solution := [blank], revealed := [blank], links := { head := some 0, next := some 1 } },
      { (default : Clue) with
        length := 1, answer := ['A'], solution := [blank], revealed := [blank],
        links := { head := some 0, previous := some 0, next := some 0 } }]
    cells := #[{ Cell.dark 0 0 with
      light := true, across := { clue := some 0, letter := some 0 }, down := { clue := some 1, letter := some 0 } }]
    board := { Board.fresh 0 ⟨1,1⟩ with across := [0], down := [1], lightCells := [0], acrossHeads := [0] } }

theorem audit_carousel : CrossingsNumbered carousel ∧ ∃ finding : AuditFault, (Edit.judge id report).run carousel =
    ⟨.ok ⟨false,[finding.message],[⟨.error,s!"Validation failed: {finding.message}"⟩]⟩,carousel,[]⟩ := by
  have numbered : CrossingsNumbered carousel := by
    intro c lit d i lies _
    obtain rfl : c = 0 := by simpa [carousel] using lit
    cases d with
    | across =>
      cases lies
      exact ⟨by decide,0,rfl,by decide⟩
    | down =>
      cases lies
      exact ⟨by decide,0,rfl,by decide⟩
  obtain ⟨r,runs,-,rfl | ⟨finding,-,rfl⟩⟩ := audit_settles carousel numbered
  · have found : ((Edit.judge id report).run carousel).result.toOption.map Report.ok = some false := by decide +kernel
    rw [runs] at found
    cases found
  · exact ⟨numbered,finding,runs⟩

/-! ### Letters that cross -/

/-- Letters that cross in a light cell agree, whichever direction is asked first. -/
theorem Audit.Sound.agree (sound : Sound p) (lit : c ∈ p.board.lightCells) {d : Direction} {r : Row} {k n : Nat}
    {a b : Char} (crossed : Crossed p c d r i j k n a b) : Agree a b := by
  have found := letterAt_natural crossed.holds
  have found' := letterAt_natural crossed.holds'
  rw [← crossed.number] at found
  rw [← crossed.number'] at found'
  cases d with
  | across =>
    obtain ⟨a',b',one,other,agree⟩ := sound.crossings c lit i j crossed.lies crossed.lies' r
    obtain rfl : a' = a := Except.ok.inj (one.symm.trans found)
    obtain rfl : b' = b := Except.ok.inj (other.symm.trans found')
    exact agree
  | down =>
    obtain ⟨b',a',other,one,agree⟩ := sound.crossings c lit j i crossed.lies' crossed.lies r
    obtain rfl : a' = a := Except.ok.inj (one.symm.trans found)
    obtain rfl : b' = b := Except.ok.inj (other.symm.trans found')
    exact agree.symm

theorem Agree.eq {a b : Char} (agree : Agree a b) (filled : a ≠ blank) (filled' : b ≠ blank) : a = b := by
  rcases agree with none | none | same
  · exact absurd none filled
  · exact absurd none filled'
  · exact same

end

end Crossword
