import Crossword.Proofs.Construction
import Crossword.Proofs.Reporting
import Crossword.Proofs.Threads

/-!
What an audit makes of a compiled puzzle that has been changed in one place (`Altered`).
The change leaves a puzzle that does not agree with itself, whichever clue or cell it is
made to, and no check before the one that finds it looks up a letter that is not there, so
that the audit reports a finding (`Settled.finds`, `report_altered`).
-/
namespace Crossword
open Edit Placement Audit Chain

/-! ### Changes -/

/-- The clue with a row of its letters replaced. -/
def Clue.setRow (r : Row) (letters : Text) (c : Clue) : Clue :=
  match r with
  | .answer => { c with answer := letters }
  | .solution => { c with solution := letters }

/-- The board with the heads noted for a direction replaced. -/
def Board.setHeads (d : Direction) (heads : List ClueId) (b : Board) : Board :=
  match d with
  | .across => { b with acrossHeads := heads }
  | .down => { b with downHeads := heads }

/-- The puzzle with further clues beside it, which are not on its board. -/
def Puzzle.beside (p : Puzzle) (others : Array Clue) : Puzzle := { p with clues := p.clues ++ others }

/-- One change to a puzzle that an audit has to find. A link may be made to lead to any
    other clue, on the board or beside it, or to none; only the link to the next may not
    lead to a clue beside the board that points back already. -/
inductive Altered (p : Puzzle) : Puzzle → Prop
  | lastColumn (some_column : p.board.columns ≠ []) :
      Altered p (p.updateBoard fun board => { board with columns := board.columns.dropLast })
  | lastCell (n : Nat) (column : List CellId) (found : p.board.columns[n]? = some column) (some_cell : column ≠ []) :
      Altered p (p.updateBoard fun board => { board with columns := board.columns.modify n List.dropLast })
  | light (c : CellId) (inside : c ∈ p.board.columns.flatten)
      (uncovered : ∀ i ∈ p.board.clues, c ∉ (p.clue i).cells) :
      Altered p (p.updateCell c fun cell => { cell with light := true })
  | row (i : ClueId) (r : Row) (letters : Text) (laid : i ∈ p.board.clues)
      (other : letters.length ≠ ((p.clue i).row r).length) : Altered p (p.updateClue i (Clue.setRow r letters))
  | revealed (i : ClueId) (letters : Text) (laid : i ∈ p.board.clues)
      (other : letters.length ≠ (p.clue i).revealed.length) :
      Altered p (p.updateClue i fun clue => { clue with revealed := letters })
  | length (i : ClueId) (length : Int) (laid : i ∈ p.board.clues) (other : length ≠ (p.clue i).length) :
      Altered p (p.updateClue i fun clue => { clue with length := length })
  | cellLabel (i : ClueId) (c : CellId) (label : Option Text) (laid : i ∈ p.board.clues)
      (starts : (p.clue i).cells.head? = some c) (other : label ≠ (p.cell c).label) :
      Altered p (p.updateCell c fun cell => { cell with label := label })
  | clueLabel (i : ClueId) (label : Text) (laid : i ∈ p.board.clues) (other : label ≠ (p.clue i).label) :
      Altered p (p.updateClue i fun clue => { clue with label := label })
  | link (i : ClueId) (t : Thread) (target : Option ClueId) (laid : i ∈ p.board.clues)
      (other : target ≠ (p.clue i).links.lead t)
      (apart : t = .next → ∀ j, target = some j → j ∉ p.board.clues → (p.clue j).links.previous ≠ some i) :
      Altered p (p.updateClue i (relink (Links.setLead t target)))
  | heads (d : Direction) (heads : List ClueId) (other : heads ≠ p.board.heads d) :
      Altered p (p.updateBoard (Board.setHeads d heads))
  | letter (c : CellId) (d : Direction) (r : Row) (i j : ClueId) (k n : Nat) (own crossing letter : Char)
      (inside : c ∈ p.board.columns.flatten) (crossed : Crossed p c d r i j k n own crossing)
      (filled : own ≠ blank ∧ crossing ≠ blank ∧ letter ≠ blank) (other : letter ≠ own) :
      Altered p (p.updateClue i fun clue => clue.setRow r ((clue.row r).set k letter))

/-- A puzzle that agrees with itself, in which clues and cells lead to each other and not
    to clues beside it. -/
structure Settled (p : Puzzle) : Prop where
  sound : Sound p
  clues : ∀ i ∈ p.board.clues, i < p.clues.size
  cells : ∀ c ∈ p.board.columns.flatten, c < p.cells.size
  starts : ∀ i ∈ p.board.clues, ∃ c ∈ p.board.columns.flatten, (p.clue i).cells.head? = some c
  lightCells : ∀ c ∈ p.board.lightCells, c ∈ p.board.columns.flatten
  covered : ∀ c ∈ p.board.columns.flatten, ∀ d i, ((p.cell c).slot d).clue = some i →
    i ∈ p.board.laid d ∧ c ∈ (p.clue i).cells ∧ c ∈ p.board.lightCells
  distinct : p.board.clues.Nodup
  chains : ∀ i ∈ p.board.clues, ∃ h chain, Whole p h chain ∧ i ∈ chain ∧ ∀ j ∈ chain, j ∈ p.board.clues

section
variable {p q : Puzzle} {i j h : ClueId} {c : CellId} {chain : List ClueId}

/-! ### Clues beside the board -/

theorem Puzzle.clue_beside {others : Array Clue} (inside : i < p.clues.size) : (p.beside others).clue i = p.clue i := by
  simp [Puzzle.clue,Puzzle.beside,Array.getD_eq_getD_getElem?,Array.getElem?_append,inside]

theorem Clue.row_setRow (r s : Row) (letters : Text) (c : Clue) :
    (c.setRow r letters).row s = if s = r then letters else c.row s := by
  cases r <;> cases s <;> rfl

theorem Clue.length_row_setRow {r s : Row} {letters : Text} {c : Clue} (length : letters.length = (c.row r).length) :
    ((c.setRow r letters).row s).length = (c.row s).length := by
  rw [Clue.row_setRow]
  split
  · next same => rw [same,length]
  · rfl

@[simp] theorem Clue.length_setRow (r : Row) (letters : Text) (c : Clue) : (c.setRow r letters).length = c.length := by
  cases r <;> rfl

theorem Board.laid_subset {b : Board} {d : Direction} (laid : i ∈ b.laid d) : i ∈ b.clues := by
  cases d with
  | across => exact List.mem_append_left _ laid
  | down => exact List.mem_append_right _ laid

namespace Settled
variable (settled : Settled p)
include settled

/-- No clue is laid in both directions. -/
theorem apart {d : Direction} (laid : i ∈ p.board.laid d) (laid' : j ∈ p.board.laid d.crossing) : i ≠ j := by
  have disjoint := (List.nodup_append.mp settled.distinct).2.2
  cases d with
  | across => exact disjoint i laid j laid'
  | down => exact (disjoint j laid' i laid).symm

theorem threaded : Threaded p where
  head i laid h headed := by
    obtain ⟨h',chain,whole,member,among⟩ := settled.chains i laid
    obtain rfl : h' = h := Option.some.inj ((whole.shared i member).symm.trans headed)
    exact among h' whole.head_mem
  first i laid := by
    obtain ⟨h,chain,whole,member,_⟩ := settled.chains i laid
    rw [whole.shared i member]
    constructor
    · intro none
      rcases whole.back member with ⟨rfl,_⟩ | ⟨k,_,_,back,_⟩
      · rfl
      · rw [none] at back
        cases back
    · intro same
      cases same
      exact whole.start
  previous i laid k points := by
    obtain ⟨h,chain,whole,member,among⟩ := settled.chains i laid
    rcases whole.back member with ⟨_,none⟩ | ⟨k',within,_,back,on⟩
    · rw [none] at points
      cases points
    · obtain rfl : k' = k := Option.some.inj (back.symm.trans points)
      exact ⟨among k' within,on,(whole.shared k' within).trans (whole.shared i member).symm⟩
  next i laid j points := by
    obtain ⟨h,chain,whole,member,among⟩ := settled.chains i laid
    obtain ⟨within,back⟩ := whole.onward member points
    exact ⟨among j within,back⟩

theorem start_inside (laid : i ∈ p.board.clues) (starts : (p.clue i).cells.head? = some c) :
    c ∈ p.board.columns.flatten := by
  obtain ⟨c',inside,starts'⟩ := settled.starts i laid
  obtain rfl : c' = c := Option.some.inj (starts'.symm.trans starts)
  exact inside

/-! ### Each change is found -/

theorem not_sound_lastColumn (some_column : p.board.columns ≠ []) :
    ¬ Sound (p.updateBoard fun board => { board with columns := board.columns.dropLast }) := by
  intro sound
  have before := settled.sound.width
  have after : ((p.board.columns.dropLast).length : Int) = p.board.width := sound.width
  have positive := List.length_pos_of_ne_nil some_column
  rw [List.length_dropLast] at after
  omega

theorem not_sound_lastCell {n : Nat} {column : List CellId} (found : p.board.columns[n]? = some column)
    (some_cell : column ≠ []) :
    ¬ Sound (p.updateBoard fun board => { board with columns := board.columns.modify n List.dropLast }) := by
  intro sound
  have before := settled.sound.height column (List.mem_of_getElem? found)
  have shorter : (p.board.columns.modify n List.dropLast)[n]? = some column.dropLast := by simp [found]
  have after : (column.dropLast.length : Int) = p.board.height := sound.height _ (List.mem_of_getElem? shorter)
  have positive := List.length_pos_of_ne_nil some_cell
  rw [List.length_dropLast] at after
  omega

theorem not_sound_light (inside : c ∈ p.board.columns.flatten) (uncovered : ∀ i ∈ p.board.clues, c ∉ (p.clue i).cells) :
    ¬ Sound (p.updateCell c fun cell => { cell with light := true }) := by
  intro sound
  have cell : (p.updateCell c fun cell => { cell with light := true }).cell c = { p.cell c with light := true } := by
    rw [Puzzle.cell_updateCell _ _ (settled.cells c inside),if_pos rfl]
  obtain ⟨d,lies⟩ := sound.light c inside (by rw [cell])
  rw [cell] at lies
  obtain ⟨i,lies⟩ := Option.isSome_iff_exists.mp lies
  have lies : ((p.cell c).slot d).clue = some i := by
    cases d <;> exact lies
  obtain ⟨laid,covers,_⟩ := settled.covered c inside d i lies
  exact uncovered i (Board.laid_subset laid) covers

/-- A clue whose rows no longer fit is found before a letter is looked up. -/
theorem checkRows_ne_ok {f : Clue → Clue} (laid : i ∈ p.board.clues)
    (unfit : (∃ r, (((f (p.clue i)).row r).length : Int) ≠ (f (p.clue i)).length) ∨
      ((f (p.clue i)).revealed.length : Int) ≠ (f (p.clue i)).length) : checkRows (p.updateClue i f) ≠ .ok () := by
  intro passed
  have fits := checkRows_eq_ok_iff.mp passed i laid
  rw [Puzzle.clue_updateClue _ _ (settled.clues i laid),if_pos rfl] at fits
  rcases unfit with ⟨r,row⟩ | revealed
  · exact row (fits.1 r)
  · exact revealed fits.2

theorem not_sound_cellLabel {label : Option Text} (laid : i ∈ p.board.clues) (starts : (p.clue i).cells.head? = some c)
    (other : label ≠ (p.cell c).label) : ¬ Sound (p.updateCell c fun cell => { cell with label := label }) := by
  intro sound
  have after := sound.labels i laid c starts
  rw [Puzzle.cell_updateCell _ _ (settled.cells c (settled.start_inside laid starts)),if_pos rfl] at after
  exact other (after.trans (settled.sound.labels i laid c starts).symm)

theorem not_sound_clueLabel {label : Text} (laid : i ∈ p.board.clues) (other : label ≠ (p.clue i).label) :
    ¬ Sound (p.updateClue i fun clue => { clue with label := label }) := by
  intro sound
  obtain ⟨c,_,starts⟩ := settled.starts i laid
  have clue : (p.updateClue i fun clue => { clue with label := label }).clue i = { p.clue i with label := label } := by
    rw [Puzzle.clue_updateClue _ _ (settled.clues i laid),if_pos rfl]
  have after := sound.labels i laid c (by rw [clue]; exact starts)
  rw [clue] at after
  exact other (Option.some.inj (after.symm.trans (settled.sound.labels i laid c starts)))

theorem not_sound_heads {d : Direction} {heads : List ClueId} (other : heads ≠ p.board.heads d) :
    ¬ Sound (p.updateBoard (Board.setHeads d heads)) := by
  intro sound
  have before := settled.sound.heads d
  have after := sound.heads d
  refine other ?_
  cases d with
  | across => exact after.trans before.symm
  | down => exact after.trans before.symm

theorem not_sound_letter {d : Direction} {r : Row} {k n : Nat} {own crossing letter : Char}
    (inside : c ∈ p.board.columns.flatten) (crossed : Crossed p c d r i j k n own crossing)
    (filled : own ≠ blank ∧ crossing ≠ blank ∧ letter ≠ blank) (other : letter ≠ own) :
    ¬ Sound (p.updateClue i fun clue => clue.setRow r ((clue.row r).set k letter)) := by
  intro sound
  obtain ⟨laid,_,lit⟩ := settled.covered c inside d i crossed.lies
  obtain ⟨laid',_,_⟩ := settled.covered c inside d.crossing j crossed.lies'
  have member : i ∈ p.board.clues := Board.laid_subset laid
  -- The clues of the two directions are different ones, so that only one of the letters changes.
  have apart : i ≠ j := settled.apart laid laid'
  have clue : ∀ e, (p.updateClue i fun clue => clue.setRow r ((clue.row r).set k letter)).clue e =
      if i = e then (p.clue e).setRow r (((p.clue e).row r).set k letter) else p.clue e :=
    fun e => Puzzle.clue_updateClue _ _ (settled.clues i member)
  have crossed' : Crossed (p.updateClue i fun clue => clue.setRow r ((clue.row r).set k letter)) c d r i j k n letter
      crossing :=
    { crossed with
      holds := by
        rw [clue,if_pos rfl,Clue.row_setRow,if_pos rfl]
        exact List.getElem?_set_self (List.getElem?_eq_some_iff.mp crossed.holds).1
      holds' := by
        rw [clue,if_neg apart]
        exact crossed.holds' }
  have same : own = crossing := (settled.sound.agree lit crossed).eq filled.1 filled.2.1
  have changed : letter = crossing := (sound.agree lit crossed').eq filled.2.2 filled.2.1
  exact other (changed.trans same.symm)

/-! ### Every change is found -/

theorem finds (altered : Altered p q) : ∃ finding, report q = .ok (Report.of finding) := by
  have readable := settled.sound.readable
  cases altered with
  | lastColumn some_column =>
    exact report_of_not_sound readable (settled.not_sound_lastColumn some_column)
  | lastCell n column found some_cell =>
    exact report_of_not_sound readable (settled.not_sound_lastCell found some_cell)
  | light c inside uncovered =>
    have kept := readable.updateCell (f := fun cell => { cell with light := true }) (fun cell d => by cases d <;> rfl)
      (settled.cells c inside)
    exact report_of_not_sound kept (settled.not_sound_light inside uncovered)
  | row i r letters laid other =>
    refine report_of_unfit (settled.checkRows_ne_ok laid (.inl ⟨r,?_⟩))
    rw [Clue.row_setRow,if_pos rfl,Clue.length_setRow,← settled.sound.rows i laid r]
    exact fun same => other (Int.ofNat_inj.mp same)
  | revealed i letters laid other =>
    refine report_of_unfit (settled.checkRows_ne_ok laid (.inr ?_))
    rw [← settled.sound.revealed i laid]
    exact fun same => other (Int.ofNat_inj.mp same)
  | length i length laid other =>
    refine report_of_unfit (settled.checkRows_ne_ok laid (.inr ?_))
    rw [settled.sound.revealed i laid]
    exact other.symm
  | cellLabel i c label laid starts other =>
    have kept := readable.updateCell (f := fun cell => { cell with label := label }) (fun cell d => by cases d <;> rfl)
      (settled.cells c (settled.start_inside laid starts))
    exact report_of_not_sound kept (settled.not_sound_cellLabel laid starts other)
  | clueLabel i label laid other =>
    have kept := readable.updateClue (i := i) (f := fun clue => { clue with label := label }) fun clue r => by
      cases r <;> rfl
    exact report_of_not_sound kept (settled.not_sound_clueLabel laid other)
  | link i t target laid other apart =>
    have kept := readable.updateClue (i := i) (f := relink (Links.setLead t target)) fun clue r => by
      cases r <;> rfl
    exact report_of_not_sound kept
      (settled.threaded.not_sound_setLead laid (settled.clues i laid) other apart)
  | heads d heads other =>
    have kept : Readable (p.updateBoard (Board.setHeads d heads)) :=
      readable.of_same (by cases d <;> rfl) (fun _ _ => rfl) fun _ _ => rfl
    exact report_of_not_sound kept (settled.not_sound_heads other)
  | letter c d r i j k n own crossing letter inside crossed filled other =>
    have kept := readable.updateClue (i := i) (f := fun clue => clue.setRow r ((clue.row r).set k letter)) fun clue s =>
      Clue.length_row_setRow (List.length_set ..)
    exact report_of_not_sound kept
      (settled.not_sound_letter inside crossed filled other)

/-- A puzzle is as settled with clues beside it, since nothing on its board leads to them. -/
theorem beside (others : Array Clue) : Settled (p.beside others) := by
  have clue : ∀ i ∈ p.board.clues, (p.beside others).clue i = p.clue i :=
    fun i laid => Puzzle.clue_beside (settled.clues i laid)
  have chains : ∀ i ∈ p.board.clues, ∃ h chain, Whole (p.beside others) h chain ∧ i ∈ chain ∧
      ∀ j ∈ chain, j ∈ p.board.clues := by
    intro i laid
    obtain ⟨h,chain,whole,member,among⟩ := settled.chains i laid
    exact ⟨h,chain,whole.congr fun j within => clue j (among j within),member,among⟩
  have named : ∀ c ∈ p.board.lightCells, ∀ d i, ((p.cell c).slot d).clue = some i →
      (p.beside others).clue i = p.clue i :=
    fun c lit d i lies => clue i (Board.laid_subset (settled.covered c (settled.lightCells c lit) d i lies).1)
  have sound : Sound (p.beside others) := by
    constructor
    case width => exact settled.sound.width
    case height => exact settled.sound.height
    case light => exact settled.sound.light
    case rows =>
      intro i laid r
      rw [clue i laid]
      exact settled.sound.rows i laid r
    case revealed =>
      intro i laid
      rw [clue i laid]
      exact settled.sound.revealed i laid
    case crossings =>
      intro c lit across down lies lies' r
      rw [named c lit .across across lies,named c lit .down down lies']
      exact settled.sound.crossings c lit across down lies lies' r
    case labels =>
      intro i laid c starts
      rw [clue i laid] at starts ⊢
      exact settled.sound.labels i laid c starts
    case chains =>
      intro i laid
      obtain ⟨h,chain,whole,member,_⟩ := chains i laid
      exact chains_of_whole whole member
    case heads =>
      intro d
      refine (settled.sound.heads d).trans (List.filter_congr fun i laid => ?_)
      rw [Puzzle.isHead,Puzzle.isHead,clue i (Board.laid_subset laid)]
  constructor
  case sound => exact sound
  case clues =>
    intro i laid
    have size : (p.beside others).clues.size = p.clues.size + others.size := Array.size_append
    rw [size]
    exact Nat.lt_add_right _ (settled.clues i laid)
  case cells => exact settled.cells
  case starts =>
    intro i laid
    rw [clue i laid]
    exact settled.starts i laid
  case lightCells => exact settled.lightCells
  case covered =>
    intro c inside d i lies
    have covered := settled.covered c inside d i lies
    rw [clue i (Board.laid_subset covered.1)]
    exact covered
  case distinct => exact settled.distinct
  case chains => exact chains

end Settled

theorem Built.settled {g : Ground} {across down : List ClueId} {o m : Puzzle} (built : Built g across down o m p) :
    Settled p where
  sound := built.sound
  clues i laid := by
    rw [built.clues] at laid
    exact List.mem_range.mp laid
  cells c inside := by
    rw [built.flatten_columns] at inside
    exact List.mem_range.mp inside
  starts i laid := built.starts laid
  lightCells c lit := by
    rw [built.lightCells] at lit
    exact (List.mem_filter.mp lit).1
  covered c inside d i lies := built.covered inside lies
  distinct := by
    rw [built.clues]
    exact List.nodup_range
  chains i laid := built.chain laid

/-- Take whatever a definition compiles to, with any clues beside it, and change it in one
    place. An audit of what this makes comes to an end, is not ok and has one message. -/
theorem report_altered (definition : Datum) (config : Config) (p : Puzzle)
    (compiled : (Puzzle.compile definition config).1 = .ok p) (others : Array Clue) (q : Puzzle)
    (altered : Altered (p.beside others) q) :
    ∃ r message, report q = .ok r ∧ r.ok = false ∧ r.messages = [message] := by
  obtain ⟨g,across,down,o,m,built⟩ := compile_built compiled
  obtain ⟨finding,reported⟩ := (built.settled.beside others).finds altered
  exact ⟨Report.of finding,finding.message,reported,rfl,rfl⟩

/-- What the corner compiles to. -/
def cornerPuzzle : Puzzle := (Puzzle.compile corner {}).1.toOption.getD default

theorem compile_corner : (Puzzle.compile corner {}).1 = .ok cornerPuzzle := by
  obtain ⟨p,compiled⟩ := exists_of_compiles corner {} (by decide +kernel)
  rw [cornerPuzzle,compiled]
  rfl

/-- The letter where the end of the row crosses the column is changed in the column, and
    the chain that the row begins is made to go on beside the board. -/
theorem report_altered_corner : (Puzzle.compile corner {}).1 = .ok cornerPuzzle ∧
    (∃ r message, report ((cornerPuzzle.beside #[]).updateClue 2 fun clue =>
      clue.setRow .answer ((clue.row .answer).set 0 'C')) = .ok r ∧ r.ok = false ∧ r.messages = [message]) ∧
    ∃ r message, report ((cornerPuzzle.beside #[default]).updateClue 0 (relink (Links.setLead .next (some 3)))) =
      .ok r ∧ r.ok = false ∧ r.messages = [message] := by
  refine ⟨compile_corner,?_,?_⟩
  · refine report_altered corner {} cornerPuzzle compile_corner #[] _
      (.letter 2 .down .answer 2 1 0 0 'B' 'B' 'C' ?_ ⟨?_,?_,?_,?_,?_,?_⟩ ?_ ?_)
    all_goals decide +kernel
  · refine report_altered corner {} cornerPuzzle compile_corner #[default] _ (.link 0 .next (some 3) ?_ ?_ ?_)
    · decide +kernel
    · decide +kernel
    · rintro _ j ⟨⟩ _
      decide +kernel

end

end Crossword
