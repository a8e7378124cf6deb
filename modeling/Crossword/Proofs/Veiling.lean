import Crossword.Definition
import Crossword.Proofs.Letter

/-!
Puzzles under a veil. A veil rewrites the texts of clues, and it may also blank out what
the setter keeps secret: solutions and revealed letters of clues, and solutions of cells. No
step of laying and linking looks at a text, so that under a veil on texts alone every step does
what it does without (`Follows`). Solutions are compared where clues share a cell; under a veil
that blanks them out nothing clashes there, so that a step follows if the one without the veil
goes through.
-/
namespace Crossword
open Edit Placement

/-- What is done to texts, and whether the setter's secrets are blanked out. -/
structure Veil where
  text : Text → Text
  secrets : Bool

namespace Veil

/-- A row of secret letters under the veil. -/
def row (v : Veil) (letters : Text) : Text := if v.secrets then letters.map fun _ => blank else letters

/-- The clue under the veil. -/
def clue (v : Veil) (c : Clue) : Clue :=
  { c with text := v.text c.text, solution := v.row c.solution, revealed := v.row c.revealed }

/-- The cell under the veil. -/
def cell (v : Veil) (c : Cell) : Cell := { c with solution := if v.secrets then [blank] else c.solution }

/-- The puzzle with all clues and cells under the veil. -/
def puzzle (v : Veil) (p : Puzzle) : Puzzle := { p with clues := p.clues.map v.clue, cells := p.cells.map v.cell }

/-- The outcome with the puzzle under the veil. -/
def outcome {α : Type} (v : Veil) (o : Outcome α) : Outcome α := { o with puzzle := v.puzzle o.puzzle }

/-- The outcome is that of an edit which the veil does not affect: no secrets are blanked out,
    or nothing has stopped. -/
def Clear {α : Type} (v : Veil) (o : Outcome α) : Prop := v.secrets = true → ∃ a, o.result = .ok a

/-- Under the veil the second edit does what the first does without. -/
def Follows {α : Type} (v : Veil) (e e' : Edit α) : Prop :=
  ∀ p, v.Clear (e.run p) → e'.run (v.puzzle p) = v.outcome (e.run p)

section
variable {α β : Type} {v : Veil} {p : Puzzle} {i : ClueId} {c : CellId} {d : Direction} {k : Nat}

/-! ### What the veil leaves -/

/-- What looks neither at the text of a clue nor at the secrets sees the same. -/
theorem kept_clue (f : Clue → α) (blind : ∀ c, f (v.clue c) = f c) (i : ClueId) :
    f ((v.puzzle p).clue i) = f (p.clue i) := by
  simp only [Puzzle.clue,puzzle,Array.getD_eq_getD_getElem?,Array.getElem?_map]
  cases p.clues[i]? with
  | none => rfl
  | some c => exact blind c

theorem kept_cell (f : Cell → α) (blind : ∀ c, f (v.cell c) = f c) (c : CellId) :
    f ((v.puzzle p).cell c) = f (p.cell c) := by
  simp only [Puzzle.cell,puzzle,Array.getD_eq_getD_getElem?,Array.getElem?_map]
  cases p.cells[c]? with
  | none => rfl
  | some cell => exact blind cell

theorem updateClue_puzzle {f : Clue → Clue} (commutes : ∀ c, f (v.clue c) = v.clue (f c)) :
    (v.puzzle p).updateClue i f = v.puzzle (p.updateClue i f) := by
  simp only [Puzzle.updateClue,puzzle,Puzzle.mk.injEq,and_true]
  refine Array.ext (by simp) fun n short short' => ?_
  simp only [Array.getElem_modify,Array.getElem_map]
  split
  · exact commutes _
  · rfl

theorem updateCell_puzzle {f g : Cell → Cell} (commutes : ∀ c, g (v.cell c) = v.cell (f c)) :
    (v.puzzle p).updateCell c g = v.puzzle (p.updateCell c f) := by
  simp only [Puzzle.updateCell,puzzle,Puzzle.mk.injEq,and_true,true_and]
  refine Array.ext (by simp) fun n short short' => ?_
  simp only [Array.getElem_modify,Array.getElem_map]
  split
  · exact commutes _
  · rfl

/-! ### Steps -/

theorem follows_pure {a : α} : v.Follows (pure a) (pure a) := fun _ _ => rfl

theorem follows_change {f g : Puzzle → Puzzle} (commutes : ∀ p, g (v.puzzle p) = v.puzzle (f p)) :
    v.Follows (change f) (change g) := by
  intro p _
  rw [run_change,run_change,commutes]
  rfl

theorem follows_enter {level : Level} {message : String} : v.Follows (enter level message) (enter level message) :=
  fun _ _ => rfl

theorem follows_stop {fault : Fault} : v.Follows (stop fault : Edit α) (stop fault) := fun _ _ => rfl

theorem follows_judge {ε : Type} {cause : ε → Fault} {f : Puzzle → Except ε α}
    (same : ∀ p, f (v.puzzle p) = f p) : v.Follows (judge cause f) (judge cause f) := by
  intro p _
  cases found : f p with
  | ok a => rw [run_judge_ok found,run_judge_ok ((same p).trans found)]; rfl
  | error fault => rw [run_judge_error found,run_judge_error ((same p).trans found)]; rfl

theorem follows_bind {e e' : Edit α} {next next' : α → Edit β} (first : v.Follows e e')
    (later : ∀ a, v.Follows (next a) (next' a)) : v.Follows (e >>= next) (e' >>= next') := by
  intro p clear
  cases result : (e.run p).result with
  | error fault =>
    rw [run_bind_error result] at clear ⊢
    have own := first p fun hidden => absurd (clear hidden) (by simp)
    have result' : (e'.run (v.puzzle p)).result = .error fault := by rw [own]; exact result
    rw [run_bind_error result',own]
    rfl
  | ok a =>
    rw [run_bind_ok result] at clear ⊢
    have own := first p fun _ => ⟨a,result⟩
    have result' : (e'.run (v.puzzle p)).result = .ok a := by rw [own]; exact result
    have puzzle' : (e'.run (v.puzzle p)).puzzle = v.puzzle (e.run p).puzzle := by rw [own]; rfl
    rw [run_bind_ok result',puzzle',later a _ clear,own]
    rfl

/-- A step that looks at the puzzle and goes on in one way or another. -/
theorem follows_read_bind {f f' : Puzzle → α} {next next' : α → Edit β}
    (later : ∀ p, v.Follows (next (f p)) (next' (f' (v.puzzle p)))) :
    v.Follows (read f >>= next) (read f' >>= next') := by
  intro p clear
  rw [run_read_bind] at clear ⊢
  rw [run_read_bind]
  exact later p p clear

theorem follows_forM {each each' : α → Edit Unit} {items : List α}
    (step : ∀ item, v.Follows (each item) (each' item)) : v.Follows (items.forM each) (items.forM each') := by
  induction items with
  | nil => exact follows_pure
  | cons item rest ih => exact follows_bind (step item) fun _ => ih

theorem Follows.gives {e e' : Edit α} {q : Puzzle} {a : α} (follows : v.Follows e e') (gives : e.Gives p a q) :
    e'.Gives (v.puzzle p) a (v.puzzle q) := by
  obtain ⟨result,rfl⟩ := gives
  rw [Gives,follows p fun _ => ⟨a,result⟩]
  exact ⟨result,rfl⟩

/-! ### Laying a letter -/

theorem follows_attach : v.Follows (attach d i k c) (attach d i k c) := by
  refine follows_bind (follows_change fun p => updateCell_puzzle fun _ => rfl) fun _ => ?_
  refine follows_bind (follows_judge fun p => kept_clue (fun clue => terminator clue k) (fun _ => rfl) i) fun mark => ?_
  refine follows_change fun p => ?_
  have slot : ∀ f cell, (v.cell cell).updateSlot d f = v.cell (cell.updateSlot d f) := fun f cell => by cases d <;> rfl
  rw [updateCell_puzzle (slot _)]
  exact updateClue_puzzle fun _ => rfl

theorem answer_clue (j : ClueId) : ((v.puzzle p).clue j).row .answer = (p.clue j).row .answer :=
  kept_clue (fun clue => clue.row .answer) (fun _ => rfl) j

theorem answer_cell : ((v.puzzle p).cell c).row .answer = (p.cell c).row .answer :=
  kept_cell (fun cell => cell.row .answer) (fun _ => rfl) c

theorem id_clue (j : ClueId) : ((v.puzzle p).clue j).id = (p.clue j).id :=
  kept_clue Clue.id (fun _ => rfl) j

theorem x_cell : ((v.puzzle p).cell c).x = (p.cell c).x := kept_cell Cell.x (fun _ => rfl) c

theorem y_cell : ((v.puzzle p).cell c).y = (p.cell c).y := kept_cell Cell.y (fun _ => rfl) c

theorem letterFor_answer (previous : Option ClueId) :
    letterFor .answer i k c previous (v.puzzle p) = letterFor .answer i k c previous p := by
  simp only [letterFor,conflict,answer_clue,answer_cell,id_clue,x_cell,y_cell]

theorem follows_writeAnswer {previous : Option ClueId} :
    v.Follows (writeLetter .answer i k c previous) (writeLetter .answer i k c previous) := by
  refine follows_bind (follows_judge fun p => letterFor_answer previous) fun found => ?_
  cases found with
  | none => exact follows_pure
  | some letter =>
    exact follows_bind (follows_change fun p => updateCell_puzzle fun _ => rfl) fun _ => follows_pure

theorem follows_fillAnswer {position : Int} : v.Follows (fillAnswer i position c) (fillAnswer i position c) := by
  refine follows_bind (follows_judge fun p => ?_) fun answer => follows_change fun p => updateClue_puzzle fun _ => rfl
  have own : ((v.puzzle p).clue i).answer = (p.clue i).answer := answer_clue i
  have shown : ((v.puzzle p).cell c).answer = (p.cell c).answer := answer_cell
  rw [own,shown]

theorem follows_passOn : v.Follows (passOn d c) (passOn d c) := by
  refine follows_read_bind fun p => ?_
  rw [kept_cell (fun cell => cell.slot d) (fun _ => by cases d <;> rfl) c]
  split
  · exact follows_fillAnswer
  · exact follows_pure

theorem follows_takeOver : v.Follows (takeOver i k c) (takeOver i k c) := by
  refine follows_read_bind fun p => ?_
  rw [kept_cell Cell.answer (fun _ => rfl) c]
  split
  · exact follows_pure
  · exact follows_fillAnswer

theorem follows_layAnswer {previous : Option ClueId} :
    v.Follows (layAnswer d i k c previous) (layAnswer d i k c previous) := by
  refine follows_bind follows_writeAnswer fun written => ?_
  cases written with
  | true => exact follows_passOn
  | false => exact follows_takeOver

/-! ### Solutions -/

/-- Writes a letter without saying whether there was one to write. -/
def writeOnly (r : Row) (i : ClueId) (k : Nat) (c : CellId) (previous : Option ClueId) : Edit Unit := do
  let _ ← writeLetter r i k c previous
  pure ()

theorem run_writeOnly {r : Row} {previous : Option ClueId} {found : Option Char}
    (fits : letterFor r i k c previous p = .ok found) : (writeOnly r i k c previous).run p =
      ⟨.ok (),found.elim p fun letter => p.updateCell c fun cell => cell.setRow r [letter],[]⟩ := by
  have judged : (judge id (letterFor r i k c previous)).run p = _ := run_judge_ok fits
  have wrote : (writeLetter r i k c previous).run p = ⟨.ok found.isSome,
      found.elim p fun letter => p.updateCell c fun cell => cell.setRow r [letter],[]⟩ := by
    rw [writeLetter,run_bind_ok (congrArg Outcome.result judged),judged]
    cases found <;> rfl
  rw [writeOnly,run_bind_ok (congrArg Outcome.result wrote),wrote]
  rfl

theorem run_writeOnly_error {r : Row} {previous : Option ClueId} {fault : Fault}
    (clash : letterFor r i k c previous p = .error fault) :
    ((writeOnly r i k c previous).run p).result = .error fault := by
  have judged : (judge id (letterFor r i k c previous)).run p = _ := run_judge_error clash
  have stopped : ((writeLetter r i k c previous).run p).result = .error fault := by
    rw [writeLetter,run_bind_error (congrArg Outcome.result judged)]
    rfl
  rw [writeOnly,run_bind_error stopped]

theorem letterFor_solution (open_ : v.secrets = false) (previous : Option ClueId) :
    letterFor .solution i k c previous (v.puzzle p) = letterFor .solution i k c previous p := by
  have own : ∀ j, ((v.puzzle p).clue j).row .solution = (p.clue j).row .solution :=
    kept_clue (fun clue => clue.row .solution) fun _ => by simp [clue,Clue.row,row,open_]
  have shown : ((v.puzzle p).cell c).row .solution = (p.cell c).row .solution :=
    kept_cell (fun cell => cell.row .solution) (fun _ => by simp [cell,Cell.row,open_]) c
  simp only [letterFor,conflict,own,shown,id_clue,x_cell,y_cell]

theorem solution_clue (hidden : v.secrets = true) (i : ClueId) :
    ((v.puzzle p).clue i).solution = (p.clue i).solution.map fun _ => blank := by
  simp only [Puzzle.clue,puzzle,Array.getD_eq_getD_getElem?,Array.getElem?_map]
  cases p.clues[i]? with
  | none => rfl
  | some c => simp [clue,row,hidden]

/-- The solution of a clue is written under the veil as well, or has been blanked out; what it
    is written into looks the same under the veil. -/
theorem follows_writeSolution {previous : Option ClueId} :
    v.Follows (writeOnly .solution i k c previous) (writeOnly .solution i k c previous) := by
  cases hidden : v.secrets with
  | false =>
    refine follows_bind (follows_bind (follows_judge fun p => letterFor_solution hidden previous) fun found => ?_)
      fun _ => follows_pure
    cases found with
    | none => exact follows_pure
    | some letter =>
      refine follows_bind (follows_change fun p => updateCell_puzzle fun _ => ?_) fun _ => follows_pure
      simp [cell,Cell.setRow,hidden]
  | true =>
    intro p clear
    cases fits : letterFor .solution i k c previous p with
    | error fault =>
      obtain ⟨_,ok⟩ := clear hidden
      rw [run_writeOnly_error fits] at ok
      cases ok
    | ok found =>
      -- Under the veil there is a blank at the position, which is not written.
      have blanked : letterFor .solution i k c previous (v.puzzle p) = .ok none := by
        have own : ((v.puzzle p).clue i).row .solution = _ := solution_clue hidden i
        simp only [letterFor,own,List.getElem?_map]
        simp only [letterFor,Clue.row] at fits
        cases letter : (p.clue i).solution[k]? with
        | none => simp [letter] at fits
        | some letter => simp
      rw [run_writeOnly fits,run_writeOnly blanked]
      cases found with
      | none => rfl
      | some letter =>
        have same : v.puzzle (p.updateCell c fun cell => cell.setRow .solution [letter]) = v.puzzle p := by
          rw [← updateCell_puzzle (g := id) fun _ => by simp [cell,Cell.setRow,hidden]]
          exact Puzzle.updateCell_self rfl
        exact congrArg (fun q => (⟨.ok (),q,[]⟩ : Outcome Unit)) same.symm

theorem layRest_eq (previous : Option ClueId) : layRest i k c previous = (do
    writeOnly .solution i k c previous
    if k = 0 then setLabel i c previous else pure ()) := by
  rw [writeOnly,andThen_assoc]
  rfl

theorem follows_setLabel {previous : Option ClueId} : v.Follows (setLabel i c previous) (setLabel i c previous) := by
  refine follows_bind (follows_judge fun p => ?_) fun label => follows_change fun p => updateCell_puzzle fun _ => rfl
  have own : ((v.puzzle p).clue i).label = (p.clue i).label := kept_clue Clue.label (fun _ => rfl) i
  have shown : ((v.puzzle p).cell c).label = (p.cell c).label := kept_cell Cell.label (fun _ => rfl) c
  simp only [labelFor,own,shown,id_clue]

theorem follows_layRest {previous : Option ClueId} : v.Follows (layRest i k c previous) (layRest i k c previous) := by
  rw [layRest_eq]
  refine follows_bind follows_writeSolution fun _ => ?_
  split
  · exact follows_setLabel
  · exact follows_pure

/-! ### Laying clues -/

theorem follows_layLetter : v.Follows (layLetter d i k) (layLetter d i k) := by
  rw [layLetter_eq]
  refine follows_bind (follows_judge fun p => ?_) fun c => follows_read_bind fun p => ?_
  · have spot : ((v.puzzle p).clue i).spot d k = (p.clue i).spot d k :=
      kept_clue (fun clue => clue.spot d k) (fun _ => by cases d <;> rfl) i
    simp only [cellFor,spot]
    rfl
  · rw [kept_cell (fun cell => cell.occupant d) (fun _ => by cases d <;> rfl) c]
    exact follows_bind follows_attach fun _ => follows_bind follows_layAnswer fun _ => follows_layRest

theorem follows_layLetters {more : Nat} : v.Follows (layLetters d i k more) (layLetters d i k more) := by
  induction more generalizing k with
  | zero => exact follows_pure
  | succ more ih => exact follows_bind follows_layLetter fun _ => ih

theorem follows_place : v.Follows (place d i) (place d i) := by
  refine follows_bind (follows_judge fun p => ?_) fun _ => ?_
  · exact kept_clue (fun clue => checkBounds p.board.bounds clue d) (fun _ => by cases d <;> rfl) i
  refine follows_bind (follows_change fun p => rfl) fun _ => follows_read_bind fun p => ?_
  rw [kept_clue Clue.length (fun _ => rfl) i]
  refine follows_bind follows_layLetters fun _ => follows_read_bind fun p => ?_
  have x : ((v.puzzle p).clue i).x = (p.clue i).x := kept_clue Clue.x (fun _ => rfl) i
  have y : ((v.puzzle p).clue i).y = (p.clue i).y := kept_clue Clue.y (fun _ => rfl) i
  have length : ((v.puzzle p).clue i).length = (p.clue i).length := kept_clue Clue.length (fun _ => rfl) i
  rw [id_clue,x,y,length]
  exact follows_enter

theorem follows_assemble {across down : List ClueId} : v.Follows (assemble across down) (assemble across down) := by
  refine follows_bind (follows_forM fun _ => follows_place) fun _ => ?_
  refine follows_bind (follows_forM fun _ => follows_place) fun _ => ?_
  refine follows_bind (follows_change fun p => ?_) fun _ => follows_read_bind fun p => follows_enter
  have lit : litCells (v.puzzle p) = litCells p := by
    simp only [litCells,kept_cell Cell.light fun _ => rfl]
    rfl
  rw [lit]
  rfl

/-! ### Linking -/

section
open Chain
variable {h : ClueId} {chain : List ClueId}

theorem links_clue (j : ClueId) : ((v.puzzle p).clue j).links = (p.clue j).links :=
  kept_clue Clue.links (fun _ => rfl) j

theorem references_clue (j : ClueId) : ((v.puzzle p).clue j).references = (p.clue j).references :=
  kept_clue Clue.references (fun _ => rfl) j

theorem isHead_puzzle (j : ClueId) : (v.puzzle p).isHead j = p.isHead j := by
  rw [Puzzle.isHead,Puzzle.isHead,links_clue]

theorem gather_puzzle (references : List Reference) :
    gather (v.puzzle p) h chain references = gather p h chain references := by
  have number : ∀ j, ((v.puzzle p).clue j).number = (p.clue j).number := kept_clue Clue.number fun _ => rfl
  have resolve : ∀ r, (v.puzzle p).resolve? r = p.resolve? r := by
    intro r
    simp only [Puzzle.resolve?,number]
    rfl
  induction references generalizing chain with
  | nil => rfl
  | cons reference rest ih =>
    simp only [gather,resolve,isTaken,isHead_puzzle,links_clue,id_clue,ih]
    rfl

theorem updateClue_relink (f : Links → Links) (j : ClueId) :
    (v.puzzle p).updateClue j (relink f) = v.puzzle (p.updateClue j (relink f)) :=
  updateClue_puzzle fun _ => rfl

theorem tie_puzzle (previous : Option ClueId) :
    tie h previous chain (v.puzzle p) = v.puzzle (tie h previous chain p) := by
  induction chain generalizing previous p with
  | nil => rfl
  | cons i rest ih => rw [tie,tie,updateClue_relink,ih]

theorem summary_puzzle : summary (v.puzzle p) chain = summary p chain := by
  have cells : ∀ j, ((v.puzzle p).clue j).cells = (p.clue j).cells := kept_clue Clue.cells fun _ => rfl
  have words : ∀ j, ((v.puzzle p).clue j).wordLengths = (p.clue j).wordLengths :=
    kept_clue Clue.wordLengths fun _ => rfl
  have label : ∀ j, ((v.puzzle p).clue j).label = (p.clue j).label := kept_clue Clue.label fun _ => rfl
  funext links
  simp only [summary,cells,words,label]

theorem join_puzzle : join h chain (v.puzzle p) = v.puzzle (join h chain p) := by
  have follows : ∀ (ids : List ClueId) (q : Puzzle),
      ids.foldl (fun r i => r.updateClue i (relink follow)) (v.puzzle q) =
        v.puzzle (ids.foldl (fun r i => r.updateClue i (relink follow)) q) := by
    intro ids
    induction ids with
    | nil => exact fun _ => rfl
    | cons i rest ih =>
      intro q
      rw [List.foldl_cons,List.foldl_cons,updateClue_relink,ih]
  simp only [join,tie_puzzle,summary_puzzle,updateClue_relink,follows]

theorem follows_linkChain : v.Follows (linkChain h) (linkChain h) := by
  refine follows_bind (follows_judge fun p => ?_) fun chain => ?_
  · rw [references_clue,gather_puzzle]
  · refine follows_bind (follows_change fun p => join_puzzle) fun _ => follows_read_bind fun p => ?_
    simp only [id_eq,id_clue]
    exact follows_enter

theorem follows_linkClue : v.Follows (linkClue h) (linkClue h) := by
  refine follows_read_bind fun p => ?_
  simp only [id_eq,references_clue,isHead_puzzle,id_clue,links_clue]
  split
  · exact follows_pure
  · split
    · exact follows_stop
    · exact follows_linkChain

theorem follows_link : v.Follows link link := by
  refine follows_read_bind fun p => ?_
  refine follows_bind (follows_forM fun i => follows_change fun p => updateClue_puzzle fun _ => rfl) fun _ => ?_
  refine follows_bind (follows_forM fun _ => follows_linkClue) fun _ => follows_change fun p => ?_
  have heads : (v.puzzle p).isHead = p.isHead := funext isHead_puzzle
  simp only [noteHeads,heads]
  rfl

end

end

end Veil

end Crossword
