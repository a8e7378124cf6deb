import Crossword.Definition
import Crossword.Proofs.Agreement

/-!
From a definition to the clues on a board. Opening a board and compiling the clues
leaves a board without clues and a list of different clues, each as its specification
compiles to (`Added`, `freshRun_added`): what placement starts from.
-/
namespace Crossword
open Edit Definition

/-- Compiled clues have been added under the next numbers, and nothing else has
    changed. -/
structure Added (p : Puzzle) (ids : List ClueId) (q : Puzzle) : Prop where
  board : q.board = p.board
  cells : q.cells = p.cells
  numbers : ids = List.range' p.clues.size ids.length
  size : q.clues.size = p.clues.size + ids.length
  before : ∀ i, i < p.clues.size → q.clue i = p.clue i
  fresh : ∀ i ∈ ids, (q.clue i).Fresh

section
variable {p q r : Puzzle} {g : Ground} {ids more : List ClueId} {i : ClueId} {c : Clue}

theorem clue_addClue_before (inside : i < p.clues.size) : (p.addClue c).clue i = p.clue i := by
  simp [Puzzle.clue,Puzzle.addClue,Array.getD_eq_getD_getElem?,Array.getElem?_push,Nat.ne_of_lt inside]

theorem clue_addClue_new : (p.addClue c).clue p.clues.size = c := by
  simp [Puzzle.clue,Puzzle.addClue]

/-! ### Adding clues -/

theorem addClue_gives {spec across : Datum} {tagEmphasis : Bool}
    (gives : (addClue spec across tagEmphasis).Gives p i q) :
    ∃ c, Clue.compile spec across tagEmphasis = .ok c ∧ i = p.clues.size ∧ q = p.addClue c := by
  simp only [addClue,gives_bind,gives_ofExcept,gives_enter,gives_read,gives_change,gives_pure] at gives
  obtain ⟨draft,_,⟨read,rfl⟩,c,_,⟨made,rfl⟩,_,_,rfl,_,_,⟨rfl,rfl⟩,_,_,rfl,rfl,rfl⟩ := gives
  exact ⟨c,Clue.compile_eq_ok_iff.mpr ⟨draft,read,made⟩,rfl,rfl⟩

theorem addEach_gives {across tagEmphasis : Bool} {specs : List Datum}
    (gives : (addEach across tagEmphasis specs).Gives p ids q) : Added p ids q := by
  induction specs generalizing p ids with
  | nil =>
    simp only [addEach,gives_pure] at gives
    obtain ⟨rfl,rfl⟩ := gives
    exact ⟨rfl,rfl,rfl,rfl,fun _ _ => rfl,fun i member => by cases member⟩
  | cons spec rest ih =>
    simp only [addEach,gives_bind,gives_pure] at gives
    obtain ⟨i,m,first,more,_,later,rfl,rfl⟩ := gives
    obtain ⟨c,compiled,rfl,rfl⟩ := addClue_gives first
    -- The clues of the rest take later numbers, so that this one stays as it was added.
    have added := ih later
    have size : (p.addClue c).clues.size = p.clues.size + 1 := by simp [Puzzle.addClue]
    constructor
    case board => exact added.board
    case cells => exact added.cells
    case numbers =>
      have numbers := added.numbers
      rw [size] at numbers
      rw [List.length_cons,List.range'_succ,← numbers]
    case size =>
      rw [added.size,size,List.length_cons]
      omega
    case before =>
      intro j inside
      rw [added.before j (by omega),clue_addClue_before inside]
    case fresh =>
      intro j member
      rcases List.mem_cons.mp member with rfl | behind
      · rw [added.before _ (by omega),clue_addClue_new]
        exact ⟨spec,_,tagEmphasis,compiled⟩
      · exact added.fresh j behind

theorem addClues_gives {key : Text} {across tagEmphasis : Bool} {entries : List (Datum × Datum)}
    (gives : (addClues key across entries tagEmphasis).Gives p ids q) : Added p ids q := by
  simp only [addClues,gives_bind,gives_ofExcept] at gives
  obtain ⟨specs,_,⟨_,rfl⟩,added⟩ := gives
  exact addEach_gives added

/-! ### What placement starts from -/

theorem Ground.Opened.added (opened : g.Opened p) (added : Added p ids q) : g.Opened q where
  board := added.board.trans opened.board
  room := by
    rw [added.cells]
    exact opened.room
  dark place inside := by
    rw [Puzzle.cell,added.cells]
    exact opened.dark place inside

theorem openBoard_gives {width height : Datum} (gives : (openBoard width height).Gives p () q) :
    ∃ columns rows : Nat, p.openBoard ⟨columns,rows⟩ = q := by
  unfold openBoard at gives
  split at gives
  · next bounds found =>
    have sides : 0 ≤ bounds.width ∧ 0 ≤ bounds.height := by
      unfold bounds? at found
      split at found
      · split at found
        · next sides =>
          cases found
          exact sides
        · cases found
      · cases found
    have natural : bounds = ⟨(bounds.width.toNat : Int),(bounds.height.toNat : Int)⟩ := by
      cases bounds
      simp only [Bounds.mk.injEq]
      simp only at sides
      omega
    rw [gives_change,natural] at gives
    exact ⟨bounds.width.toNat,bounds.height.toNat,gives⟩
  · exact absurd gives not_gives_stop

theorem clues_acrossThenDown (across down : List ClueId) :
    (acrossThenDown across down).map (·.clue) = across ++ down := by
  simp [acrossThenDown,Function.comp_def]

theorem freshRun_added {across down : List ClueId} (first : Added p across q) (second : Added q down r) :
    FreshRun r (acrossThenDown across down) := by
  have ids : across ++ down = List.range' p.clues.size (across.length + down.length) := by
    rw [← List.range'_append_1,← first.numbers,← first.size,← second.numbers]
  have inside : ∀ i : Nat, i ∈ across ++ down → i < r.clues.size := by
    intro i member
    have size := first.size
    have size' := second.size
    rw [ids,List.mem_range'_1] at member
    omega
  have inside' : ∀ i : Nat, i ∈ across → i < q.clues.size := by
    intro i member
    have size := first.size
    rw [first.numbers,List.mem_range'_1] at member
    omega
  have member : ∀ l ∈ acrossThenDown across down, l.clue ∈ across ++ down := by
    intro l member
    rw [← clues_acrossThenDown]
    exact List.mem_map_of_mem member
  refine ⟨?_,fun l laid => inside _ (member l laid),fun l laid => ?_⟩
  · rw [clues_acrossThenDown,ids]
    exact List.nodup_range'
  · rcases List.mem_append.mp (member l laid) with earlier | later
    · rw [second.before _ (inside' _ earlier)]
      exact first.fresh _ earlier
    · exact second.fresh _ later

theorem prepare_gives_iff {entries : List (Datum × Datum)} {config : Config} {clues : List ClueId × List ClueId} :
    (prepare entries config).Gives p clues q ↔ checkDocument entries config.requireDocument = .ok () ∧ ∃ p₁ p₂,
      (openBoard (Datum.lookup "width".toList entries) (Datum.lookup "height".toList entries)).Gives p () p₁ ∧
        (addClues "acrossClues".toList true entries config.tagEmphasis).Gives p₁ clues.1 p₂ ∧
          (addClues "downClues".toList false entries config.tagEmphasis).Gives p₂ clues.2 q := by
  simp only [prepare,gives_bind,gives_ofExcept,gives_pure]
  constructor
  · rintro ⟨_,_,⟨header,rfl⟩,_,p₁,opens,across,p₂,first,down,_,second,rfl,rfl⟩
    exact ⟨header,p₁,p₂,opens,first,second⟩
  · rintro ⟨header,p₁,p₂,opens,first,second⟩
    exact ⟨(),p,⟨header,rfl⟩,(),p₁,opens,clues.1,p₂,first,clues.2,q,second,rfl,rfl⟩

/-- What has been prepared is a board just opened, with the clues across and then those down
    added. -/
theorem prepare_added {entries : List (Datum × Datum)} {config : Config} {clues : List ClueId × List ClueId}
    (prepared : (prepare entries config).Gives p clues q) :
    ∃ (columns rows : Nat) (r : Puzzle), Added (p.openBoard ⟨columns,rows⟩) clues.1 r ∧ Added r clues.2 q := by
  obtain ⟨_,_,_,opens,first,second⟩ := prepare_gives_iff.mp prepared
  obtain ⟨columns,rows,rfl⟩ := openBoard_gives opens
  exact ⟨columns,rows,_,addClues_gives first,addClues_gives second⟩

/-- Once a board is open and the clues are compiled, these can be laid on a board that is
    still as it was opened. -/
theorem freshRun_of_prepare {entries : List (Datum × Datum)} {config : Config} {clues : List ClueId × List ClueId}
    (prepared : (prepare entries config).Gives p clues q) :
    ∃ g, Ground.Opened g q ∧ FreshRun q (acrossThenDown clues.1 clues.2) := by
  obtain ⟨columns,rows,_,first,second⟩ := prepare_added prepared
  have opened := Ground.opened_openBoard p columns rows
  exact ⟨_,(opened.added first).added second,freshRun_added first second⟩

end

end Crossword
