import Crossword.Proofs.Construction
import Mathlib.Data.List.Forall2

/-!
The phases of a compilation, as a condition that is met exactly if it goes through
(`compile_eq_ok_iff_passes`): the header passes, the size is fit, every specification
compiles by itself, and the clues, which take their numbers in the order of the lists,
can be laid and linked. Whatever comes out has been built from those clues on a board just
opened (`Passes.built`).
-/
namespace Crossword
open Edit Placement Definition

/-- The clue runs across. -/
def Direction.isAcross : Direction → Bool
  | .across => true
  | .down => false

/-- The name that the clues of a direction stand under in a definition. -/
def Direction.cluesKey : Direction → Text
  | .across => "acrossClues".toList
  | .down => "downClues".toList

/-- The clue specifications of a direction in a definition. -/
def Definition.specsOf (d : Direction) : Datum → List Datum
  | .table entries => (clueSpecs d.cluesKey entries).toOption.getD []
  | _ => []

/-- The clues are what the specifications of a direction compile to, one by one. -/
def CompiledFrom (d : Direction) (tagEmphasis : Bool) (specs : List Datum) (clues : List Clue) : Prop :=
  List.Forall₂ (fun spec c => Clue.compile spec (.truth d.isAcross) tagEmphasis = .ok c) specs clues

/-- The puzzle with more clues under the next numbers. -/
def Puzzle.addAll (p : Puzzle) (clues : List Clue) : Puzzle := { p with clues := p.clues ++ clues.toArray }

/-- The numbers that the compiled clues of a direction take, those across first. -/
def numbersOf (made : Direction → List Clue) : Direction → List ClueId
  | .across => List.range (made .across).length
  | .down => List.range' (made .across).length (made .down).length

/-- The puzzle that placement starts from: a board just opened, and compiled clues. -/
def drafted (bounds : Bounds) (made : Direction → List Clue) : Puzzle :=
  ((Puzzle.empty.openBoard bounds).addAll (made .across)).addAll (made .down)

/-- A compilation of the entries of a definition goes through: it finds these bounds and
    makes these clues, which can be laid and linked to the puzzle `q`. -/
structure Passes (entries : List (Datum × Datum)) (config : Config) (bounds : Bounds) (made : Direction → List Clue)
    (q : Puzzle) : Prop where
  header : checkDocument entries config.requireDocument = .ok ()
  size : bounds? (Datum.lookup "width".toList entries) (Datum.lookup "height".toList entries) = some bounds
  clues : ∀ d, ∃ specs, clueSpecs d.cluesKey entries = .ok specs ∧
    CompiledFrom d config.tagEmphasis specs (made d)
  joined : ∃ r, (assemble (numbersOf made .across) (numbersOf made .down)).Gives (drafted bounds made) () r ∧
    Chain.link.Gives r () q

section
variable {p q : Puzzle} {d : Direction} {ids : List ClueId} {entries : List (Datum × Datum)} {config : Config}
  {bounds : Bounds} {made : Direction → List Clue}

/-! ### Compiling the clues -/

theorem addClue_gives_iff {spec across : Datum} {tagEmphasis : Bool} {i : ClueId} :
    (addClue spec across tagEmphasis).Gives p i q ↔
      ∃ c, Clue.compile spec across tagEmphasis = .ok c ∧ i = p.clues.size ∧ q = p.addClue c := by
  constructor
  · exact addClue_gives
  · rintro ⟨c,compiled,rfl,rfl⟩
    obtain ⟨draft,read,made⟩ := Clue.compile_eq_ok_iff.mp compiled
    simp only [addClue,gives_bind,gives_ofExcept,gives_enter,gives_read,gives_change,gives_pure]
    exact ⟨draft,p,⟨read,rfl⟩,c,p,⟨made,rfl⟩,(),p,rfl,_,p,⟨rfl,rfl⟩,(),_,rfl,rfl,rfl⟩

theorem addEach_gives_iff {tagEmphasis : Bool} {specs : List Datum} :
    (addEach d.isAcross tagEmphasis specs).Gives p ids q ↔
      ∃ clues, CompiledFrom d tagEmphasis specs clues ∧ ids = List.range' p.clues.size clues.length ∧
        q = p.addAll clues := by
  induction specs generalizing p ids q with
  | nil =>
    simp only [addEach,gives_pure,CompiledFrom,List.forall₂_nil_left_iff,exists_eq_left,Puzzle.addAll]
    constructor
    · rintro ⟨rfl,rfl⟩
      exact ⟨rfl,by simp⟩
    · rintro ⟨rfl,rfl⟩
      exact ⟨rfl,by simp⟩
  | cons spec rest ih =>
    simp only [addEach,gives_bind,gives_pure,addClue_gives_iff,ih]
    constructor
    · rintro ⟨_,_,⟨c,compiled,rfl,rfl⟩,_,_,⟨clues,later,rfl,rfl⟩,rfl,rfl⟩
      refine ⟨c :: clues,.cons compiled later,?_,?_⟩
      · simp [Puzzle.addClue,List.range'_succ]
      · simp [Puzzle.addClue,Puzzle.addAll]
    · rintro ⟨clues,compiled,rfl,rfl⟩
      obtain ⟨c,clues,first,later,rfl⟩ := List.forall₂_cons_left_iff.mp compiled
      refine ⟨_,_,⟨c,first,rfl,rfl⟩,_,_,⟨clues,later,rfl,rfl⟩,?_,?_⟩
      · simp [Puzzle.addClue,List.range'_succ]
      · simp [Puzzle.addClue,Puzzle.addAll]

theorem addClues_gives_iff {tagEmphasis : Bool} :
    (addClues d.cluesKey d.isAcross entries tagEmphasis).Gives p ids q ↔
      ∃ clues, (∃ specs, clueSpecs d.cluesKey entries = .ok specs ∧ CompiledFrom d tagEmphasis specs clues) ∧
        ids = List.range' p.clues.size clues.length ∧ q = p.addAll clues := by
  simp only [addClues,gives_bind,gives_ofExcept,addEach_gives_iff]
  constructor
  · rintro ⟨specs,_,⟨found,rfl⟩,clues,compiled,numbers,added⟩
    exact ⟨clues,⟨specs,found,compiled⟩,numbers,added⟩
  · rintro ⟨clues,⟨specs,found,compiled⟩,numbers,added⟩
    exact ⟨specs,p,⟨found,rfl⟩,clues,compiled,numbers,added⟩

theorem openBoard_gives_iff {width height : Datum} {value : Unit} : (openBoard width height).Gives p value q ↔
    ∃ bounds, bounds? width height = some bounds ∧ q = p.openBoard bounds := by
  unfold openBoard
  cases bounds? width height with
  | none => simp
  | some bounds => simp [eq_comm]

/-! ### The whole -/

/-- The audit in the end changes nothing, so only the steps before it count. -/
theorem run_compileEntries_unaudited (entries : List (Datum × Datum)) (config : Config) (p : Puzzle) :
    (compileEntries entries config).run p = (compileEntries entries { config with verify := false }).run p := by
  obtain ⟨tagEmphasis,requireDocument,verify⟩ := config
  cases verify with
  | false => rfl
  | true => exact compileEntries_verify entries ⟨tagEmphasis,requireDocument,true⟩ p

theorem run_compile_unaudited (definition : Datum) (config : Config) (p : Puzzle) :
    (Definition.compile definition config).run p = (Definition.compile definition { config with verify := false }).run p := by
  cases definition with
  | table entries => exact run_compileEntries_unaudited entries config p
  | _ => rfl

theorem compileEntries_gives_iff :
    (compileEntries entries config).Gives Puzzle.empty () q ↔ ∃ bounds made, Passes entries config bounds made q := by
  rw [Gives,run_compileEntries_unaudited,← Gives]
  simp only [compileEntries,gives_bind,prepare_gives_iff,openBoard_gives_iff,Bool.false_eq_true,if_false,gives_read,
    gives_enter]
  constructor
  · rintro ⟨⟨_,_⟩,_,⟨header,_,_,⟨bounds,size,rfl⟩,first,second⟩,_,r,assembled,_,_,linked,_,_,⟨_,rfl⟩,rfl⟩
    obtain ⟨across,found,rfl,rfl⟩ := addClues_gives_iff (d := .across).mp first
    obtain ⟨down,found',rfl,rfl⟩ := addClues_gives_iff (d := .down).mp second
    refine ⟨bounds,fun | .across => across | .down => down,header,size,?_,r,?_,linked⟩
    · intro d
      cases d with
      | across => exact found
      | down => exact found'
    · simpa [numbersOf,drafted,Puzzle.addAll,Puzzle.openBoard,Puzzle.empty,List.range_eq_range'] using assembled
  · rintro ⟨bounds,made,header,size,clues,r,assembled,linked⟩
    have first := addClues_gives_iff (d := .across) (p := Puzzle.empty.openBoard bounds).mpr ⟨_,clues .across,rfl,rfl⟩
    have second := addClues_gives_iff (d := .down) (p := (Puzzle.empty.openBoard bounds).addAll (made .across)).mpr
      ⟨_,clues .down,rfl,rfl⟩
    refine ⟨(_,_),_,⟨header,_,_,⟨bounds,size,rfl⟩,first,second⟩,(),r,?_,(),q,linked,_,q,⟨rfl,rfl⟩,rfl⟩
    simpa [numbersOf,drafted,Puzzle.addAll,Puzzle.openBoard,Puzzle.empty,List.range_eq_range'] using assembled

theorem compile_eq_ok_iff_passes {definition : Datum} : (Puzzle.compile definition config).1 = .ok q ↔
    ∃ entries, definition = .table entries ∧ ∃ bounds made, Passes entries config bounds made q := by
  rw [compile_eq_ok_iff]
  simp only [← compileEntries_gives_iff]
  cases definition <;> simp [Definition.compile]

/-! ### The clues that were made -/

theorem clue_drafted (bounds : Bounds) (made : Direction → List Clue) (i : ClueId) :
    (drafted bounds made).clue i = ((made .across ++ made .down)[i]?).getD default := by
  simp [drafted,Puzzle.addAll,Puzzle.openBoard,Puzzle.empty,Puzzle.clue,Array.getD_eq_getD_getElem?]

theorem map_clue_numbersOf (bounds : Bounds) (made : Direction → List Clue) (d : Direction) :
    (numbersOf made d).map (drafted bounds made).clue = made d := by
  refine List.ext_getElem? fun k => ?_
  cases d with
  | across =>
    by_cases short : k < (made .across).length
    · simp [numbersOf,clue_drafted,short,List.getElem?_append_left]
    · simp [numbersOf,short]
  | down =>
    by_cases short : k < (made .down).length
    · simp [numbersOf,clue_drafted,short]
    · simp [numbersOf,short]

theorem numbersOf_across_down (made : Direction → List Clue) :
    numbersOf made .across ++ numbersOf made .down = List.range ((made .across).length + (made .down).length) := by
  rw [numbersOf,numbersOf,List.range_eq_range',List.range_eq_range',← List.range'_append_1,Nat.zero_add]

theorem added_addAll {tagEmphasis : Bool} {specs : List Datum} {clues : List Clue}
    (compiled : CompiledFrom d tagEmphasis specs clues) :
    Added p (List.range' p.clues.size clues.length) (p.addAll clues) :=
  addEach_gives (addEach_gives_iff.mpr ⟨clues,compiled,rfl,rfl⟩)

/-- Compiled clues can be laid on a board just opened, whatever its size. -/
theorem drafted_ready {tagEmphasis : Bool} (columns rows : Nat)
    (compiled : ∀ d, ∃ specs, CompiledFrom d tagEmphasis specs (made d)) :
    Ground.Opened ⟨0,columns,rows⟩ (drafted ⟨columns,rows⟩ made) ∧
      FreshRun (drafted ⟨columns,rows⟩ made) (acrossThenDown (numbersOf made .across) (numbersOf made .down)) := by
  obtain ⟨_,across⟩ := compiled .across
  obtain ⟨_,down⟩ := compiled .down
  have first := added_addAll (p := Puzzle.empty.openBoard ⟨columns,rows⟩) across
  have second := added_addAll (p := (Puzzle.empty.openBoard ⟨columns,rows⟩).addAll (made .across)) down
  refine ⟨((Ground.opened_openBoard Puzzle.empty columns rows).added first).added second,?_⟩
  have run := freshRun_added first second
  simpa [numbersOf,drafted,Puzzle.addAll,Puzzle.openBoard,Puzzle.empty,List.range_eq_range'] using run

theorem bounds?_eq_some {width height : Datum} (fit : bounds? width height = some bounds) :
    ∃ columns rows : Nat, bounds = ⟨columns,rows⟩ := by
  unfold bounds? at fit
  split at fit
  · split at fit
    · next w h _ =>
      obtain ⟨columns,rfl⟩ := Int.eq_ofNat_of_zero_le (by assumption : 0 ≤ w ∧ 0 ≤ h).1
      obtain ⟨rows,rfl⟩ := Int.eq_ofNat_of_zero_le (by assumption : (0 : Int) ≤ columns ∧ 0 ≤ h).2
      cases fit
      exact ⟨columns,rows,rfl⟩
    · cases fit
  · cases fit

/-- What comes out of a compilation has been built from the clues made in it. -/
theorem Passes.built (passes : Passes entries config bounds made q) :
    ∃ g p, Built g (numbersOf made .across) (numbersOf made .down) (drafted bounds made) p q := by
  obtain ⟨columns,rows,rfl⟩ := bounds?_eq_some passes.size
  obtain ⟨r,assembled,linked⟩ := passes.joined
  obtain ⟨p,laid,rfl⟩ := assemble_gives_iff.mp assembled
  obtain ⟨opened,run⟩ := drafted_ready columns rows fun d => (passes.clues d).imp fun _ found => found.2
  refine ⟨_,p,?_,?_,?_,?_,?_,run,run.placed opened laid,linked⟩
  · rfl
  · simp [drafted,Puzzle.addAll,Puzzle.openBoard,Puzzle.empty,Ground.length_freshCells]
  · simp [numbersOf]
  · simp [numbersOf]
  · simp [drafted,numbersOf,Puzzle.addAll,Puzzle.openBoard,Puzzle.empty]

theorem Passes.laid (passes : Passes entries config bounds made q) (d : Direction) : q.board.laid d = numbersOf made d := by
  obtain ⟨g,p,built⟩ := passes.built
  rw [built.board]
  cases d <;> rfl

/-- Beside answers, cells and links the clues are as they were made. -/
theorem Passes.outlines (passes : Passes entries config bounds made q) (d : Direction) :
    (q.board.laid d).map (fun i => (q.clue i).outline) = (made d).map Clue.outline := by
  obtain ⟨g,p,built⟩ := passes.built
  rw [passes.laid,← map_clue_numbersOf bounds made d,List.map_map]
  exact List.map_congr_left fun i _ => built.outline i

end

end Crossword
