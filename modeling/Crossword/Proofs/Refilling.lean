import Crossword.Proofs.Apart
import Crossword.Proofs.Normalisation
import Crossword.Proofs.Phases
import Crossword.Proofs.Reading
import Crossword.Proofs.Showing

/-!
Compiling a definition again with what came out of it filled in. Letters that a clue had
taken over from the clues that cross it are then there from the start, and the run takes other
branches; but where no two clues of one direction share a cell the letters that strokes agree
on are the same, and they settle everything (`Refilled.laid_again`). So a compiled puzzle comes
out once more (`compile_filledIn`).
-/
namespace Crossword
open Edit Placement Definition

/-! ### Tables -/

namespace Datum

/-- The entries with what stands under a name changed. -/
def revise (name : Text) (f : Datum → Datum) : List (Datum × Datum) → List (Datum × Datum)
  | [] => []
  | (key,value) :: rest => if key.isText name then (key,f value) :: rest else (key,value) :: revise name f rest

/-- The entries with a value under a name, in place of what stands there or else at the end. -/
def put (name : Text) (value : Datum) (entries : List (Datum × Datum)) : List (Datum × Datum) :=
  if (lookup? name entries).isSome then revise name (fun _ => value) entries else entries ++ [(.text name,value)]

section
variable {name other : Text} {f : Datum → Datum} {value : Datum} {entries : List (Datum × Datum)}

theorem not_isText_of_ne {key : Datum} (differ : other ≠ name) (named : key.isText name = true) :
    key.isText other = false := by
  cases key with
  | text t =>
    simp only [isText,beq_iff_eq] at named
    simpa [isText,named] using differ.symm
  | _ => rfl

theorem lookup?_revise_self : lookup? name (revise name f entries) = (lookup? name entries).map f := by
  induction entries with
  | nil => rfl
  | cons entry rest ih =>
    obtain ⟨key,value⟩ := entry
    by_cases named : key.isText name = true
    · simp only [revise,lookup?,named,if_true,Option.map_some]
    · simp only [revise,lookup?,named,if_false,ih,Bool.false_eq_true]

theorem lookup?_revise_of_ne (differ : other ≠ name) :
    lookup? other (revise name f entries) = lookup? other entries := by
  induction entries with
  | nil => rfl
  | cons entry rest ih =>
    obtain ⟨key,value⟩ := entry
    by_cases named : key.isText name = true
    · simp only [revise,lookup?,named,if_true,not_isText_of_ne differ named,Bool.false_eq_true,if_false]
    · simp only [revise,lookup?,named,if_false,ih,Bool.false_eq_true]

theorem keys_revise : (revise name f entries).map (·.1) = entries.map (·.1) := by
  induction entries with
  | nil => rfl
  | cons entry rest ih =>
    obtain ⟨key,value⟩ := entry
    by_cases named : key.isText name = true
    · simp only [revise,named,if_true,List.map_cons]
    · simp only [revise,named,if_false,List.map_cons,ih,Bool.false_eq_true]

theorem lookup?_append (front back : List (Datum × Datum)) :
    lookup? name (front ++ back) = (lookup? name front).or (lookup? name back) := by
  induction front with
  | nil => rfl
  | cons entry rest ih =>
    obtain ⟨key,value⟩ := entry
    by_cases named : key.isText name = true
    · simp only [List.cons_append,lookup?,named,if_true,Option.some_or]
    · simp only [List.cons_append,lookup?,named,if_false,ih,Bool.false_eq_true]

theorem lookup?_put_self : lookup? name (put name value entries) = some value := by
  unfold put
  split
  · next found =>
    obtain ⟨old,found⟩ := Option.isSome_iff_exists.mp found
    rw [lookup?_revise_self,found,Option.map_some]
  · next missing =>
    rw [lookup?_append,Option.not_isSome_iff_eq_none.mp missing]
    simp [lookup?,isText]

theorem lookup?_put_of_ne (differ : other ≠ name) : lookup? other (put name value entries) = lookup? other entries := by
  unfold put
  split
  · exact lookup?_revise_of_ne differ
  · rw [lookup?_append]
    simp [lookup?,isText,differ.symm]

theorem mem_keys_put {key : Datum} (member : key ∈ (put name value entries).map (·.1)) :
    key ∈ entries.map (·.1) ∨ key = .text name := by
  unfold put at member
  split at member
  · rw [keys_revise] at member
    exact .inl member
  · simpa using member

end

end Datum

/-- The specification with the letters of a clue filled in: its answer and its solution. -/
def fillSpec (c : Clue) : Datum → Datum
  | .table entries =>
    .table <| Datum.put ClueField.solution.name (.text c.solution) <| Datum.put ClueField.answer.name (.text c.answer) entries
  | other => other

namespace Puzzle

/-- The clue specifications of a direction with the clues of the puzzle filled in, one by
    one. -/
def fillSpecs (p : Puzzle) (d : Direction) (specs : List Datum) : List Datum :=
  List.zipWith (fun spec i => fillSpec (p.clue i) spec) specs (p.board.laid d)

/-- A list of clue specifications with the clues of the puzzle filled in. -/
def fillList (p : Puzzle) (d : Direction) : Datum → Datum
  | .list items => .list (p.fillSpecs d items)
  | .tuple items => .tuple (p.fillSpecs d items)
  | other => other

/-- The entries of a definition with the clues of the puzzle filled in. -/
def fillEntries (p : Puzzle) (entries : List (Datum × Datum)) : List (Datum × Datum) :=
  Datum.revise (Direction.cluesKey .down) (p.fillList .down) <|
    Datum.revise (Direction.cluesKey .across) (p.fillList .across) entries

/-- The definition with the clues of the puzzle filled in. -/
def filledIn (p : Puzzle) : Datum → Datum
  | .table entries => .table (p.fillEntries entries)
  | other => other

end Puzzle

/-! ### Filled specifications -/

section
variable {spec : Datum} {c last : Clue} {b tagEmphasis : Bool}

theorem ClueSpec.Reads.filled {entries : List (Datum × Datum)} {s : ClueSpec} (reads : ClueSpec.Reads entries s)
    (answer solution : Text) :
    ClueSpec.Reads (Datum.put ClueField.solution.name (.text solution) (Datum.put ClueField.answer.name (.text answer) entries))
      { s with answer := some answer, solution := some solution } := by
  have kept : ∀ field : ClueField, field.name ≠ ClueField.solution.name → field.name ≠ ClueField.answer.name →
      Datum.lookup? field.name (Datum.put ClueField.solution.name (.text solution)
        (Datum.put ClueField.answer.name (.text answer) entries)) = Datum.lookup? field.name entries := by
    intro field apart apart'
    rw [Datum.lookup?_put_of_ne apart,Datum.lookup?_put_of_ne apart']
  constructor
  case x => exact (kept .x (by decide) (by decide)).trans reads.x
  case y => exact (kept .y (by decide) (by decide)).trans reads.y
  case clue => exact (kept .clue (by decide) (by decide)).trans reads.clue
  case answer => rw [Datum.lookup?_put_of_ne (by decide),Datum.lookup?_put_self]; rfl
  case solution => rw [Datum.lookup?_put_self]; rfl
  case revealed => exact (kept .revealed (by decide) (by decide)).trans reads.revealed
  case expected =>
    intro key member
    rcases Datum.mem_keys_put member with member | rfl
    · rcases Datum.mem_keys_put member with member | rfl
      · exact reads.expected key member
      · exact ⟨.answer,rfl⟩
    · exact ⟨.solution,rfl⟩

/-- A clue compiled from a specification with its solution and other answer letters filled in
    has these answer letters, and is the same otherwise. -/
theorem compile_fillSpec (compiled : Clue.compile spec (.truth b) tagEmphasis = .ok c)
    (solution : last.solution = c.solution) (length : last.answer.length = c.answer.length)
    (writable : ∀ a ∈ last.answer, Writable a) :
    Clue.compile (fillSpec last spec) (.truth b) tagEmphasis = .ok { c with answer := last.answer } := by
  obtain ⟨draft,read,made⟩ := Clue.compile_eq_ok_iff.mp compiled
  obtain ⟨fits,fits',room,rfl⟩ := Draft.clue_eq_ok_iff.mp made
  obtain ⟨reads,words⟩ := Draft.read_eq_ok_iff.mp read
  obtain ⟨entries,rfl,fields,direction⟩ := ClueSpec.read_eq_ok_iff.mp reads
  have again : solutionLetters (some last.solution) = solutionLetters draft.spec.solution := by
    rw [solution]
    exact solutionLetters_orBlanks draft.spec.solution draft.length
  have row : answerRow (some last.answer) draft.length = last.answer := by
    have own : (draft.length : Int) = last.answer.length := by
      rw [length]
      exact congrArg Nat.cast (length_answerRow _ _).symm
    rw [own]
    exact answerRow_of_writable writable
  let given : ClueSpec := { draft.spec with answer := some last.answer, solution := some last.solution }
  refine Clue.compile_eq_ok_iff.mpr ⟨⟨given,draft.wording⟩,?_,Draft.clue_eq_ok_iff.mpr ⟨?_,fits',room,?_⟩⟩
  · exact Draft.read_eq_ok_iff.mpr ⟨ClueSpec.read_eq_ok_iff.mpr ⟨_,rfl,fields.filled _ _,direction⟩,words⟩
  · show draft.fits (solutionLetters (some last.solution)) = true
    rw [again]
    exact fits
  · show ({ draft.clueWith tagEmphasis with
        answer := answerRow (some last.answer) draft.length
        solution := Draft.orBlanks (solutionLetters (some last.solution)) draft.length } : Clue) = _
    rw [row,again]
    rfl

end

/-! ### Laying once more -/

/-- The puzzle `o'` before the first stroke is `o` with the answers of `p` filled in. -/
structure Refilled (o p o' : Puzzle) : Prop where
  board : o'.board = o.board
  cells : o'.cells = o.cells
  size : o'.clues.size = o.clues.size
  clue : ∀ i, o'.clue i = { o.clue i with answer := (p.clue i).answer }

section
variable {g : Ground} {o o' p p' : Puzzle} {trail : List Stroke} {s : Stroke} {steps : List Laying} {place : Place}

namespace Refilled
variable (refilled : Refilled o p o')
include refilled

theorem sameOutlines : SameOutlines o' o := by
  intro i
  rw [refilled.clue]
  rfl

theorem opened (opened : g.Opened o) : g.Opened o' where
  board := refilled.board.trans opened.board
  room := by
    rw [refilled.cells]
    exact opened.room
  dark place inside := by
    rw [Puzzle.cell_congr refilled.cells]
    exact opened.dark place inside

theorem written_answer (s : Stroke) : s.written o' .answer = s.written p .answer := by
  simp only [Stroke.written,refilled.clue]
  rfl

theorem written_solution (s : Stroke) : s.written o' .solution = s.written o .solution := by
  simp only [Stroke.written,refilled.clue]
  rfl

theorem latest (d : Direction) (place : Place) : latest o' trail d place = latest o trail d place := by
  simp only [Crossword.latest,refilled.sameOutlines.place]

theorem current (current : Current o trail) : Current o' trail := by
  intro s member
  rw [refilled.latest,refilled.sameOutlines.place]
  exact current s member

/-- A cell that the trail has marked is marked by it with the answers filled in as well. -/
theorem marked (laid : Laid g o trail p) (current : Current o trail) (inside : g.Inside place) :
    Marked o' trail place (p.cell (g.cellOn place)) := by
  have marked := laid.marked place inside
  have label : ∀ i, (o'.clue i).label = (o.clue i).label := refilled.sameOutlines.kept Clue.label fun _ => rfl
  constructor
  case x => exact marked.x
  case y => exact marked.y
  case light => simpa only [refilled.sameOutlines.place] using marked.light
  case slot => simpa only [refilled.sameOutlines.slotOf] using marked.slot
  case label =>
    refine ⟨?_,?_⟩
    · simpa only [refilled.sameOutlines.place,label] using marked.label.all
    · simpa only [refilled.sameOutlines.place,label] using marked.label.source
  case row =>
    intro r
    obtain ⟨letter,shown,holds⟩ := marked.row r
    refine ⟨letter,shown,?_⟩
    cases r with
    | solution =>
      refine ⟨?_,?_⟩
      · simpa only [refilled.sameOutlines.place,refilled.written_solution] using holds.all
      · simpa only [refilled.sameOutlines.place,refilled.written_solution] using holds.source
    | answer =>
      -- The letters filled in are the one that the cell shows.
      have same : ∀ s ∈ trail, s.place o = place → s.written o' .answer = letter := by
        rintro s member rfl
        have answer := laid.answer_eq current member
        rw [refilled.written_answer]
        exact List.singleton_inj.mp (answer.symm.trans shown)
      simp only [← refilled.sameOutlines.place] at same
      refine ⟨fun s member on => .inr (same s member on),holds.source.imp_right ?_⟩
      rintro ⟨s,member,on,_⟩
      rw [← refilled.sameOutlines.place] at on
      exact ⟨s,member,on,same s member on⟩

theorem trail_eq : strokesOf o' steps = strokesOf o steps :=
  congrFun refilled.sameOutlines.strokesOf steps

/-- The clues of a run can be laid with their answers filled in. -/
theorem consistent (placed : Placed g o steps p) (run' : FreshRun o' steps)
    (current : Current o (strokesOf o steps).reverse) : Consistent g o' steps := by
  refine consistent_of_marked (fun l member => Clue.fit_of_fresh (run'.fresh l member)) ?_ fun place inside => ?_
  · intro s stroke
    rw [refilled.trail_eq] at stroke
    rw [refilled.sameOutlines.place]
    exact placed.laid.drawn.inside (List.mem_reverse.mpr stroke)
  · rw [refilled.trail_eq]
    exact ⟨_,refilled.marked placed.laid current inside⟩

section
variable (placed : Placed g o steps p) (placed' : Placed g o' steps p') (run : FreshRun o steps) (run' : FreshRun o' steps)
  (current : Current o (strokesOf o steps).reverse) (first : g.first = 0) (room : o.cells.size = g.width * g.height)
include placed placed'

theorem size_cells_again : p'.cells.size = p.cells.size := by
  rw [placed'.laid.room,placed.laid.room,refilled.cells]

theorem clueCells_again (i : ClueId) : (p'.clue i).cells = (p.clue i).cells := by
  rw [placed'.laid.clue,placed.laid.clue,refilled.trail_eq,refilled.sameOutlines.cellsOf,refilled.clue]

include current first room

/-- Every cell ends as before, since the strokes on it agree on what it ended as. -/
theorem cell_again (c : Nat) : p'.cell c = p.cell c := by
  by_cases inside : c < p.cells.size
  · have numbered : c ∈ g.columns.flatten := by
      rw [g.flatten_columns,first,List.mem_range'_1]
      rw [placed.laid.room,room] at inside
      omega
    obtain ⟨place,on,rfl⟩ := Ground.mem_columns.mp numbered
    have marked := refilled.marked placed.laid current on
    rw [← refilled.trail_eq] at marked
    exact (placed'.laid.marked place on).unique marked
  · have outside := inside
    rw [← refilled.size_cells_again placed placed'] at outside
    rw [Puzzle.cell_outside inside,Puzzle.cell_outside outside]

include run run'

theorem answer_again (i : ClueId) : (p'.clue i).answer = (p.clue i).answer := by
  by_cases laid : ∃ l ∈ steps, l.clue = i
  · obtain ⟨l,member,rfl⟩ := laid
    have current' : Current o' (strokesOf o' steps).reverse := by
      rw [refilled.trail_eq]
      exact refilled.current current
    rw [placed'.answer_eq_spelled run' current' member,placed.answer_eq_spelled run current member]
    simp only [Puzzle.spelled,refilled.clueCells_again placed placed',
      refilled.cell_again placed placed' current first room]
  · -- A clue that is not laid keeps the answer that has been filled in.
    refine List.ext_getElem? fun k => ?_
    rw [placed'.laid.waiting i k ?_,refilled.clue]
    intro s stroke same
    obtain ⟨l,member,stroke⟩ := mem_strokesOf.mp (List.mem_reverse.mp stroke)
    exact absurd ⟨l,member,(mem_strokes.mp stroke).2.1.symm.trans same⟩ laid

theorem eq_again : p' = p := by
  have laid : ∀ d, p'.board.laid d = p.board.laid d := fun d => by rw [placed'.clues,placed.clues]
  have across : p'.board.across = p.board.across := laid .across
  have down : p'.board.down = p.board.down := laid .down
  apply Puzzle.ext_of_clue
  · rw [placed'.laid.known,placed.laid.known,refilled.size]
  · intro i
    rw [placed'.laid.clue,refilled.answer_again placed placed' run run' current first room,refilled.trail_eq,
      refilled.sameOutlines.cellsOf,refilled.clue,placed.laid.clue i]
  · exact Puzzle.cells_ext (refilled.size_cells_again placed placed') (refilled.cell_again placed placed' current first room)
  · rw [placed'.laid.board,across,down,refilled.board]
    exact placed.laid.board.symm

end

/-- The clues of a run with their answers filled in can be laid in the same way and leave the
    same puzzle. -/
theorem laid_again (placed : Placed g o steps p) (run : FreshRun o steps) (run' : FreshRun o' steps)
    (current : Current o (strokesOf o steps).reverse) (first : g.first = 0) (room : o.cells.size = g.width * g.height) :
    (layAll steps).Gives o' () p := by
  have opened := refilled.opened placed.laid.opened
  obtain ⟨q,gives⟩ := (layAll_ok_iff opened run').mpr (refilled.consistent placed run' current)
  have placed' : Placed g o' steps q := run'.placed opened gives
  rw [← refilled.eq_again placed placed' run run' current first room]
  exact gives

end Refilled

/-! ### Compiling once more -/

theorem Clue.Fresh.writable {c : Clue} (fresh : c.Fresh) : ∀ a ∈ c.answer, Writable a := by
  obtain ⟨spec,across,tagEmphasis,compiled⟩ := fresh
  obtain ⟨draft,_,made⟩ := Clue.compile_eq_ok_iff.mp compiled
  obtain ⟨_,_,_,rfl⟩ := Draft.clue_eq_ok_iff.mp made
  exact writable_answerRow _ _

/-- Laid clues have letters and blanks for answers, as compiled ones do. -/
theorem Placed.writable {l : Laying} (placed : Placed g o steps p) (run : FreshRun o steps) (member : l ∈ steps) :
    ∀ a ∈ (p.clue l.clue).answer, Writable a := by
  intro a holds
  obtain ⟨k,short,rfl⟩ := List.getElem_of_mem holds
  have fit := Clue.fit_of_fresh (run.fresh l member)
  have stroke : (⟨l.direction,l.clue,k⟩ : Stroke) ∈ l.strokes o := by
    have compiled := fit.row_length .answer
    rw [placed.laid.length] at short
    simp only [Clue.row] at compiled
    exact mem_strokes.mpr ⟨rfl,rfl,by simp only; omega⟩
  have stroke := List.mem_reverse.mpr (mem_strokesOf.mpr ⟨l,member,stroke⟩)
  have written : (⟨l.direction,l.clue,k⟩ : Stroke).written p .answer = (p.clue l.clue).answer[k] := by
    simp [Stroke.written,Clue.row,short]
  rw [← written]
  rcases (placed.laid.answered _ stroke).agrees with none | shown
  · rw [none]
    exact writable_blank
  · obtain ⟨letter,shown',found⟩ := (placed.laid.marked _ (placed.laid.drawn.inside stroke)).row .answer
    rw [List.singleton_inj.mp (shown.symm.trans shown')]
    rcases found.source with none | ⟨t,stroke',_,same⟩
    · rw [none]
      exact writable_blank
    · -- The letter in the cell comes from a clue that was compiled with it.
      obtain ⟨m,member',stroke'⟩ := mem_strokesOf.mp (List.mem_reverse.mp stroke')
      rw [← same,Stroke.written]
      cases given : ((o.clue t.clue).row .answer)[t.letter]? with
      | none => exact writable_blank
      | some b =>
        refine (run.fresh m member').writable b (List.mem_of_getElem? (i := t.letter) ?_)
        rw [← (mem_strokes.mp stroke').2.1]
        exact given

theorem Built.answer_eq {across down : List ClueId} {q : Puzzle} (built : Built g across down o p q) (i : ClueId) :
    (q.clue i).answer = (p.clue i).answer :=
  (congrArg Clue.answer (built.only.same.clue i) :)

theorem Built.cells_eq {across down : List ClueId} {q : Puzzle} (built : Built g across down o p q) (i : ClueId) :
    (q.clue i).cells = (p.clue i).cells :=
  (congrArg Clue.cells (built.only.same.clue i) :)

theorem Built.apart {across down : List ClueId} {q : Puzzle} (built : Built g across down o p q) (apart : q.Apart) :
    p.Apart := by
  intro d i one j other differ
  have laid : q.board.laid d = p.board.laid d := by
    rw [built.only.same.laid]
    cases d <;> rfl
  rw [← laid] at one other
  rw [← built.cells_eq i,← built.cells_eq j]
  exact apart d i one j other differ

/-! ### A definition filled in -/

/-- Specifications with the clues that came of them filled in compile to the same clues with
    the answers filled in. -/
theorem compiledFrom_fillSpecs {d : Direction} {tagEmphasis : Bool} {specs : List Datum} {ids : List ClueId} {q : Puzzle}
    (compiled : CompiledFrom d tagEmphasis specs (ids.map o.clue))
    (solution : ∀ i ∈ ids, (q.clue i).solution = (o.clue i).solution)
    (length : ∀ i ∈ ids, (q.clue i).answer.length = (o.clue i).answer.length)
    (writable : ∀ i ∈ ids, ∀ a ∈ (q.clue i).answer, Writable a) :
    CompiledFrom d tagEmphasis (List.zipWith (fun spec i => fillSpec (q.clue i) spec) specs ids)
      (ids.map fun i => { o.clue i with answer := (q.clue i).answer }) := by
  induction ids generalizing specs with
  | nil => simp [CompiledFrom]
  | cons i rest ih =>
    obtain ⟨spec,specs,now,later,rfl⟩ := List.forall₂_cons_right_iff.mp compiled
    simp only [List.forall_mem_cons] at solution length writable
    exact .cons (compile_fillSpec now solution.1 length.1 writable.1) (ih later solution.2 length.2 writable.2)

theorem lookup_fillEntries (q : Puzzle) (d : Direction) (entries : List (Datum × Datum)) :
    Datum.lookup d.cluesKey (q.fillEntries entries) = q.fillList d (Datum.lookup d.cluesKey entries) := by
  simp only [Datum.lookup,Puzzle.fillEntries]
  cases d with
  | across =>
    rw [Datum.lookup?_revise_of_ne (by decide),Datum.lookup?_revise_self]
    cases Datum.lookup? (Direction.cluesKey .across) entries <;> rfl
  | down =>
    rw [Datum.lookup?_revise_self,Datum.lookup?_revise_of_ne (by decide)]
    cases Datum.lookup? (Direction.cluesKey .down) entries <;> rfl

/-- What does not stand under the name of a list of clues stays. -/
theorem lookup_fillEntries_of_ne (q : Puzzle) (name : Text) (entries : List (Datum × Datum))
    (apart : ∀ d, name ≠ Direction.cluesKey d) :
    Datum.lookup name (q.fillEntries entries) = Datum.lookup name entries := by
  rw [Datum.lookup,Puzzle.fillEntries,Datum.lookup?_revise_of_ne (apart .down),
    Datum.lookup?_revise_of_ne (apart .across),Datum.lookup]

theorem clueSpecs_fillEntries {q : Puzzle} {d : Direction} {entries : List (Datum × Datum)} {specs : List Datum}
    (found : clueSpecs d.cluesKey entries = .ok specs) :
    clueSpecs d.cluesKey (q.fillEntries entries) = .ok (q.fillSpecs d specs) := by
  unfold clueSpecs at found ⊢
  rw [lookup_fillEntries]
  split at found
  · next none =>
    cases found
    rw [none]
    rfl
  · next list =>
    cases found
    rw [list]
    rfl
  · next tuple =>
    cases found
    rw [tuple]
    rfl
  · cases found

/-- The compiled clues of a direction with the answers that a puzzle gives them. -/
def refill (bounds : Bounds) (made : Direction → List Clue) (q : Puzzle) (d : Direction) : List Clue :=
  (numbersOf made d).map fun i => { (drafted bounds made).clue i with answer := (q.clue i).answer }

theorem numbersOf_refill (bounds : Bounds) (made : Direction → List Clue) (q : Puzzle) :
    numbersOf (refill bounds made q) = numbersOf made := by
  funext d
  cases d <;> simp [numbersOf,refill]

theorem refilled_drafted {bounds : Bounds} {made : Direction → List Clue} {q : Puzzle}
    (size : q.clues.size = (drafted bounds made).clues.size) :
    Refilled (drafted bounds made) q (drafted bounds (refill bounds made q)) where
  board := rfl
  cells := rfl
  size := by simp [drafted,refill,numbersOf,Puzzle.addAll,Puzzle.openBoard,Puzzle.empty]
  clue i := by
    have all : refill bounds made q .across ++ refill bounds made q .down =
        (List.range ((made .across).length + (made .down).length)).map fun i =>
          { (drafted bounds made).clue i with answer := (q.clue i).answer } := by
      rw [refill,refill,← List.map_append,numbersOf_across_down]
    have total : (drafted bounds made).clues.size = (made .across).length + (made .down).length := by
      simp [drafted,Puzzle.addAll,Puzzle.openBoard,Puzzle.empty]
    rw [clue_drafted,all]
    by_cases known : i < (made .across).length + (made .down).length
    · simp [known]
    · rw [Puzzle.clue_outside (p := drafted bounds made) (total ▸ known),Puzzle.clue_outside (p := q) (size ▸ total ▸ known),
        List.getElem?_eq_none (by simpa using known)]
      rfl

namespace Passes
variable {entries : List (Datum × Datum)} {config : Config} {bounds : Bounds} {made : Direction → List Clue} {q : Puzzle}
  (passes : Passes entries config bounds made q)
include passes

/-- Filled-in specifications compile to the clues that have their answers filled in. -/
theorem clues_filled (d : Direction) : ∃ specs, clueSpecs d.cluesKey (q.fillEntries entries) = .ok specs ∧
    CompiledFrom d config.tagEmphasis specs (refill bounds made q d) := by
  obtain ⟨specs,found,compiled⟩ := passes.clues d
  obtain ⟨g,m,built⟩ := passes.built
  refine ⟨q.fillSpecs d specs,clueSpecs_fillEntries found,?_⟩
  rw [← map_clue_numbersOf bounds made d] at compiled
  rw [Puzzle.fillSpecs,passes.laid]
  apply compiledFrom_fillSpecs compiled
  · intro i member
    exact (congrArg Clue.solution (built.outline i) :)
  · intro i member
    rw [built.answer_eq,built.placed.laid.length]
  · intro i member
    rw [← passes.laid] at member
    have all : i ∈ q.board.clues := by
      cases d with
      | across => exact List.mem_append_left _ member
      | down => exact List.mem_append_right _ member
    obtain ⟨l,step,rfl⟩ := built.mem_clues.mp all
    rw [built.answer_eq]
    exact built.placed.writable built.run step

/-- A compilation with what came out of it filled in goes through and makes the same puzzle. -/
theorem filled (apart : q.Apart) : Passes (q.fillEntries entries) config bounds (refill bounds made q) q := by
  obtain ⟨g,m,built⟩ := passes.built
  have current := built.placed.current built.run (built.apart apart)
  have laid : (layAll (acrossThenDown (numbersOf made .across) (numbersOf made .down))).Gives
      (drafted bounds (refill bounds made q)) () m := by
    obtain ⟨columns,rows,rfl⟩ := bounds?_eq_some passes.size
    have answers : refill ⟨columns,rows⟩ made q = refill ⟨columns,rows⟩ made m := by
      funext d
      simp only [refill,built.answer_eq]
    have run := (drafted_ready columns rows fun d => (passes.clues_filled d).imp fun _ found => found.2).2
    rw [numbersOf_refill] at run
    rw [answers] at run ⊢
    exact (refilled_drafted built.placed.laid.known).laid_again built.placed built.run run current built.first built.room
  have other : ∀ name : Text, (∀ d, name ≠ Direction.cluesKey d) →
      Datum.lookup name (q.fillEntries entries) = Datum.lookup name entries :=
    fun name => lookup_fillEntries_of_ne q name entries
  constructor
  case header =>
    rw [← passes.header,checkDocument,checkDocument,other "document".toList (fun d => by cases d <;> decide)]
  case size =>
    rw [← passes.size,other "width".toList (fun d => by cases d <;> decide),
      other "height".toList (fun d => by cases d <;> decide)]
  case clues => exact passes.clues_filled
  case joined =>
    rw [numbersOf_refill]
    exact ⟨noteLight m,assemble_gives_iff.mpr ⟨m,laid,rfl⟩,built.linked⟩

theorem answer_eq_spelled (apart : q.Apart) {i : ClueId} (member : i ∈ q.board.clues) : (q.clue i).answer = q.spelled i := by
  obtain ⟨g,m,built⟩ := passes.built
  have current := built.placed.current built.run (built.apart apart)
  obtain ⟨l,step,rfl⟩ := built.mem_clues.mp member
  rw [built.answer_eq,built.placed.answer_eq_spelled built.run current step]
  simp only [Puzzle.spelled,built.cells_eq,built.cell]

end Passes

/-- A definition that has compiled to a puzzle where no two clues of one direction share a
    cell compiles to the same puzzle once more after answers and solutions have been filled
    in from it. In such a puzzle the answer of a clue is what its cells spell. -/
theorem compile_filledIn (definition : Datum) (config : Config) (p : Puzzle)
    (compiled : (Puzzle.compile definition config).1 = .ok p) (apart : p.Apart) :
    (Puzzle.compile (p.filledIn definition) config).1 = .ok p ∧
      ∀ i ∈ p.board.clues, (p.clue i).answer = p.spelled i := by
  obtain ⟨entries,rfl,bounds,made,passes⟩ := compile_eq_ok_iff_passes.mp compiled
  exact ⟨compile_eq_ok_iff_passes.mpr ⟨_,rfl,bounds,_,passes.filled apart⟩,fun i => passes.answer_eq_spelled apart⟩

/-- A clue across and one down that takes its first letter over from it. -/
def bend : Datum :=
  .table [(.text "width".toList,.whole 2),(.text "height".toList,.whole 2),
    (.text "acrossClues".toList,.list [specification 1 1 "1. Row (2)" "ab"]),
    (.text "downClues".toList,.list [specification 2 1 "2. Column (2)" ""])]

theorem compile_filledIn_bend : ∃ p, (Puzzle.compile bend {}).1 = .ok p ∧ p.Apart ∧
    (Puzzle.compile (p.filledIn bend) {}).1 = .ok p := by
  obtain ⟨p,compiled⟩ := exists_of_compiles bend {} (by decide +kernel)
  have single : ∀ d, (Puzzle.compile bend {}).1.toOption.map (fun p => (p.board.laid d).length) = some 1 := by
    intro d
    cases d <;> decide +kernel
  rw [compiled] at single
  have apart : p.Apart := apart_of_length_le fun d => Nat.le_of_eq (Option.some.inj (single d))
  exact ⟨p,compiled,apart,(compile_filledIn bend {} p compiled apart).1⟩

end

end Crossword
