import Crossword.Proofs.Chains
import Crossword.Proofs.Compilation
import Crossword.Proofs.Walking

/-!
A compiled puzzle agrees with itself. The clues that have been laid meet the checks on
cells, rows, crossings and labels (`Placed`); linking changes no more than links, and the
chains it makes meet the others (`sound_noteHeads`).
-/
namespace Crossword
open Edit Placement Audit

section
variable {g : Ground} {o p q : Puzzle} {trail : List Stroke} {s t : Stroke} {steps : List Laying} {i : ClueId}

/-! ### Along a trail -/

namespace Laid

theorem board_width (laid : Laid g o trail p) : p.board.width = g.width := by
  rw [laid.board,laid.opened.board]
  rfl

theorem board_height (laid : Laid g o trail p) : p.board.height = g.height := by
  rw [laid.board,laid.opened.board]
  rfl

/-- The letter that a clue has at one of its strokes, as an audit reads it. -/
theorem letterAt_eq (laid : Laid g o trail p) (member : s ∈ trail) (r : Row) :
    letterAt ((p.clue s.clue).row r) (some s.letter) = .ok (s.written p r) := by
  simp [letterAt,Ground.pick?_of_nonneg,laid.getElem?_row member]

/-- The newest strokes of both directions on one place have letters that agree. -/
theorem agree_latest {place : Place} (laid : Laid g o trail p) (one : latest o trail .across place = some s)
    (other : latest o trail .down place = some t) (r : Row) : Agree (s.written p r) (t.written p r) := by
  obtain ⟨member,direction,on⟩ := latest_mem one
  obtain ⟨member',direction',on'⟩ := latest_mem other
  -- Both answers are up to date with the cell, and both solutions are still as compiled.
  cases r with
  | answer =>
    have shown := (laid.answered s member).current (by rw [direction,on]; exact one)
    have shown' := (laid.answered t member').current (by rw [direction',on']; exact other)
    rw [on,← on',shown'] at shown
    exact .inr (.inr (List.singleton_inj.mp shown).symm)
  | solution =>
    have kept : ∀ u : Stroke, u.written p .solution = u.written o .solution := by
      intro u
      rw [Stroke.written,laid.clue]
      rfl
    obtain ⟨letter,_,holds⟩ := (laid.marked place (on ▸ laid.drawn.inside member)).row .solution
    rw [kept,kept]
    rcases holds.all s member on with none | same
    · exact .inl none
    · rcases holds.all t member' on' with none | same'
      · exact .inr (.inl none)
      · exact .inr (.inr (same.trans same'.symm))

end Laid

/-! ### Once all clues are laid -/

namespace Placed
variable (placed : Placed g o steps p)
include placed

theorem mem_steps (member : i ∈ p.board.clues) : ∃ l ∈ steps, l.clue = i := by
  have found : ∃ d, i ∈ p.board.laid d := by
    rcases List.mem_append.mp member with across | down
    · exact ⟨.across,across⟩
    · exact ⟨.down,down⟩
  obtain ⟨d,laid⟩ := found
  rw [placed.clues d] at laid
  obtain ⟨l,chosen,rfl⟩ := List.mem_map.mp laid
  exact ⟨l,(List.mem_filter.mp chosen).1,rfl⟩

theorem light {c : CellId} (member : c ∈ p.board.columns.flatten) (light : (p.cell c).light = true) :
    ∃ d, ((p.cell c).slot d).clue.isSome = true := by
  rw [placed.laid.columns] at member
  obtain ⟨place,inside,rfl⟩ := Ground.mem_columns.mp member
  have marked := placed.laid.marked place inside
  obtain ⟨s,laid,on⟩ := marked.light.mp light
  refine ⟨s.direction,?_⟩
  rw [marked.slot,slotOf,Option.isSome_map]
  exact latest_isSome.mpr ⟨s,laid,rfl,on⟩

theorem crossing {c : CellId} {across down : ClueId} (member : c ∈ p.board.columns.flatten)
    (one : (p.cell c).across.clue = some across) (other : (p.cell c).down.clue = some down) (r : Row) :
    ∃ a d, letterAt ((p.clue across).row r) (p.cell c).across.letter = .ok a ∧
      letterAt ((p.clue down).row r) (p.cell c).down.letter = .ok d ∧ Agree a d := by
  rw [placed.laid.columns] at member
  obtain ⟨place,inside,rfl⟩ := Ground.mem_columns.mp member
  have marked := placed.laid.marked place inside
  have slot : (p.cell (g.cellOn place)).across = _ := marked.slot .across
  have slot' : (p.cell (g.cellOn place)).down = _ := marked.slot .down
  rw [slot] at one ⊢
  rw [slot'] at other ⊢
  obtain ⟨s,newest,rfl⟩ := Option.map_eq_some_iff.mp one
  obtain ⟨t,newest',rfl⟩ := Option.map_eq_some_iff.mp other
  refine ⟨s.written p r,t.written p r,?_,?_,placed.laid.agree_latest newest newest' r⟩
  · simp only [slotOf,newest,Option.map_some]
    exact placed.laid.letterAt_eq (latest_mem newest).1 r
  · simp only [slotOf,newest',Option.map_some]
    exact placed.laid.letterAt_eq (latest_mem newest').1 r

variable (run : FreshRun o steps)
include run

theorem fit (member : i ∈ p.board.clues) : (o.clue i).Fit := by
  obtain ⟨l,laid,rfl⟩ := placed.mem_steps member
  exact Clue.fit_of_fresh (run.fresh l laid)

theorem row (member : i ∈ p.board.clues) (r : Row) : (((p.clue i).row r).length : Int) = (p.clue i).length := by
  rw [placed.laid.row_length,(placed.fit run member).row_length,placed.laid.clue]

theorem revealed (member : i ∈ p.board.clues) : ((p.clue i).revealed.length : Int) = (p.clue i).length := by
  rw [placed.laid.clue]
  exact (placed.fit run member).revealed_length

theorem label {c : CellId} (member : i ∈ p.board.clues) (first : (p.clue i).cells.head? = some c) :
    (p.cell c).label = some (p.clue i).label := by
  have fit := placed.fit run member
  obtain ⟨l,laid,rfl⟩ := placed.mem_steps member
  have stroke := start_mem fit
  have inside : g.Inside (l.start o) := by
    rw [← stroke_start rfl stroke]
    exact placed.laid.drawn.inside (List.mem_reverse.mpr (mem_strokesOf.mpr ⟨l,laid,stroke⟩))
  have start : c = g.cellOn (l.start o) := by
    have cells : (p.clue l.clue).cells = (l.strokes o).map fun s => g.cellOn (s.place o) := by
      rw [placed.laid.clue,fit.unplaced,← cellsOf_strokesOf run.distinct laid]
      rfl
    have positive := fit.length_pos
    obtain ⟨more,length⟩ : ∃ more, (o.clue l.clue).length.toNat = more + 1 :=
      ⟨(o.clue l.clue).length.toNat - 1,by omega⟩
    rw [cells,Laying.strokes,length,List.range_succ_eq_map] at first
    exact (Option.some.inj first).symm
  have marked := placed.laid.marked (l.start o) inside
  rw [start,placed.laid.clue]
  exact (shows_of_marked (fun l laid => Clue.fit_of_fresh (run.fresh l laid)) marked).label l laid rfl

end Placed

/-! ### Once they are linked -/

theorem laid_acrossThenDown (across down : List ClueId) (d : Direction) :
    ((acrossThenDown across down).filter fun l => l.direction = d).map (·.clue) =
      match d with | .across => across | .down => down := by
  rw [acrossThenDown,List.filter_append,List.filter_map,List.filter_map]
  cases d <;> simp [Function.comp_def]

theorem distinctClues_placed {across down : List ClueId} (run : FreshRun o (acrossThenDown across down))
    (placed : Placed g o (acrossThenDown across down) p) : DistinctClues (noteLight p) := by
  have clues : (noteLight p).board.clues = across ++ down := by
    show p.board.laid .across ++ p.board.laid .down = _
    rw [placed.clues,placed.clues,laid_acrossThenDown,laid_acrossThenDown]
  refine ⟨?_,?_⟩
  · rw [clues,← clues_acrossThenDown]
    exact run.distinct
  · intro i member
    obtain ⟨l,laid,rfl⟩ := placed.mem_steps member
    show l.clue < p.clues.size
    rw [placed.laid.known]
    exact run.known l laid

/-- The chains that linking makes are whole. -/
theorem Linked.whole (linked : Linked p p.board.clues q) (linkable : Linkable p) {h : ClueId} (head : h ∈ p.board.clues)
    (unnamed : Unnamed p h) : Whole (Chain.noteHeads q) h (chainOf p h) where
  first := rfl
  distinct := linkable.nodup_chain head
  neighbours before i after split :=
    (linked.tied_of_unnamed head unnamed (by simp [split])).neighbours before after split
  shared _ within := (linked.tied_of_unnamed head unnamed within).head

/-- Clues that have been laid and linked make a puzzle that agrees with itself. -/
theorem sound_noteHeads (run : FreshRun o steps) (placed : Placed g o steps p) (linkable : Linkable (noteLight p))
    (linked : Linked (noteLight p) (noteLight p).board.clues q) : Sound (Chain.noteHeads q) := by
  have cell : ∀ c, (Chain.noteHeads q).cell c = p.cell c := Puzzle.cell_congr linked.same.cells
  have board : (Chain.noteHeads q).board =
      { (noteLight p).board with
        acrossHeads := (noteLight p).board.across.filter q.isHead
        downHeads := (noteLight p).board.down.filter q.isHead } := by
    simp only [Chain.noteHeads,Puzzle.board_updateBoard,linked.same.board]
  have row : ∀ i r, ((Chain.noteHeads q).clue i).row r = (p.clue i).row r :=
    fun i r => linked.same.kept (fun c => c.row r) (fun _ => by cases r <;> rfl) i
  have length : ∀ i, ((Chain.noteHeads q).clue i).length = (p.clue i).length :=
    linked.same.kept Clue.length fun _ => rfl
  constructor
  case width =>
    rw [board]
    show (p.board.columns.length : Int) = p.board.width
    rw [placed.laid.columns,placed.laid.board_width,Ground.length_columns]
  case height =>
    rw [board]
    show ∀ column ∈ p.board.columns, (column.length : Int) = p.board.height
    rw [placed.laid.columns,placed.laid.board_height]
    intro column member
    rw [Ground.length_column member]
  case light =>
    rw [board]
    intro c member
    rw [cell]
    exact placed.light member
  case rows =>
    rw [board]
    intro i member r
    rw [row,length]
    exact placed.row run member r
  case revealed =>
    rw [board]
    intro i member
    have revealed : ((Chain.noteHeads q).clue i).revealed = (p.clue i).revealed :=
      linked.same.kept Clue.revealed (fun _ => rfl) i
    rw [revealed,length]
    exact placed.revealed run member
  case crossings =>
    rw [board]
    intro c member across down
    simp only [cell,row]
    intro one other r
    exact placed.crossing (List.mem_filter.mp member).1 one other r
  case labels =>
    rw [board]
    intro i member c first
    have cells : ((Chain.noteHeads q).clue i).cells = (p.clue i).cells :=
      linked.same.kept Clue.cells (fun _ => rfl) i
    have label : ((Chain.noteHeads q).clue i).label = (p.clue i).label :=
      linked.same.kept Clue.label (fun _ => rfl) i
    rw [cells] at first
    rw [cell,label]
    exact placed.label run member first
  case chains =>
    rw [board]
    intro i member
    obtain ⟨h,head,unnamed,inside⟩ := linkable.mem_chain member
    exact chains_of_whole (linked.whole linkable head unnamed) inside
  case heads =>
    intro d
    cases d <;> rfl

/-! ### A whole compilation -/

section
variable {entries : List (Datum × Datum)} {config : Config} {clues : List ClueId × List ClueId} {o r : Puzzle}

theorem sound_of_steps (prepared : (Definition.prepare entries config).Gives p clues o)
    (assembled : (assemble clues.1 clues.2).Gives o () r) (linked : Chain.link.Gives r () q) : Sound q := by
  obtain ⟨g,opened,run⟩ := freshRun_of_prepare prepared
  obtain ⟨m,laid,rfl⟩ := assemble_gives_iff.mp assembled
  have placed := run.placed opened laid
  have clues := distinctClues_placed run placed
  obtain ⟨linkable,m,chained,rfl⟩ := link_gives_linked clues linked
  exact sound_noteHeads run placed linkable chained

/-- A puzzle that agrees with itself passes the audit, which leaves no trace. -/
theorem run_verify_bind {β : Type} (sound : Sound p) (next : Unit → Edit β) :
    (Definition.verify >>= next).run p = (next ()).run p := by
  have clean := report_eq_clean_iff.mpr sound
  have judged : (judge id report).run p = ⟨.ok Report.clean,p,[]⟩ := run_judge_ok clean
  have passed : Definition.verify.run p = ⟨.ok (),p,[]⟩ := by
    rw [Definition.verify,run_bind_ok (congrArg Outcome.result judged),judged]
    rfl
  rw [run_bind_ok (congrArg Outcome.result passed),passed]
  rfl

/-- A compilation that goes through has gone through its steps, and an audit in the end
    has changed nothing. -/
theorem compileEntries_gives (gives : (Definition.compileEntries entries config).Gives p () q) :
    ∃ clues o r, (Definition.prepare entries config).Gives p clues o ∧
      (assemble clues.1 clues.2).Gives o () r ∧ Chain.link.Gives r () q := by
  simp only [Definition.compileEntries,gives_bind] at gives
  obtain ⟨clues,o,prepared,_,r,assembled,_,m,linked,rest⟩ := gives
  have unchanged : m = q := by
    split at rest
    · rw [Gives,run_verify_bind (sound_of_steps prepared assembled linked),← Gives] at rest
      simp only [gives_bind,gives_read,gives_enter] at rest
      obtain ⟨_,_,⟨_,rfl⟩,rfl⟩ := rest
      rfl
    · simp only [gives_bind,gives_read,gives_enter] at rest
      obtain ⟨_,_,⟨_,rfl⟩,rfl⟩ := rest
      rfl
  subst unchanged
  exact ⟨clues,o,r,prepared,assembled,linked⟩

theorem compileEntries_sound (gives : (Definition.compileEntries entries config).Gives p () q) : Sound q := by
  obtain ⟨_,_,_,prepared,assembled,linked⟩ := compileEntries_gives gives
  exact sound_of_steps prepared assembled linked

/-- An audit in the end changes nothing about a compilation. -/
theorem compileEntries_verify (entries : List (Datum × Datum)) (config : Config) (p : Puzzle) :
    (Definition.compileEntries entries { config with verify := true }).run p =
      (Definition.compileEntries entries { config with verify := false }).run p := by
  unfold Definition.compileEntries
  refine run_bind_congr fun clues o prepared => run_bind_congr fun _ r assembled => ?_
  refine run_bind_congr fun _ q linked => ?_
  exact run_verify_bind (sound_of_steps prepared assembled linked) _

end

theorem compile_verify (definition : Datum) (config : Config) (p : Puzzle) :
    (Definition.compile definition { config with verify := true }).run p =
      (Definition.compile definition { config with verify := false }).run p := by
  unfold Definition.compile
  split
  · rfl
  · exact compileEntries_verify _ config p
  · rfl

theorem compile_eq_ok_iff {definition : Datum} {config : Config} :
    (Puzzle.compile definition config).1 = .ok p ↔ (Definition.compile definition config).Gives Puzzle.empty () p := by
  cases result : ((Definition.compile definition config).run Puzzle.empty).result <;>
    simp [Puzzle.compile,Gives,Except.map,result]

/-- Whatever a definition compiles to agrees with itself: an audit of it is clean, so that
    a compilation that audits its puzzle gives what it would give without. -/
theorem compile_audit_clean (definition : Datum) (config : Config) :
    (∀ p, (Puzzle.compile definition config).1 = .ok p → report p = .ok Report.clean) ∧
      Puzzle.compile definition { config with verify := true } =
        Puzzle.compile definition { config with verify := false } := by
  constructor
  · intro p compiled
    have gives := compile_eq_ok_iff.mp compiled
    unfold Definition.compile at gives
    split at gives
    · exact absurd gives not_gives_stop
    · exact report_eq_clean_iff.mpr (compileEntries_sound gives)
    · exact absurd gives not_gives_stop
  · simp only [Puzzle.compile,compile_verify]

/-- Two clues across, of which one lies over the end of the other, and one down that
    crosses both and that the first one runs on in. -/
def corner : Datum :=
  .table [(.text "width".toList,.whole 2),(.text "height".toList,.whole 2),
    (.text "acrossClues".toList,.list [specification 1 1 "1,2d. Row (2)" "a",specification 2 1 "2. End (1)" "b"]),
    (.text "downClues".toList,.list [specification 2 1 "2. Column (2)" ""])]

theorem audit_corner_clean : ∃ p, (Puzzle.compile corner {}).1 = .ok p ∧ report p = .ok Report.clean := by
  have compiles : (Puzzle.compile corner {}).1.toOption.isSome = true := by decide +kernel
  cases compiled : (Puzzle.compile corner {}).1 with
  | ok p => exact ⟨p,rfl,(compile_audit_clean corner {}).1 p compiled⟩
  | error fault => simp [compiled,Except.toOption] at compiles

end

end Crossword
