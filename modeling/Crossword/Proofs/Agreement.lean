import Crossword.Proofs.Laying

/-!
When compiled clues can be laid together. The check made letter by letter, against
what the cells hold at the time, comes to a condition on the compiled clues alone
(`Consistent`), which does not depend on the order in which they are laid, and neither
does what the cells show in the end (`Shows`).
-/
namespace Crossword
open Edit Placement

/-- The clues lie on the ground, their letters agree wherever they share a cell, and
    those that start in one cell have one label. -/
structure Consistent (g : Ground) (o : Puzzle) (steps : List Laying) : Prop where
  inside : ∀ s ∈ strokesOf o steps, g.Inside (s.place o)
  answers : ∀ s ∈ strokesOf o steps, ∀ t ∈ strokesOf o steps, s.place o = t.place o →
    Agree (s.written o .answer) (t.written o .answer)
  solutions : ∀ s ∈ strokesOf o steps, ∀ t ∈ strokesOf o steps, s.place o = t.place o →
    Agree (s.written o .solution) (t.written o .solution)
  labels : ∀ l ∈ steps, ∀ m ∈ steps, l.start o = m.start o → (o.clue l.clue).label = (o.clue m.clue).label

/-- The cell shows what the clues over its place agree on: their letter in each row, if
    one of them has any, and the label of those that start there, if some do. -/
structure Shows (o : Puzzle) (steps : List Laying) (place : Place) (cell : Cell) : Prop where
  letter : ∀ r, ∀ s ∈ strokesOf o steps, s.place o = place → s.written o r ≠ blank → cell.row r = [s.written o r]
  unfilled : ∀ r, (∀ s ∈ strokesOf o steps, s.place o = place → s.written o r = blank) → cell.row r = [blank]
  label : ∀ l ∈ steps, l.start o = place → cell.label = some (o.clue l.clue).label
  unlabelled : (∀ l ∈ steps, l.start o ≠ place) → cell.label = none

/-- The clue is the first that is faulty after those before it. -/
def FirstFaulty (g : Ground) (o : Puzzle) (before : List Laying) (l : Laying) : Prop :=
  l.Faulty g o before ∧ ∀ earlier m later, before = earlier ++ m :: later → ¬ m.Faulty g o earlier

section
variable {g : Ground} {o p : Puzzle} {s t : Stroke} {l m : Laying} {steps : List Laying}

theorem agree_self {a : Char} : Agree a a := .inr (.inr rfl)

theorem Stroke.compatible_of_mem (one : s ∈ l.strokes o) (other : t ∈ l.strokes o) : s.Compatible o t := by
  by_cases same : s.place o = t.place o
  · obtain rfl := eq_of_mem_strokes one other same
    exact ⟨fun _ _ => agree_self,fun _ _ _ => rfl⟩
  · exact compatible_of_ne same

theorem start_mem (fit : (o.clue l.clue).Fit) : (⟨l.direction,l.clue,0⟩ : Stroke) ∈ l.strokes o :=
  mem_strokes.mpr ⟨rfl,rfl,fit.length_pos⟩

theorem stroke_start (first : s.letter = 0) (stroke : s ∈ l.strokes o) : s.place o = l.start o := by
  obtain ⟨direction,clue,_⟩ := mem_strokes.mp stroke
  simp only [Stroke.place,Laying.start,direction,clue,first]

/-! ### One condition for all orders -/

theorem consistent_iff_compatible (fit : ∀ l ∈ steps, (o.clue l.clue).Fit) : Consistent g o steps ↔
    (∀ s ∈ strokesOf o steps, g.Inside (s.place o)) ∧
      ∀ s ∈ strokesOf o steps, ∀ t ∈ strokesOf o steps, s.Compatible o t := by
  constructor
  · intro consistent
    refine ⟨consistent.inside,fun s one t other => ⟨?_,?_⟩⟩
    · intro on r
      cases r with
      | answer => exact consistent.answers s one t other on
      | solution => exact consistent.solutions s one t other on
    · intro on first second
      obtain ⟨l,member,stroke⟩ := mem_strokesOf.mp one
      obtain ⟨m,member',stroke'⟩ := mem_strokesOf.mp other
      rw [(mem_strokes.mp stroke).2.1,(mem_strokes.mp stroke').2.1]
      refine consistent.labels l member m member' ?_
      rw [← stroke_start first stroke,← stroke_start second stroke',on]
  · rintro ⟨inside,compatible⟩
    refine ⟨inside,?_,?_,?_⟩
    · intro s one t other on
      exact (compatible s one t other).letters on .answer
    · intro s one t other on
      exact (compatible s one t other).letters on .solution
    · intro l member m member' on
      have one := mem_strokesOf.mpr ⟨l,member,start_mem (fit l member)⟩
      have other := mem_strokesOf.mpr ⟨m,member',start_mem (fit m member')⟩
      exact (compatible _ one _ other).labels on rfl rfl

/-- In a list without faults any two clues are compatible, whichever comes first. -/
theorem not_clashes_of_faultless (faultless : Faultless g o [] steps) (one : l ∈ steps) (other : m ∈ steps) :
    ¬ l.Clashes o m := by
  by_cases same : l = m
  · subst same
    rintro ⟨s,stroke,t,stroke',clash⟩
    exact clash (Stroke.compatible_of_mem stroke stroke')
  · have inTurn : InTurn (fun before b => ∀ a ∈ before, ¬ Laying.Clashes o a b) [] steps :=
      fun before b after split a earlier clash => faultless before b after split (.inr ⟨a,earlier,clash⟩)
    refine inTurn.symmetric ?_ one other same
    rintro a b apart ⟨s,stroke,t,stroke',clash⟩
    exact apart ⟨t,stroke',s,stroke,fun fits => clash fits.symm⟩

theorem faultless_iff_consistent (fit : ∀ l ∈ steps, (o.clue l.clue).Fit) :
    Faultless g o [] steps ↔ Consistent g o steps := by
  rw [consistent_iff_compatible fit]
  constructor
  · intro faultless
    refine ⟨?_,?_⟩
    · intro s stroke
      obtain ⟨l,member,stroke⟩ := mem_strokesOf.mp stroke
      obtain ⟨before,after,split⟩ := List.append_of_mem member
      by_contra outside
      exact faultless before l after split (.inl ⟨s,stroke,outside⟩)
    · intro s one t other
      obtain ⟨l,member,stroke⟩ := mem_strokesOf.mp one
      obtain ⟨m,member',stroke'⟩ := mem_strokesOf.mp other
      by_contra clash
      exact not_clashes_of_faultless faultless member member' ⟨s,stroke,t,stroke',clash⟩
  · rintro ⟨inside,compatible⟩ before l after split
    have member : l ∈ steps := by simp [split]
    rintro (⟨s,stroke,outside⟩ | ⟨m,earlier,s,stroke,t,stroke',clash⟩)
    · exact outside (inside s (mem_strokesOf.mpr ⟨l,member,stroke⟩))
    · have member' : m ∈ steps := by
        rw [split]
        exact List.mem_append_left _ earlier
      exact clash (compatible s (mem_strokesOf.mpr ⟨m,member',stroke⟩) t (mem_strokesOf.mpr ⟨l,member,stroke'⟩))

/-! ### What the cells show -/

theorem shows_of_marked {place : Place} {cell : Cell} (fit : ∀ l ∈ steps, (o.clue l.clue).Fit)
    (marked : Marked o (strokesOf o steps).reverse place cell) : Shows o steps place cell where
  letter r s stroke on filled := by
    obtain ⟨letter,shown,holds⟩ := marked.row r
    rcases holds.all s (List.mem_reverse.mpr stroke) on with none | same
    · exact absurd none filled
    · rw [shown,same]
  unfilled r empty := by
    obtain ⟨letter,shown,holds⟩ := marked.row r
    rcases holds.source with none | ⟨s,stroke,on,same⟩
    · rw [shown,none]
    · rw [shown,← same,empty s (List.mem_reverse.mp stroke) on]
  label l member on :=
    marked.label.all ⟨l.direction,l.clue,0⟩
      (List.mem_reverse.mpr (mem_strokesOf.mpr ⟨l,member,start_mem (fit l member)⟩)) on rfl
  unlabelled none := by
    rcases marked.label.source with unset | ⟨s,stroke,on,first,_⟩
    · exact unset
    · obtain ⟨l,member,stroke⟩ := mem_strokesOf.mp (List.mem_reverse.mp stroke)
      exact absurd ((stroke_start first stroke).symm.trans on) (none l member)

end

/-! ### Laying compiled clues on a board just opened -/

/-- The clues of a run are different ones, each as some specification compiles to. -/
structure FreshRun (p : Puzzle) (steps : List Laying) : Prop where
  distinct : (steps.map (·.clue)).Nodup
  known : ∀ l ∈ steps, l.clue < p.clues.size
  fresh : ∀ l ∈ steps, (p.clue l.clue).Fresh

theorem FreshRun.allNew {p : Puzzle} {steps : List Laying} (run : FreshRun p steps) : AllNew p [] steps := by
  intro before l after split
  have member : l ∈ steps := by simp [split]
  refine ⟨run.known l member,Clue.fit_of_fresh (run.fresh l member),?_⟩
  intro m earlier same
  have distinct := run.distinct
  rw [split,List.map_append,List.map_cons] at distinct
  have apart := (List.nodup_append.mp distinct).2.2
  exact apart m.clue (List.mem_map_of_mem earlier) l.clue List.mem_cons_self same

theorem FreshRun.front {p : Puzzle} {front back : List Laying} (run : FreshRun p (front ++ back)) : FreshRun p front where
  distinct := by
    have distinct := run.distinct
    rw [List.map_append] at distinct
    exact (List.nodup_append.mp distinct).1
  known l member := run.known l (List.mem_append_left _ member)
  fresh l member := run.fresh l (List.mem_append_left _ member)

theorem FreshRun.isNew {p : Puzzle} {l : Laying} {before after : List Laying} (run : FreshRun p (before ++ l :: after)) :
    l.New p before :=
  run.allNew before l after rfl

/-- A run that goes through on a board just opened leaves the puzzle after all its clues. -/
theorem FreshRun.placed {g : Ground} {p q : Puzzle} {steps : List Laying} (run : FreshRun p steps) (opened : g.Opened p)
    (gives : (layAll steps).Gives p () q) : Placed g p steps q :=
  (placed_of_layAll (placed_nil opened) run.allNew gives).2

/-- Compiled clues laid in any order on a board just opened all go through exactly if
    they are consistent, and then every cell shows what the clues over it agree on. A run
    that stops does so at the first clue that runs out of the ground or clashes with one
    laid before it. Laying the clues across and then those down is one such run. -/
theorem layAll_gives_iff_consistent (p : Puzzle) (width height : Nat) (steps : List Laying) :
    let g : Ground := ⟨p.cells.size,width,height⟩
    let start := p.openBoard ⟨width,height⟩
    FreshRun start steps →
      ((∃ q, (layAll steps).Gives start () q) ↔ Consistent g start steps) ∧
        (∀ q, (layAll steps).Gives start () q → ∀ place, g.Inside place →
          ∃ c, q.board.cellAt? place.1 place.2 = some c ∧ Shows start steps place (q.cell c)) ∧
        (∀ fault r, (layAll steps).Stops start fault r → ∃ before l after q,
          steps = before ++ l :: after ∧ (layAll before).Gives start () q ∧
            (Placement.place l.direction l.clue).Stops q fault r ∧ FirstFaulty g start before l) ∧
        ∀ across down, steps = acrossThenDown across down →
          (∀ q, (assemble across down).Gives start () q ↔ ∃ r, (layAll steps).Gives start () r ∧ noteLight r = q) ∧
            ∀ fault r, (assemble across down).Stops start fault r ↔ (layAll steps).Stops start fault r := by
  intro g start run
  have opened : g.Opened start := Ground.opened_openBoard p width height
  have fit : ∀ l ∈ steps, (start.clue l.clue).Fit := fun l member => Clue.fit_of_fresh (run.fresh l member)
  have outcome := layAll_outcome (placed_nil opened) run.allNew
  refine ⟨?_,?_,?_,?_⟩
  · rw [← faultless_iff_consistent fit]
    constructor
    · rintro ⟨q,gives⟩
      rcases outcome with ⟨faultless,_⟩ | ⟨_,_,_,_,_,_,_,_,_,_,stops,_⟩
      · exact faultless
      · exact absurd stops (not_stops_of_gives gives)
    · intro faultless
      rcases outcome with ⟨_,q,gives,_⟩ | ⟨before,l,after,_,_,_,split,faulty,_⟩
      · exact ⟨q,gives⟩
      · exact absurd faulty (faultless before l after split)
  · intro q gives place inside
    rcases outcome with ⟨_,r,gives',placed⟩ | ⟨_,_,_,_,_,_,_,_,_,_,stops,_⟩
    · obtain ⟨_,rfl⟩ := gives_unique gives gives'
      exact ⟨g.cellOn place,Ground.cellAt?_inside placed.laid.columns inside,
        shows_of_marked fit (placed.laid.marked place inside)⟩
    · exact absurd stops (not_stops_of_gives gives)
  · intro fault r stops
    rcases outcome with ⟨_,q,gives,_⟩ | ⟨before,l,after,q,fault',r',split,faulty,gives,here,stops',faultless⟩
    · exact absurd stops (not_stops_of_gives gives)
    · obtain ⟨rfl,rfl⟩ := stops_unique stops stops'
      exact ⟨before,l,after,q,split,gives,here,faulty,faultless⟩
  · rintro across down rfl
    exact ⟨fun q => assemble_gives_iff,fun fault r => assemble_stops_iff⟩

/-! ### Three clues -/

/-- A clue specification with an answer. -/
def specification (x y : Int) (clue answer : String) : Datum :=
  .table [(.text "x".toList,.whole x),(.text "y".toList,.whole y),(.text "clue".toList,.text clue.toList),
    (.text "answer".toList,.text answer.toList)]

/-- The clue that a specification compiles to. -/
def Clue.compiled (spec across : Datum) : Clue := (Clue.compile spec across true).toOption.getD default

theorem Clue.fresh_compiled {spec across : Datum} (compiles : (Clue.compile spec across true).toOption.isSome = true) :
    (Clue.compiled spec across).Fresh := by
  refine ⟨spec,across,true,?_⟩
  unfold Clue.compiled
  cases made : Clue.compile spec across true with
  | ok c => rfl
  | error fault => simp [made,Except.toOption] at compiles

/-- Two clues across on one row, the second over the end of the first, and one down
    that crosses both. -/
def threeClues : Puzzle :=
  { Puzzle.empty with
    clues := #[.compiled (specification 1 1 "1. Row (3)" "A") (.truth true),
      .compiled (specification 2 1 "2. End (1,1)" "bc") (.truth true),
      .compiled (specification 2 1 "2. Column (2)" "") (.truth false)] }

/-- The clue down is laid first. -/
def threeSteps : List Laying := [⟨.down,2⟩,⟨.across,0⟩,⟨.across,1⟩]

theorem freshRun_threeSteps : FreshRun (threeClues.openBoard ⟨3,2⟩) threeSteps where
  distinct := by decide
  known := by decide
  fresh := by
    intro l member
    simp only [threeSteps,List.mem_cons,List.not_mem_nil,or_false] at member
    rcases member with rfl | rfl | rfl
    · exact Clue.fresh_compiled (by decide +kernel)
    · exact Clue.fresh_compiled (by decide +kernel)
    · exact Clue.fresh_compiled (by decide +kernel)

theorem layAll_threeSteps :
    FreshRun (threeClues.openBoard ⟨3,2⟩) threeSteps ∧ Consistent ⟨0,3,2⟩ (threeClues.openBoard ⟨3,2⟩) threeSteps := by
  have laid := layAll_gives_iff_consistent threeClues 3 2 threeSteps freshRun_threeSteps
  exact ⟨freshRun_threeSteps,laid.1.mp ⟨_,gives_of_isSome (by decide +kernel)⟩⟩

end Crossword
