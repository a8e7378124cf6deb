import Crossword.Proofs.Blaming
import Crossword.Proofs.Showing

/-!
Whom the report of two solutions or two labels that differ puts it down to. The clue that it
gives is found in the cell, which names the last clue of each direction and not the one that its
letter or its label came from (`Accused`). Solutions are not passed on from clue to clue as
answers are, so the clue given may be blank there; and it may only pass where another one starts.
It has the letter reported exactly if it is not blank there, and it bears the label exactly if it
starts there (`layAll_blames_iff`). Both hold where no two clues of one direction share a place,
and neither holds always (`not_layAll_blames`).
-/
namespace Crossword
open Edit Placement

/-- Of the clues laid before, the one that a conflict on a place is put down to: the last one over
    it in the direction of the clue that is refused, or the last one that crosses there if there is
    none. -/
structure Accused (p : Puzzle) (before : List Laying) (l m : Laying) (place : Place) : Prop where
  last : LastOver p before place m
  along : (∃ n ∈ before, n.direction = l.direction ∧ n.Covers p place) → m.direction = l.direction

/-- On the place the clue has the letter in its solution. -/
def Laying.Solves (p : Puzzle) (l : Laying) (place : Place) (letter : Char) : Prop :=
  ∃ k : Nat, (p.clue l.clue).spot l.direction k = place ∧ (p.clue l.clue).solution[k]? = some letter

/-- No two clues of one direction share a place. -/
def Separate (p : Puzzle) (steps : List Laying) : Prop :=
  ∀ l ∈ steps, ∀ m ∈ steps, l.direction = m.direction → l ≠ m → ∀ place, ¬ (l.Covers p place ∧ m.Covers p place)

/-- A clue is refused for the letter of its solution at a position, since the cell there shows
    another one, which some clue laid before has brought. The report is about these letters and
    this cell, and gives the clue accused with its solution; that clue has the letter shown or
    none. -/
structure SolutionRefused (p : Puzzle) (before : List Laying) (l m : Laying) (k : Nat) (letter existing : Char)
    (report : LetterConflict) : Prop where
  place : (p.clue l.clue).spot l.direction k = ((report.x : Int),(report.y : Int))
  own : (p.clue l.clue).solution[k]? = some letter
  shown : ∃ c, p.board.cellAt? report.x report.y = some c ∧ (p.cell c).solution = [existing]
  letters : letter ≠ blank ∧ existing ≠ blank ∧ letter ≠ existing
  source : ∃ w ∈ before, w.Covers p (report.x,report.y) ∧ w.Solves p (report.x,report.y) existing
  accused : Accused p before l m (report.x,report.y)
  held : m.Solves p (report.x,report.y) existing ∨ m.Solves p (report.x,report.y) blank
  said : report = {
    row := .solution
    clue := (p.clue l.clue).id
    x := report.x
    y := report.y
    letters := (p.clue l.clue).solution
    position := k
    letter := letter
    previous := some ((p.clue m.clue).id,(p.clue m.clue).solution)
    existing := [existing] }

/-- A clue is refused for its label, since the cell that it starts in has another one. All clues
    laid before that start there have that one, and some do. The report gives the clue accused. -/
structure LabelRefused (p : Puzzle) (before : List Laying) (l m : Laying) (label : Text) (cause : CoherenceFault) :
    Prop where
  shown : ∃ c, p.board.cellAt? (l.start p).1 (l.start p).2 = some c ∧ (p.cell c).label = some label
  other : label ≠ (p.clue l.clue).label
  all : ∀ w ∈ before, w.start p = l.start p → (p.clue w.clue).label = label
  source : ∃ w ∈ before, w.start p = l.start p
  accused : Accused p before l m (l.start p)
  said : cause = .label (p.clue l.clue).id (some (p.clue m.clue).id)

/-- A clue stops at one of its letters because another clue does not fit. The clues before it leave
    the puzzle `p`, its letters before this one leave `q`, and this one leaves `r`. -/
structure HaltsAt (g : Ground) (o : Puzzle) (done : List Laying) (l : Laying) (k : Nat) (p q r : Puzzle)
    (cause : CoherenceFault) : Prop where
  new : l ∉ done
  fit : ∀ w ∈ done, (o.clue w.clue).Fit
  placed : Placed g o done p
  laid : Laid g o (strokesFrom l 0 k ++ (strokesOf o done).reverse) q
  ready : Ready g o (strokesFrom l 0 k ++ (strokesOf o done).reverse) ⟨l.direction,l.clue,k⟩
  halted : Halted g o (strokesFrom l 0 k ++ (strokesOf o done).reverse) ⟨l.direction,l.clue,k⟩ q r cause
  outlines : SameOutlines r o

section
variable {g : Ground} {o p q r : Puzzle} {trail : List Stroke} {s t : Stroke} {l m w : Laying} {done : List Laying}
  {place : Place} {k : Nat} {cause : CoherenceFault}

/-! ### What outlines settle -/

namespace SameOutlines
variable (same : SameOutlines p q)
include same

theorem start : l.start p = l.start q := same.spot l.clue l.direction 0

theorem accused (accused : Accused q done l m place) : Accused p done l m place := by
  obtain ⟨⟨before,after,split,covers,none⟩,along⟩ := accused
  refine ⟨⟨before,after,split,same.covers.mpr covers,?_⟩,?_⟩
  · exact fun n later direction covers => none n later direction (same.covers.mp covers)
  · rintro ⟨n,member,direction,covers⟩
    exact along ⟨n,member,direction,same.covers.mp covers⟩

end SameOutlines

theorem Touched.sameOutlines {first count : Nat} (touched : Touched p q l first count) : SameOutlines q p := by
  intro i
  rw [touched.clue]
  rfl

theorem Laying.eq_of_spot {n : Nat} (same : (p.clue l.clue).spot l.direction k = (p.clue l.clue).spot l.direction n) :
    k = n := by
  by_contra differ
  exact Stroke.place_ne (o := p) (s := ⟨l.direction,l.clue,k⟩) (t := ⟨l.direction,l.clue,n⟩) rfl rfl differ same

theorem Laying.Solves.unique {a b : Char} (one : l.Solves p place a) (other : l.Solves p place b) : a = b := by
  obtain ⟨k,on,found⟩ := one
  obtain ⟨n,on',found'⟩ := other
  obtain rfl := Laying.eq_of_spot (on.trans on'.symm)
  exact Option.some.inj (found.symm.trans found')

/-- What a stroke of a clue writes is in the clue's solution. -/
theorem Laid.solves (laid : Laid g o trail p) (same : SameOutlines r o) (member : t ∈ trail) (stroke : t ∈ l.strokes o) :
    l.Solves r (t.place o) (t.written o .solution) := by
  obtain ⟨direction,clue,_⟩ := mem_strokes.mp stroke
  obtain ⟨_,ready⟩ := laid.drawn.ready member
  refine ⟨t.letter,?_,?_⟩
  · rw [same.spot,← direction,← clue]
    rfl
  · rw [same.kept Clue.solution (fun _ => rfl),← clue,Stroke.written]
    have inside : t.letter < (o.clue t.clue).solution.length := ready.letter_lt .solution
    simp [Clue.row,inside]

/-! ### The clue that is accused -/

theorem Accused.mem (accused : Accused p done l m place) : m ∈ done := by
  obtain ⟨before,after,split,_⟩ := accused.last
  simp [split]

theorem Accused.covers (accused : Accused p done l m place) : m.Covers p place := by
  obtain ⟨_,_,_,covers,_⟩ := accused.last
  exact covers

/-- The clue that a cell names to one of a direction is read off the trail. -/
theorem Laid.occupant_eq (laid : Laid g o trail p) (inside : g.Inside place) (d : Direction) :
    (p.cell (g.cellOn place)).occupant d =
      ((latest o trail d place).or (latest o trail d.crossing place)).map (·.clue) := by
  have marked := laid.marked place inside
  simp only [Cell.occupant,marked.slot,slotOf]
  cases latest o trail d place <;> simp

/-- The letters of a clue laid so far do not fall on its next one. -/
theorem mem_older_of_on (member : t ∈ strokesFrom l 0 k ++ trail)
    (on : t.place o = (⟨l.direction,l.clue,k⟩ : Stroke).place o) : t ∈ trail := by
  rcases List.mem_append.mp member with own | older
  · simp only [strokesFrom,List.mem_reverse,List.mem_map,List.mem_range'_1] at own
    obtain ⟨n,short,rfl⟩ := own
    have same : n = k := Laying.eq_of_spot (p := o) (l := l) on
    omega
  · exact older

theorem latest_strokesFrom {d : Direction} :
    latest o (strokesFrom l 0 k ++ trail) d ((⟨l.direction,l.clue,k⟩ : Stroke).place o) =
      latest o trail d ((⟨l.direction,l.clue,k⟩ : Stroke).place o) := by
  have none : latest o (strokesFrom l 0 k) d ((⟨l.direction,l.clue,k⟩ : Stroke).place o) = none := by
    rw [← Option.not_isSome_iff_eq_none,latest_isSome]
    rintro ⟨t,own,_,on⟩
    have older : t ∈ [] := mem_older_of_on (by simpa using own) on
    cases older
  rw [latest,List.find?_append]
  simp only [latest] at none
  rw [none,Option.none_or,latest]

/-- Where a clue has been laid before, the cell names the one that is accused. -/
theorem Placed.accused (placed : Placed g o done p) (l : Laying)
    (covered : ∃ t ∈ (strokesOf o done).reverse, t.place o = place) :
    ∃ m, Accused p done l m place ∧ ((latest o (strokesOf o done).reverse l.direction place).or
      (latest o (strokesOf o done).reverse l.direction.crossing place)).map (·.clue) = some m.clue := by
  cases along : latest o (strokesOf o done).reverse l.direction place with
  | some t =>
    obtain ⟨m,last,stroke,direction⟩ := placed.lastOver_of_latest along
    exact ⟨m,⟨last,fun _ => direction⟩,congrArg some (mem_strokes.mp stroke).2.1⟩
  | none =>
    obtain ⟨u,member,on⟩ := covered
    have crosses : u.direction = l.direction.crossing := by
      refine eq_crossing_of_ne fun same => ?_
      have found := latest_isSome.mpr ⟨u,member,same,on⟩
      simp [along] at found
    obtain ⟨t,across⟩ := Option.isSome_iff_exists.mp (latest_isSome.mpr ⟨u,member,crosses,on⟩)
    obtain ⟨m,last,stroke,_⟩ := placed.lastOver_of_latest across
    refine ⟨m,⟨last,?_⟩,?_⟩
    · rintro ⟨n,member,direction,covers⟩
      exact absurd covers (placed.latest_eq_none_iff.mp along n member direction)
    · rw [Option.none_or,across]
      exact congrArg some (mem_strokes.mp stroke).2.1

/-! ### What is reported -/

theorem Struck.found {answer : Char} {cell : Cell} (struck : Struck g o trail s answer cell p q) (laid : Laid g o trail p)
    (ready : Ready g o trail s) : q.board.cellAt? (s.place o).1 (s.place o).2 = some (g.cellOn (s.place o)) := by
  rw [struck.board]
  exact Ground.cellAt?_inside laid.columns ready.inside

namespace HaltsAt
variable (halts : HaltsAt g o done l k p q r cause)
include halts

/-- The letter finds the accused clue in its cell, if another clue has been laid there. -/
theorem previous (member : t ∈ strokesFrom l 0 k ++ (strokesOf o done).reverse)
    (on : t.place o = (⟨l.direction,l.clue,k⟩ : Stroke).place o) :
    ∃ m, Accused r done l m ((⟨l.direction,l.clue,k⟩ : Stroke).place o) ∧
      (⟨l.direction,l.clue,k⟩ : Stroke).previous g o q = some m.clue := by
  obtain ⟨m,accused,named⟩ := halts.placed.accused l ⟨t,mem_older_of_on member on,on⟩
  have same : SameOutlines r p := fun i => (halts.outlines i).trans (halts.placed.laid.sameOutlines i).symm
  refine ⟨m,same.accused accused,?_⟩
  rw [Stroke.previous,halts.laid.occupant_eq halts.ready.inside,latest_strokesFrom,latest_strokesFrom]
  exact named

theorem covers_iff : m.Covers r place ↔ ∃ t ∈ m.strokes o, t.place o = place := by
  rw [halts.outlines.covers,← halts.placed.laid.sameOutlines.covers,halts.placed.laid.covers_iff]

/-- A clue laid before has in its solution what its cell shows, or it has nothing there. -/
theorem solves_or_blank {existing : Char}
    (holds : Holds o (strokesFrom l 0 k ++ (strokesOf o done).reverse) .solution place existing) (member : m ∈ done)
    (covers : m.Covers r place) : m.Solves r place existing ∨ m.Solves r place blank := by
  obtain ⟨t,stroke,rfl⟩ := halts.covers_iff.mp covers
  have older : t ∈ strokesFrom l 0 k ++ (strokesOf o done).reverse :=
    List.mem_append_right _ (List.mem_reverse.mpr (mem_strokesOf.mpr ⟨m,member,stroke⟩))
  have solves := halts.laid.solves halts.outlines older stroke
  rcases holds.all t older rfl with none | some_letter
  · exact .inr (none ▸ solves)
  · exact .inl (some_letter ▸ solves)

/-- Another clue laid before has brought the letter that the cell shows. -/
theorem exists_source {existing : Char} (filled : existing ≠ blank)
    (holds : Holds o (strokesFrom l 0 k ++ (strokesOf o done).reverse) .solution
      ((⟨l.direction,l.clue,k⟩ : Stroke).place o) existing) :
    ∃ t ∈ strokesFrom l 0 k ++ (strokesOf o done).reverse, t.place o = (⟨l.direction,l.clue,k⟩ : Stroke).place o ∧
      ∃ w ∈ done, w.Covers r (t.place o) ∧ w.Solves r (t.place o) existing := by
  obtain ⟨t,brought,on,wrote⟩ := holds.source.resolve_left filled
  obtain ⟨w,earlier,stroke⟩ := mem_strokesOf.mp (List.mem_reverse.mp (mem_older_of_on brought on))
  refine ⟨t,brought,on,w,earlier,halts.covers_iff.mpr ⟨t,stroke,rfl⟩,?_⟩
  rw [← wrote]
  exact halts.laid.solves halts.outlines brought stroke

end HaltsAt

/-- A letter that stops at its solution is refused as reported. -/
theorem HaltsAt.solutionRefused {report : LetterConflict} (halts : HaltsAt g o done l k p q r (.letter report))
    (solution : report.row = .solution) : ∃ m letter existing, SolutionRefused r done l m k letter existing report := by
  have laid := halts.laid
  have ready := halts.ready
  cases halts.halted with
  | answer => cases solution
  | @solution held existing _ _ shown differ struck =>
    simp only [Agree,not_or] at differ
    obtain ⟨filled,some_letter,other⟩ := differ
    have marked := laid.marked _ ready.inside
    obtain ⟨_,shown',holds⟩ := marked.row .solution
    cases shown.symm.trans shown'
    obtain ⟨t,brought,on,source⟩ := halts.exists_source filled holds
    obtain ⟨m,accused,previous⟩ := halts.previous brought on
    have held := halts.solves_or_blank holds accused.mem accused.covers
    set s : Stroke := ⟨l.direction,l.clue,k⟩
    have x : (s.place o).1 = ((r.cell (g.cellOn (s.place o))).x : Int) := by
      simp [struck.here,lit,marked.x]
    have y : (s.place o).2 = ((r.cell (g.cellOn (s.place o))).y : Int) := by
      simp [struck.here,lit,marked.y]
    have place : s.place o = (((r.cell (g.cellOn (s.place o))).x : Int),((r.cell (g.cellOn (s.place o))).y : Int)) :=
      Prod.ext x y
    have shows : (r.cell (g.cellOn (s.place o))).solution = [existing] := by
      simp [struck.here,lit,shown]
    have found := struck.found laid ready
    rw [x,y] at found
    refine ⟨m,s.written o .solution,existing,?_⟩
    exact {
      place := (halts.outlines.spot _ _ _).trans place
      own := by
        rw [halts.outlines.kept Clue.solution fun _ => rfl]
        exact (congrArg (·.solution[k]?) (laid.clue l.clue)).symm.trans (laid.letter_eq ready .solution)
      shown := ⟨_,found,shows⟩
      letters := ⟨some_letter,filled,Ne.symm other⟩
      source := place ▸ on ▸ source
      accused := place ▸ accused
      held := place ▸ held
      said := by
        simp only [conflict,previous,Option.map_some,Cell.row,shows,Clue.row,s] }

/-- A clue that stops at its label is refused as reported. -/
theorem HaltsAt.labelRefused {named : Text} {other : Option Text} (halts : HaltsAt g o done l k p q r (.label named other)) :
    ∃ m label, LabelRefused r done l m label (.label named other) := by
  have laid := halts.laid
  have outlines := halts.outlines
  have labels : ∀ i, (r.clue i).label = (o.clue i).label := outlines.kept Clue.label fun _ => rfl
  cases halts.halted with
  | @label _ _ label _ _ _ _ first shown differ struck =>
    obtain rfl : k = 0 := first
    have marked := laid.marked _ halts.ready.inside
    have source := marked.label.source
    rw [shown] at source
    obtain ⟨t,brought,on,starts,_⟩ := source.resolve_left (by simp)
    obtain ⟨w,earlier,stroke⟩ := mem_strokesOf.mp (List.mem_reverse.mp (mem_older_of_on brought on))
    obtain ⟨m,accused,previous⟩ := halts.previous brought on
    have place : (⟨l.direction,l.clue,0⟩ : Stroke).place o = l.start r := outlines.start.symm
    have found := struck.found laid halts.ready
    have shows : (r.cell (g.cellOn ((⟨l.direction,l.clue,0⟩ : Stroke).place o))).label = some label := by
      simp [struck.here,lit,shown]
    rw [place] at found shows
    refine ⟨m,label,?_⟩
    exact {
      shown := ⟨_,found,shows⟩
      other := labels l.clue ▸ differ
      all := by
        intro v member start
        have here : (⟨v.direction,v.clue,0⟩ : Stroke).place o = (⟨l.direction,l.clue,0⟩ : Stroke).place o := by
          rw [place,← start,outlines.start]
          rfl
        have older := List.mem_reverse.mpr (mem_strokesOf.mpr ⟨v,member,start_mem (halts.fit v member)⟩)
        have same := marked.label.all _ (List.mem_append_right _ older) here rfl
        rw [shown] at same
        exact (labels v.clue).trans (Option.some.inj same).symm
      source := ⟨w,earlier,by rw [← place,← on,outlines.start,stroke_start starts stroke]⟩
      accused := place ▸ accused
      said := by
        simp only [previous,Option.map_some] }

/-! ### Any run on a board just opened -/

/-- A run stops for clues that do not fit each other at one letter of one of them. -/
theorem FreshRun.halts {steps : List Laying} (run : FreshRun o steps) (opened : g.Opened o)
    (stops : (layAll steps).Stops o (.coherence cause) r) : ∃ before l after p q, ∃ k : Nat,
      steps = before ++ l :: after ∧ (k : Int) < (r.clue l.clue).length ∧ HaltsAt g o before l k p q r cause := by
  obtain ⟨before,l,after,p,rfl,gives,stops⟩ := stops_forM_iff.mp stops
  have placed : Placed g o before p := run.front.placed opened gives
  have fresh : l.New o before := run.isNew
  rcases place_stops_at_iff.mp stops with ⟨_,_,other,_⟩ | ⟨checked,k,short,stopsAt⟩
  · cases other
  · obtain ⟨-,touched⟩ := placed.touched_of_stopsAt fresh checked short stopsAt
    obtain ⟨q,letters,stopsHere⟩ := stopsAt
    obtain ⟨laid,ready⟩ := placed.arrives fresh checked short letters
    obtain ⟨_,same,halted⟩ := laid.halted_of_stops ready stopsHere
    cases same
    have same : SameOutlines r p := touched.sameOutlines
    have length : (r.clue l.clue).length = (p.clue l.clue).length := same.kept Clue.length (fun _ => rfl) l.clue
    refine ⟨before,l,after,p,q,k,rfl,by rwa [length],?_⟩
    exact {
      new := fun member => fresh.fresh l member rfl
      fit := fun w member => Clue.fit_of_fresh (run.fresh w (List.mem_append_left _ member))
      placed := placed
      laid := laid
      ready := ready
      halted := halted
      outlines := fun i => (same i).trans (placed.laid.sameOutlines i) }

/-- Where no two clues of one direction share a place, at most one other clue lies over that of a
    clue. -/
theorem Separate.eq_of_covers (separate : Separate p (done ++ [l])) (fresh : l ∉ done) (covers : l.Covers p place)
    (one : m ∈ done) (covered : m.Covers p place) (other : w ∈ done) (covered' : w.Covers p place) : m = w := by
  have last : l ∈ done ++ [l] := by simp
  have crosses : ∀ n ∈ done, n.Covers p place → n.direction = l.direction.crossing := by
    intro n member overs
    refine eq_crossing_of_ne fun same => ?_
    exact separate n (List.mem_append_left _ member) l last same (fun alike => fresh (alike ▸ member)) place ⟨overs,covers⟩
  by_contra differ
  exact separate m (List.mem_append_left _ one) w (List.mem_append_left _ other)
    ((crosses m one covered).trans (crosses w other covered').symm) differ place ⟨covered,covered'⟩

/-- Compiled clues are laid in any order on a board just opened, and they stop because two
    solutions or two labels differ. The report gives the clue that is accused. It has the letter
    that is reported as existing exactly if its solution is not blank in that cell; and it starts
    in the cell, with another label than the clue that is refused, exactly if it starts there.
    Both hold if no two clues of one direction share a place. -/
theorem layAll_blames_iff (p : Puzzle) (width height : Nat) (steps : List Laying) :
    let start := p.openBoard ⟨width,height⟩
    FreshRun start steps →
      (∀ report r, (layAll steps).Stops start (.coherence (.letter report)) r → report.row = .solution →
        ∃ before l after m, ∃ k : Nat, ∃ letter existing, steps = before ++ l :: after ∧
          (k : Int) < (r.clue l.clue).length ∧ SolutionRefused r before l m k letter existing report ∧
          (m.Solves r (report.x,report.y) existing ↔ ¬ m.Solves r (report.x,report.y) blank) ∧
          (Separate r (before ++ [l]) → m.Solves r (report.x,report.y) existing)) ∧
        ∀ named other r, (layAll steps).Stops start (.coherence (.label named other)) r →
          ∃ before l after m label, steps = before ++ l :: after ∧ LabelRefused r before l m label (.label named other) ∧
            (m.start r = l.start r ∧ (r.clue m.clue).label ≠ (r.clue l.clue).label ↔ m.start r = l.start r) ∧
            (Separate r (before ++ [l]) → m.start r = l.start r) := by
  intro start run
  let g : Ground := ⟨p.cells.size,width,height⟩
  have opened : g.Opened start := Ground.opened_openBoard p width height
  constructor
  · intro report r stops solution
    obtain ⟨before,l,after,_,_,k,split,short,halts⟩ := run.halts opened stops
    obtain ⟨m,letter,existing,refused⟩ := halts.solutionRefused solution
    refine ⟨before,l,after,m,k,letter,existing,split,short,refused,?_,fun separate => ?_⟩
    · constructor
      · exact fun solves none => refused.letters.2.1 (solves.unique none)
      · exact fun filled => refused.held.resolve_right filled
    · obtain ⟨w,member,covered,solves⟩ := refused.source
      have covers : l.Covers r (report.x,report.y) := ⟨k,short,refused.place⟩
      rwa [separate.eq_of_covers halts.new covers refused.accused.mem refused.accused.covers member covered]
  · intro named other r stops
    obtain ⟨before,l,after,_,_,k,split,short,halts⟩ := run.halts opened stops
    obtain ⟨m,label,refused⟩ := halts.labelRefused
    refine ⟨before,l,after,m,label,split,refused,?_,fun separate => ?_⟩
    · constructor
      · exact And.left
      · exact fun starts => ⟨starts,fun alike => refused.other ((refused.all m refused.accused.mem starts).symm.trans alike)⟩
    · obtain ⟨w,member,starts⟩ := refused.source
      have first : l.Covers r (l.start r) := ⟨0,by omega,rfl⟩
      have positive : 0 < (r.clue w.clue).length := by
        rw [halts.outlines.kept Clue.length fun _ => rfl]
        exact (halts.fit w member).length_pos
      have covered : w.Covers r (l.start r) := ⟨0,positive,starts⟩
      rwa [separate.eq_of_covers halts.new first refused.accused.mem refused.accused.covers member covered]

/-- A clue specification with a solution. -/
def solvedSpecification (x y : Int) (clue solution : String) : Datum :=
  .table [(.text "x".toList,.whole x),(.text "y".toList,.whole y),(.text "clue".toList,.text clue.toList),
    (.text "solution".toList,.text solution.toList)]

/-- A pair of letters with their solution, a row over them without one, and two columns that start
    where the pair does: the first with another solution, the second with another label. -/
def coveredPair : Puzzle :=
  { Puzzle.empty with
    clues := #[.compiled (solvedSpecification 2 1 "2. Pair (2)" "AT") (.truth true),
      .compiled (specification 1 1 "1. Row (3)" "") (.truth true),
      .compiled (solvedSpecification 2 1 "2. Column (2)" "GO") (.truth false),
      .compiled (specification 2 1 "3. Column (2)" "") (.truth false)] }

/-- The pair, the row over it and one of the columns. -/
def pairThen (column : ClueId) : List Laying := [⟨.across,0⟩,⟨.across,1⟩,⟨.down,column⟩]

theorem freshRun_pairThen {column : ClueId} (either : column = 2 ∨ column = 3) :
    FreshRun (coveredPair.openBoard ⟨3,2⟩) (pairThen column) := by
  refine ⟨?_,?_,fun l member => ?_⟩
  · rcases either with rfl | rfl <;> decide
  · rcases either with rfl | rfl <;> decide
  · simp only [pairThen,List.mem_cons,List.not_mem_nil,or_false] at member
    rcases member with rfl | rfl | rfl
    · exact Clue.fresh_compiled (by decide +kernel)
    · exact Clue.fresh_compiled (by decide +kernel)
    · rcases either with rfl | rfl
      · exact Clue.fresh_compiled (by decide +kernel)
      · exact Clue.fresh_compiled (by decide +kernel)

/-- The column is refused for the letter of the pair, and the row is given, which has none. -/
theorem stops_solution_coveredPair : ∃ report r,
    (layAll (pairThen 2)).Stops (coveredPair.openBoard ⟨3,2⟩) (.coherence (.letter report)) r ∧
      report.row = .solution ∧ report.previous.map (·.1) = some "1a".toList ∧
      ((pairThen 2).map fun l => (r.clue l.clue).id) = ["2a".toList,"1a".toList,"2d".toList] ∧
      report.existing = ['A'] ∧ (r.clue 1).solution = [blank,blank,blank] := by
  have differ : (match ((layAll (pairThen 2)).run (coveredPair.openBoard ⟨3,2⟩)).result with
    | .error (.coherence (.letter report)) => report.row == .solution &&
        report.previous.map (·.1) == some "1a".toList && report.existing == ['A']
    | _ => false) = true := by decide +kernel
  split at differ
  · next report result =>
    simp only [Bool.and_eq_true,beq_iff_eq] at differ
    obtain ⟨⟨solution,previous⟩,existing⟩ := differ
    exact ⟨report,_,⟨result,rfl⟩,solution,previous,by decide +kernel,existing,by decide +kernel⟩
  · cases differ

/-- The other column is refused for the label of the pair, and the row is given, which starts
    elsewhere. -/
theorem stops_label_coveredPair : ∃ r,
    (layAll (pairThen 3)).Stops (coveredPair.openBoard ⟨3,2⟩)
      (.coherence (.label "3d".toList (some "1a".toList))) r ∧
      ((pairThen 3).map fun l => ((r.clue l.clue).id,l.start r)) =
        [("2a".toList,1,0),("1a".toList,0,0),("3d".toList,1,0)] := by
  have differ : (match ((layAll (pairThen 3)).run (coveredPair.openBoard ⟨3,2⟩)).result with
    | .error (.coherence cause) => cause == .label "3d".toList (some "1a".toList)
    | _ => false) = true := by decide +kernel
  split at differ
  · next cause result =>
    cases eq_of_beq differ
    exact ⟨_,⟨result,rfl⟩,by decide +kernel⟩
  · cases differ

/-- What a report of solutions gives as the previous clue need not have the letter reported as
    existing, and what one of labels gives as the other clue need not start in the cell. -/
theorem not_layAll_blames :
    (¬ ∀ (p : Puzzle) (width height : Nat) (steps : List Laying) (report : LetterConflict) (r : Puzzle),
      FreshRun (p.openBoard ⟨width,height⟩) steps →
      (layAll steps).Stops (p.openBoard ⟨width,height⟩) (.coherence (.letter report)) r → report.row = .solution →
      ∃ m ∈ steps, report.previous.map (·.1) = some (r.clue m.clue).id ∧
        ∃ existing, report.existing = [existing] ∧ m.Solves r (report.x,report.y) existing) ∧
    ¬ ∀ (p : Puzzle) (width height : Nat) (steps : List Laying) (named : Text) (other : Option Text) (r : Puzzle),
      FreshRun (p.openBoard ⟨width,height⟩) steps →
      (layAll steps).Stops (p.openBoard ⟨width,height⟩) (.coherence (.label named other)) r →
      ∃ l ∈ steps, ∃ m ∈ steps, named = (r.clue l.clue).id ∧ other = some (r.clue m.clue).id ∧
        m.start r = l.start r ∧ (r.clue m.clue).label ≠ (r.clue l.clue).label := by
  constructor
  · intro claimed
    obtain ⟨report,r,stops,solution,previous,ids,existing,empty⟩ := stops_solution_coveredPair
    obtain ⟨m,member,named,letter,shown,k,-,solves⟩ :=
      claimed coveredPair 3 2 _ report r (freshRun_pairThen (.inl rfl)) stops solution
    simp only [pairThen,List.map_cons,List.map_nil,List.cons.injEq,and_true] at ids
    rw [previous] at named
    simp only [pairThen,List.mem_cons,List.not_mem_nil,or_false] at member
    rcases member with rfl | rfl | rfl
    · simp [ids.1] at named
    · obtain rfl : 'A' = letter := by simpa [existing] using shown
      have := List.mem_of_getElem? solves
      simp [empty,blank] at this
    · simp [ids.2.2] at named
  · intro claimed
    obtain ⟨r,stops,starts⟩ := stops_label_coveredPair
    obtain ⟨l,inside,m,member,named,given,same,-⟩ :=
      claimed coveredPair 3 2 _ _ _ r (freshRun_pairThen (.inr rfl)) stops
    simp only [pairThen,List.map_cons,List.map_nil,List.cons.injEq,and_true,Prod.mk.injEq] at starts
    obtain ⟨⟨pair,_⟩,⟨row,first⟩,⟨column,second⟩⟩ := starts
    simp only [pairThen,List.mem_cons,List.not_mem_nil,or_false] at inside member
    rcases inside with rfl | rfl | rfl
    · simp [pair] at named
    · simp [row] at named
    · rcases member with rfl | rfl | rfl
      · simp [pair] at given
      · rw [first,second] at same
        cases same
      · simp [column] at given

/-- The column is refused for a letter that the pair has brought. -/
theorem blames_coveredPair : ∃ report r, FreshRun (coveredPair.openBoard ⟨3,2⟩) (pairThen 2) ∧
    (layAll (pairThen 2)).Stops (coveredPair.openBoard ⟨3,2⟩) (.coherence (.letter report)) r ∧ report.row = .solution ∧
      ∃ before l m k letter existing, SolutionRefused r before l m k letter existing report := by
  have run := freshRun_pairThen (.inl rfl)
  obtain ⟨report,r,stops,solution,-,-,-,-⟩ := stops_solution_coveredPair
  obtain ⟨before,l,_,m,k,letter,existing,-,-,refused,-,-⟩ := (layAll_blames_iff coveredPair 3 2 _ run).1 report r stops solution
  exact ⟨report,r,run,stops,solution,before,l,m,k,letter,existing,refused⟩

end

end Crossword
