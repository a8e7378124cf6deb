import Crossword.Proofs.Drafting
import Crossword.Proofs.Phases

/-!
Compilation stays in range. It stops at its header, at its size, at a clue that does not compile
by itself, at one that breaks the bounds, at a letter that it arrives at, or at a reference
(`StopsFor`), and of a letter that it arrives at every place it looks up exists, without counting
from the end (`Laid.inRange`). So whatever is given as a definition is compiled or refused for one of
the causes that a definition can be refused for, and none of them is a place out of range; only a
clue with more letters than a text can hold is stopped for another cause (`compile_in_range`). The
letters that are arrived at are the ones that a compilation lays (`arrives_of_compiled`), and where
it stops for clues that disagree it stops at one of them (`arrives_of_coherence`).
-/
namespace Crossword
open Edit Placement

/-- The causes for which a definition is refused. -/
def Fault.IsRefusal : Fault → Prop
  | .structure _ | .schema _ | .grammar _ | .length _ | .bounds _ | .coherence _ | .link _ => True
  | .room _ | .audit _ | .rejected _ | .index _ => False

/-- A run of clues arrives at a letter: the clues before have been laid, this one keeps to
    the bounds, and its letters before this one have been laid. -/
def Placement.Arrives (o : Puzzle) (steps : List Laying) (l : Laying) (k : Nat) (p : Puzzle) : Prop :=
  ∃ before after q, steps = before ++ l :: after ∧ (layAll before).Gives o () q ∧
    checkBounds q.board.bounds (q.clue l.clue) l.direction = .ok () ∧ (k : Int) < (q.clue l.clue).length ∧
      (layLetters l.direction l.clue 0 k).Gives (q.updateBoard fun board => board.addLaid l.direction l.clue) () p

/-- The compilation of a definition arrives at a letter of a clue: its clues are prepared, and laying
    them arrives there. -/
def Definition.Arrives (definition : Datum) (config : Config) (l : Laying) (k : Nat) (p : Puzzle) : Prop :=
  ∃ entries clues o, definition = .table entries ∧ (prepare entries config).Gives Puzzle.empty clues o ∧
    Placement.Arrives o (acrossThenDown clues.1 clues.2) l k p

/-- Where the compilation of a definition stops, and for which fault. -/
inductive Definition.StopsFor (definition : Datum) (config : Config) : Fault → Prop
  | size (cause : StructureFault) : StopsFor definition config (.structure cause)
  | header (cause : SchemaFault) : StopsFor definition config (.schema cause)
  | clue {d : Direction} {spec : Datum} {fault : Fault} : spec ∈ specsOf d definition →
      Clue.compile spec (.truth d.isAcross) config.tagEmphasis = .error fault → StopsFor definition config fault
  | bounds (cause : BoundsFault) : StopsFor definition config (.bounds cause)
  | letter {l : Laying} {k : Nat} {p q : Puzzle} {fault : Fault} : Definition.Arrives definition config l k p →
      (layLetter l.direction l.clue k).Stops p fault q → StopsFor definition config fault
  | link (cause : LinkFault) : StopsFor definition config (.link cause)

/-- All that is looked up to lay a letter exists: a column and a row of the grid, counted
    from the start, the mark of the word that ends there, the letter in both rows of the
    clue, and in the answer of a clue that crosses the letter that its cell is tied to. So
    nothing stops the letter but one that differs or another label. -/
structure InRange (p : Puzzle) (l : Laying) (k : Nat) : Prop where
  column : 0 ≤ ((p.clue l.clue).spot l.direction k).1 ∧ ((p.clue l.clue).spot l.direction k).1 < p.board.width
  row : 0 ≤ ((p.clue l.clue).spot l.direction k).2 ∧ ((p.clue l.clue).spot l.direction k).2 < p.board.height
  columns : (p.board.columns.length : Int) = p.board.width
  rows : ∀ column ∈ p.board.columns, (column.length : Int) = p.board.height
  mark : ∀ word, Enumeration.endingWord? k (p.clue l.clue).wordLengths = some word →
    word < (p.clue l.clue).terminators.length
  letter : ∀ r, k < ((p.clue l.clue).row r).length
  crossing : ∀ c i position, cellFor l.direction l.clue k p = .ok c →
    ((p.cell c).slot l.direction.crossing).clue = some i →
      ((p.cell c).slot l.direction.crossing).letter = some position →
        0 ≤ position ∧ position < (p.clue i).answer.length
  stops : ∀ fault q, (layLetter l.direction l.clue k).Stops p fault q → ∃ cause, fault = .coherence cause

section
variable {g : Ground} {o p q : Puzzle} {trail : List Stroke} {s : Stroke} {l : Laying} {steps : List Laying} {k : Nat}
  {fault : Fault}

/-! ### Where placement stops -/

/-- A run of clues stops at a clue that breaks the bounds or at a letter that it arrives
    at. -/
theorem layAll_stops (stops : (layAll steps).Stops o fault q) :
    (∃ cause, fault = .bounds cause) ∨
      ∃ l k p, Arrives o steps l k p ∧ (layLetter l.direction l.clue k).Stops p fault q := by
  obtain ⟨before,l,after,m,split,laid,stops⟩ := stops_forM_iff.mp stops
  rcases place_stops_at_iff.mp stops with ⟨cause,_,rfl,_⟩ | ⟨checked,k,short,p,gives,stops⟩
  · exact .inl ⟨cause,rfl⟩
  · exact .inr ⟨l,k,p,⟨before,after,m,split,laid,checked,short,gives⟩,stops⟩

/-! ### What is looked up for a letter -/

/-- A letter that a run arrives at is ready to be laid after the letters before it. -/
theorem Placement.Arrives.ready (opened : g.Opened o) (run : FreshRun o steps) (arrives : Arrives o steps l k p) :
    ∃ trail, Laid g o trail p ∧ Ready g o trail ⟨l.direction,l.clue,k⟩ := by
  obtain ⟨before,after,q,rfl,laid,checked,short,gives⟩ := arrives
  exact ⟨_,(run.front.placed opened laid).arrives run.isNew checked short gives⟩

/-- A letter that is ready to be laid is in range. -/
theorem Laid.inRange (laid : Laid g o trail p) (ready : Ready g o trail ⟨l.direction,l.clue,k⟩) : InRange p l k where
  column := by
    rw [laid.spot_eq,laid.board_width]
    exact (Ground.inside_iff.mp ready.inside).1
  row := by
    rw [laid.spot_eq,laid.board_height]
    exact (Ground.inside_iff.mp ready.inside).2
  columns := by rw [laid.columns,laid.board_width,Ground.length_columns]
  rows column member := by
    rw [laid.columns] at member
    rw [laid.board_height,Ground.length_column member]
  mark word ends := by
    rw [laid.clue] at ends ⊢
    show word < (o.clue l.clue).terminators.length
    rw [ready.fit.marks]
    exact Enumeration.endingWord?_lt ends
  letter r := by
    rw [laid.row_length]
    exact ready.letter_lt r
  crossing c i position found tied numbered := by
    -- What the cell is tied to is the newest stroke of the crossing direction there.
    rw [laid.cellFor_eq ready] at found
    cases found
    rw [(laid.marked _ ready.inside).slot] at tied numbered
    obtain ⟨t,newest,rfl⟩ := Option.map_eq_some_iff.mp tied
    rw [slotOf,newest,Option.map_some] at numbered
    cases numbered
    have short := laid.letter_lt (latest_mem newest).1 .answer
    exact ⟨Int.natCast_nonneg _,Int.ofNat_lt.mpr short⟩
  stops _ _ stops := by
    obtain ⟨cause,same,_⟩ := laid.halted_of_stops ready stops
    exact ⟨cause,same⟩

/-! ### Where a compilation stops -/

section
variable {d : Direction} {specs : List Datum} {entries : List (Datum × Datum)} {config : Config} {tagEmphasis : Bool}
  {definition : Datum}

theorem addEach_stops (stops : (Definition.addEach d.isAcross tagEmphasis specs).Stops p fault q) :
    ∃ spec ∈ specs, Clue.compile spec (.truth d.isAcross) tagEmphasis = .error fault := by
  induction specs generalizing p with
  | nil => exact absurd stops not_stops_pure
  | cons spec rest ih =>
    simp only [Definition.addEach,stops_bind,not_stops_pure,and_false,exists_false,or_false] at stops
    rcases stops with now | ⟨_,m,_,later⟩
    · refine ⟨spec,List.mem_cons_self,?_⟩
      simp only [Definition.addClue,stops_bind,stops_ofExcept,gives_ofExcept,not_stops_enter,not_stops_read,
        not_stops_change,not_stops_pure,and_false,exists_false,or_false] at now
      unfold Clue.compile
      rcases now with ⟨⟨_,refused,rfl⟩,_⟩ | ⟨draft,_,⟨read,_⟩,⟨_,refused,rfl⟩,_⟩
      · simp only [refused,id]
      · simp only [read,refused,id]
    · obtain ⟨other,member,refused⟩ := ih later
      exact ⟨other,List.mem_cons_of_mem _ member,refused⟩

theorem addClues_stopsFor
    (stops : (Definition.addClues d.cluesKey d.isAcross entries config.tagEmphasis).Stops p fault q) :
    Definition.StopsFor (.table entries) config fault := by
  simp only [Definition.addClues,stops_bind,stops_ofExcept,gives_ofExcept] at stops
  rcases stops with ⟨⟨cause,_,rfl⟩,_⟩ | ⟨specs,_,⟨found,_⟩,later⟩
  · exact .header cause
  · obtain ⟨spec,member,refused⟩ := addEach_stops later
    refine @Definition.StopsFor.clue _ _ d _ _ ?_ refused
    simpa [Definition.specsOf,found,Except.toOption] using member

theorem prepare_stopsFor (stops : (Definition.prepare entries config).Stops p fault q) :
    Definition.StopsFor (.table entries) config fault := by
  simp only [Definition.prepare,stops_bind,stops_ofExcept,not_stops_pure,and_false,exists_false,or_false] at stops
  rcases stops with ⟨⟨cause,_,rfl⟩,_⟩ | ⟨_,_,_,stops | ⟨_,_,_,stops | ⟨_,_,_,stops⟩⟩⟩
  · exact .header cause
  · unfold Definition.openBoard at stops
    split at stops
    · exact absurd stops not_stops_change
    · obtain ⟨rfl,_⟩ := stops_stop.mp stops
      exact .size _
  · exact addClues_stopsFor (d := .across) stops
  · exact addClues_stopsFor (d := .down) stops

theorem compileEntries_stopsFor (stops : (Definition.compileEntries entries config).Stops Puzzle.empty fault q) :
    Definition.StopsFor (.table entries) config fault := by
  -- An audit in the end stops nothing.
  rw [Stops,run_compileEntries_unaudited,← Stops] at stops
  simp only [Definition.compileEntries,stops_bind,Bool.false_eq_true,if_false,not_stops_read,not_stops_enter,and_false,
    exists_false,or_false] at stops
  rcases stops with stops | ⟨clues,o,prepared,stops⟩
  · exact prepare_stopsFor stops
  obtain ⟨g,opened,run⟩ := freshRun_of_prepare prepared
  rcases stops with stops | ⟨_,_,assembled,stops⟩
  · rcases layAll_stops (assemble_stops_iff.mp stops) with ⟨cause,rfl⟩ | ⟨l,k,m,arrives,stops⟩
    · exact .bounds cause
    · exact .letter ⟨entries,clues,o,rfl,prepared,arrives⟩ stops
  · obtain ⟨r,laid,rfl⟩ := assemble_gives_iff.mp assembled
    rcases link_outcome (distinctClues_placed run (run.placed opened laid)) with ⟨_,_,gives,_⟩ | ⟨_,cause,_,stops'⟩
    · exact absurd stops (not_stops_of_gives gives)
    · obtain ⟨rfl,_⟩ := stops_unique stops' stops
      exact .link cause

theorem stops_of_compile (failed : (Puzzle.compile definition config).1 = .error fault) :
    ∃ q, (Definition.compile definition config).Stops Puzzle.empty fault q := by
  rcases gives_or_stops (Definition.compile definition config) Puzzle.empty with ⟨_,p,gives⟩ | ⟨cause,q,stops⟩
  · rw [compile_eq_ok_iff.mpr gives] at failed
    cases failed
  · simp only [Puzzle.compile,stops.1,Except.map,Except.error.injEq] at failed
    exact ⟨q,failed ▸ stops⟩

theorem compile_stopsFor (failed : (Puzzle.compile definition config).1 = .error fault) :
    Definition.StopsFor definition config fault := by
  obtain ⟨q,stops⟩ := stops_of_compile failed
  cases definition with
  | table entries => exact compileEntries_stopsFor stops
  | _ =>
    obtain ⟨rfl,_⟩ := stops_stop.mp stops
    exact .size _

/-! ### What a compilation arrives at -/

theorem Definition.Arrives.inRange (arrives : Definition.Arrives definition config l k p) : InRange p l k := by
  obtain ⟨entries,clues,m,_,prepared,arrives⟩ := arrives
  obtain ⟨g,opened,run⟩ := freshRun_of_prepare prepared
  obtain ⟨trail,laid,ready⟩ := arrives.ready opened run
  exact laid.inRange ready

theorem layLetters_front {i : ClueId} {n more : Nat} (gives : (layLetters d i k more).Gives p () q) (short : n ≤ more) :
    ∃ m, (layLetters d i k n).Gives p () m := by
  rcases gives_or_stops (layLetters d i k n) p with ⟨_,m,front⟩ | ⟨fault,m,stops⟩
  · exact ⟨m,front⟩
  · -- A front that stops stops the whole at the same letter.
    obtain ⟨before,r,early,front,now⟩ := layLetters_stops_iff.mp stops
    have whole := layLetters_stops_iff.mpr ⟨before,r,Nat.lt_of_lt_of_le early short,front,now⟩
    exact absurd whole (not_stops_of_gives gives)

/-- A run that goes through arrives at every letter of its clues. -/
theorem layAll_arrives (opened : g.Opened o) (run : FreshRun o steps) (gives : (layAll steps).Gives o () q)
    (member : l ∈ steps) (short : (k : Int) < (o.clue l.clue).length) : ∃ p, Arrives o steps l k p := by
  obtain ⟨before,after,rfl⟩ := List.append_of_mem member
  obtain ⟨m,front,rest⟩ := gives_forM_append.mp gives
  obtain ⟨r,now,_⟩ := gives_forM_cons.mp rest
  obtain ⟨checked,letters⟩ := place_gives_iff.mp now
  have length := (run.front.placed opened front).laid.length_eq l.clue
  obtain ⟨p,letters⟩ := layLetters_front letters (by omega : k ≤ (m.clue l.clue).length.toNat)
  exact ⟨p,before,after,m,rfl,front,checked,by omega,letters⟩

/-- A compilation that goes through has arrived at every letter of its clues. -/
theorem arrives_of_compiled {i : ClueId} (compiled : (Puzzle.compile definition config).1 = .ok q)
    (member : i ∈ q.board.laid d) (short : (k : Int) < (q.clue i).length) :
    ∃ p, Definition.Arrives definition config ⟨d,i⟩ k p := by
  obtain ⟨entries,clues,m,r,rfl,prepared,assembled,linked⟩ := compile_prepared compiled
  obtain ⟨g,p,built⟩ := built_of_prepared prepared assembled linked
  obtain ⟨_,laid,_⟩ := assemble_gives_iff.mp assembled
  have length : (q.clue i).length = (m.clue i).length := (congrArg Clue.length (built.outline i) :)
  rw [length] at short
  obtain ⟨p,arrives⟩ := layAll_arrives built.placed.laid.opened built.run laid (built.mem_laid_iff.mp member) short
  exact ⟨p,entries,clues,m,rfl,prepared,arrives⟩

/-! ### Faults -/

theorem Clue.compile_refuses {spec across : Datum} (refused : Clue.compile spec across tagEmphasis = .error fault) :
    (∃ cause, fault = .schema cause) ∨ (∃ cause, fault = .grammar cause) ∨ (∃ cause, fault = .length cause) ∨
      ∃ cause, fault = .room cause := by
  rcases compile_cases spec across tagEmphasis with ⟨cause,_,made⟩ | ⟨_,cause,_,_,made⟩ | ⟨s,w,_,_,made⟩
  · exact .inl ⟨cause,Except.error.inj (refused.symm.trans made)⟩
  · exact .inr (.inl ⟨cause,Except.error.inj (refused.symm.trans made)⟩)
  · rw [refused] at made
    rcases clue_outcome s w tagEmphasis with ⟨_,cause,drawn⟩ | ⟨_,_,cause,drawn⟩ | ⟨_,_,drawn⟩
    · exact .inr (.inr (.inl ⟨cause,Except.error.inj (made.trans drawn)⟩))
    · exact .inr (.inr (.inr ⟨cause,Except.error.inj (made.trans drawn)⟩))
    · cases made.trans drawn

/-- What stops a compilation refuses the definition, or it is the size of a clue. -/
theorem Definition.StopsFor.refuses (stopsFor : Definition.StopsFor definition config fault) :
    fault.IsRefusal ∨ (∃ cause, fault = .room cause) ∧
      ∃ d, ∃ spec ∈ Definition.specsOf d definition, Oversized spec (.truth d.isAcross) := by
  cases stopsFor with
  | size | header | bounds | link => exact .inl trivial
  | clue member refused =>
    rcases Clue.compile_refuses refused with ⟨_,rfl⟩ | ⟨_,rfl⟩ | ⟨_,rfl⟩ | ⟨cause,rfl⟩
    · exact .inl trivial
    · exact .inl trivial
    · exact .inl trivial
    · exact .inr ⟨⟨cause,rfl⟩,_,_,member,compile_room_iff.mp ⟨cause,refused⟩⟩
  | letter arrives stops =>
    obtain ⟨cause,rfl⟩ := arrives.inRange.stops _ _ stops
    exact .inl trivial

/-- A compilation that stops for clues that disagree stops at a letter that it has arrived at. -/
theorem arrives_of_coherence {cause : CoherenceFault}
    (failed : (Puzzle.compile definition config).1 = .error (.coherence cause)) :
    ∃ l k p q, Definition.Arrives definition config l k p ∧
      (layLetter l.direction l.clue k).Stops p (.coherence cause) q := by
  cases compile_stopsFor failed with
  | clue _ refused =>
    rcases Clue.compile_refuses refused with ⟨_,other⟩ | ⟨_,other⟩ | ⟨_,other⟩ | ⟨_,other⟩ <;> cases other
  | letter arrives stops => exact ⟨_,_,_,_,arrives,stops⟩

end

/-! ### Whole compilations -/

/-- A grid of nine cells with a clue for which there is no room anywhere. -/
def overfull : Datum :=
  .table [(.text "width".toList,.whole 3),(.text "height".toList,.whole 3),(.text "acrossClues".toList,.list [immense])]

end

end Crossword
