import Crossword.Proofs.Covering
import Crossword.Proofs.WordEnds

/-!
The marks that cells print between words. A cell keeps for each direction the mark of the word
that ended there last: a clue that has no word end there leaves it alone, also when it is laid
later and is the one that the cell then names (`layAll_marks`). A clue that shares its cells with
no other of its direction has on them the marks of its words but the last, in their order.
-/
namespace Crossword
open Edit Placement

/-- The clue is compiled from a specification whose enumeration is laid out so. -/
def Clue.Enumerated (c : Clue) (layout : Enumeration.Layout) : Prop :=
  ∃ spec across tagEmphasis s w, Clue.compile spec across tagEmphasis = .ok c ∧ Specified spec across s ∧
    Wording.read s.clue = .ok w ∧ layout.text = w.parts.enumeration

/-- A word of the clue before the last ends on the place, and its enumeration has the mark after
    this word. -/
def Laying.EndsWord (o : Puzzle) (l : Laying) (place : Place) (mark : Text) : Prop :=
  ∃ layout k, (o.clue l.clue).Enumerated layout ∧ layout.Ends k mark ∧ (o.clue l.clue).spot l.direction k = place

/-- The mark is the one of the last clue of a direction that has a word end on the place. -/
def LastEnd (o : Puzzle) (steps : List Laying) (d : Direction) (place : Place) (mark : Text) : Prop :=
  ∃ before l after, steps = before ++ l :: after ∧ l.direction = d ∧ l.EndsWord o place mark ∧
    ∀ m ∈ after, m.direction = d → ¬ ∃ other, m.EndsWord o place other

section
variable {g : Ground} {o p q : Puzzle} {s : Stroke} {l : Laying} {steps : List Laying} {d : Direction} {place : Place}
  {c : Clue} {layout : Enumeration.Layout} {k : Nat} {mark : Text}

/-! ### Words of compiled clues -/

theorem Clue.Fresh.enumerated (fresh : c.Fresh) : ∃ layout, c.Enumerated layout := by
  obtain ⟨spec,across,tagEmphasis,compiled⟩ := fresh
  obtain ⟨s,w,specified,wording,_⟩ := made_of_compile compiled
  obtain ⟨_,_,words,_⟩ := Wording.read_eq_ok_iff.mp wording
  obtain ⟨layout,text,_⟩ := Enumeration.read_eq_ok_iff.mp words
  exact ⟨layout,spec,across,tagEmphasis,s,w,compiled,specified,wording,text⟩

/-- The clue has the words that are laid out. -/
theorem Clue.Enumerated.made (enumerated : c.Enumerated layout) : ∃ s w, c.Made s w ∧ w.words = layout.words := by
  obtain ⟨spec,across,tagEmphasis,s,w,compiled,specified,wording,text⟩ := enumerated
  obtain ⟨t,v,specified',wording',made⟩ := made_of_compile compiled
  obtain rfl := specified.unique specified'
  obtain rfl : w = v := Except.ok.inj (wording.symm.trans wording')
  obtain ⟨_,_,words,_⟩ := Wording.read_eq_ok_iff.mp wording
  rw [← text,Enumeration.read_layout] at words
  exact ⟨s,w,made,(Except.ok.inj words).symm⟩

namespace Clue.Enumerated
variable (enumerated : c.Enumerated layout)
include enumerated

theorem wordLengths : c.wordLengths = layout.words.map fun word => (word.length : Int) := by
  obtain ⟨_,_,made,words⟩ := enumerated.made
  rw [made.wordLengths,words]

theorem terminators : c.terminators = layout.words.map Word.terminator := by
  obtain ⟨_,_,made,words⟩ := enumerated.made
  rw [made.terminators,words]

theorem length_eq : c.length = c.wordLengths.sum := by
  obtain ⟨_,_,made,_⟩ := enumerated.made
  rw [made.length_eq,made.wordLengths,Nat.cast_list_sum,List.map_map]
  rfl

/-- The mark after a letter is the one of the word that ends there. -/
theorem terminator_eq (k : Nat) : terminator c k =
    .ok ((Enumeration.endingWord? k c.wordLengths).bind fun word => c.terminators[word]?) := by
  rw [terminator]
  cases ends : Enumeration.endingWord? k c.wordLengths with
  | none => rfl
  | some word =>
    rw [enumerated.wordLengths,Enumeration.endingWord?_eq_some_iff layout.length_pos,List.length_map] at ends
    obtain ⟨i,-,found⟩ := layout.getElem?_terminators ends.1
    rw [← enumerated.terminators] at found
    -- The mark is not empty, so that no blank stands in for it.
    have some_mark := i.terminator_ne_nil
    simp only [Option.bind_some,found]

/-- Words end within the clue. -/
theorem lt_of_ends (ends : layout.Ends k mark) : (k : Int) < c.length := by
  obtain ⟨word,found,_⟩ := layout.ends_iff.mp ends
  have bounds := Enumeration.bounds_of_endingWord? layout.length_pos found
  rw [enumerated.length_eq,enumerated.wordLengths]
  omega

end Clue.Enumerated

/-! ### Marks of strokes -/

theorem mark_eq (enumerated : (o.clue s.clue).Enumerated layout) : s.mark o =
    (Enumeration.endingWord? s.letter (o.clue s.clue).wordLengths).bind
      fun word => (o.clue s.clue).terminators[word]? := by
  rw [Stroke.mark,enumerated.terminator_eq]

theorem mark_eq_some_iff (enumerated : (o.clue s.clue).Enumerated layout) :
    s.mark o = some mark ↔ layout.Ends s.letter mark := by
  rw [mark_eq enumerated,layout.ends_iff,← enumerated.wordLengths,← enumerated.terminators,Option.bind_eq_some_iff]

theorem endsWord_iff (fresh : (o.clue l.clue).Fresh) :
    l.EndsWord o place mark ↔ ∃ s ∈ l.strokes o, s.place o = place ∧ s.mark o = some mark := by
  constructor
  · rintro ⟨layout,k,enumerated,ends,on⟩
    exact ⟨⟨l.direction,l.clue,k⟩,mem_strokes.mpr ⟨rfl,rfl,enumerated.lt_of_ends ends⟩,on,
      (mark_eq_some_iff enumerated).mpr ends⟩
  · rintro ⟨⟨direction,clue,k⟩,stroke,on,marked⟩
    obtain ⟨rfl,rfl,_⟩ := mem_strokes.mp stroke
    obtain ⟨layout,enumerated⟩ := fresh.enumerated
    exact ⟨layout,k,enumerated,(mark_eq_some_iff enumerated).mp marked,on⟩

theorem Laying.EndsWord.mark_ne_nil (ends : l.EndsWord o place mark) : mark ≠ [] := by
  obtain ⟨_,_,_,⟨_,i,_,_,_,rfl⟩,_⟩ := ends
  exact i.terminator_ne_nil

/-- The mark that a stroke of a direction leaves on a place. -/
def Stroke.markOn (o : Puzzle) (d : Direction) (place : Place) (s : Stroke) : Option Text :=
  if s.direction = d ∧ s.place o = place then s.mark o else none

theorem markOn_eq_some_iff : s.markOn o d place = some mark ↔
    (s.direction = d ∧ s.place o = place) ∧ s.mark o = some mark := by
  rw [Stroke.markOn]
  split
  · next here => simp [here]
  · next off => simp [off]

/-- A clue leaves no mark in a direction on a place exactly if no word of it ends there. -/
theorem markOn_eq_none_iff (fresh : (o.clue l.clue).Fresh) :
    (∀ s ∈ l.strokes o, s.markOn o d place = none) ↔ (l.direction = d → ¬ ∃ mark, l.EndsWord o place mark) := by
  simp only [endsWord_iff fresh]
  constructor
  · rintro none direction ⟨mark,s,stroke,on,marked⟩
    have left := markOn_eq_some_iff.mpr ⟨⟨(mem_strokes.mp stroke).1.trans direction,on⟩,marked⟩
    rw [none s stroke] at left
    cases left
  · intro none s stroke
    refine Option.eq_none_iff_forall_ne_some.mpr fun mark left => ?_
    obtain ⟨⟨direction,on⟩,marked⟩ := markOn_eq_some_iff.mp left
    exact none ((mem_strokes.mp stroke).1.symm.trans direction) ⟨mark,s,stroke,on,marked⟩

/-- The mark that a clue leaves is the one of the word that ends there: only one letter of it
    falls on the place. -/
theorem findSome?_markOn (fresh : (o.clue l.clue).Fresh) :
    (l.strokes o).reverse.findSome? (Stroke.markOn o d place) = some mark ↔
      l.direction = d ∧ l.EndsWord o place mark := by
  constructor
  · intro found
    obtain ⟨s,member,marked⟩ := List.exists_of_findSome?_eq_some found
    obtain ⟨⟨direction,on⟩,marked⟩ := markOn_eq_some_iff.mp marked
    have stroke := List.mem_reverse.mp member
    exact ⟨(mem_strokes.mp stroke).1.symm.trans direction,(endsWord_iff fresh).mpr ⟨s,stroke,on,marked⟩⟩
  · rintro ⟨direction,ends⟩
    cases found : (l.strokes o).reverse.findSome? (Stroke.markOn o d place) with
    | none =>
      simp only [List.findSome?_eq_none_iff,List.mem_reverse] at found
      exact absurd ⟨mark,ends⟩ ((markOn_eq_none_iff fresh).mp found direction)
    | some other =>
      obtain ⟨s,stroke,on,marked⟩ := (endsWord_iff fresh).mp ends
      obtain ⟨t,member,marked'⟩ := List.exists_of_findSome?_eq_some found
      obtain ⟨⟨_,on'⟩,marked'⟩ := markOn_eq_some_iff.mp marked'
      obtain rfl := eq_of_mem_strokes stroke (List.mem_reverse.mp member) (on.trans on'.symm)
      exact marked'.symm.trans marked

section
variable (fresh : ∀ l ∈ steps, (o.clue l.clue).Fresh)
include fresh

/-- What a run prints on a place in a direction is the mark of the last word end there. -/
theorem terminator_slotOf_eq_some_iff :
    (slotOf o (strokesOf o steps).reverse d place).terminator = some mark ↔ LastEnd o steps d place mark := by
  show (strokesOf o steps).reverse.findSome? (Stroke.markOn o d place) = _ ↔ _
  rw [findSome?_strokesOf]
  refine exists_congr fun before => exists_congr fun l => exists_congr fun after => and_congr_right fun split => ?_
  rw [findSome?_markOn (fresh l (by simp [split])),and_assoc]
  refine and_congr_right fun _ => and_congr_right fun _ => forall₂_congr fun m member => ?_
  exact markOn_eq_none_iff (fresh m (by simp [split,member]))

theorem terminator_slotOf_eq_none_iff : (slotOf o (strokesOf o steps).reverse d place).terminator = none ↔
    ∀ l ∈ steps, l.direction = d → ¬ ∃ mark, l.EndsWord o place mark := by
  show (strokesOf o steps).reverse.findSome? (Stroke.markOn o d place) = _ ↔ _
  simp only [List.findSome?_eq_none_iff,List.mem_reverse,mem_strokesOf]
  constructor
  · intro none l member
    exact (markOn_eq_none_iff (fresh l member)).mp fun s stroke => none s ⟨l,member,stroke⟩
  · rintro none s ⟨l,member,stroke⟩
    exact (markOn_eq_none_iff (fresh l member)).mpr (none l member) s stroke

end

/-! ### After a run -/

theorem filterMap_getElem? {α : Type} (items : List α) (n : Nat) :
    ((List.range n).filterMap fun k => items[k]?) = items.take n := by
  induction n with
  | zero => simp
  | succ n ih =>
    rw [List.range_succ,List.filterMap_append,ih,List.take_add_one,List.filterMap_cons]
    cases items[n]? <;> rfl

/-- The marks of a clue's letters one after the other are those of its words but the last. -/
theorem filterMap_mark (enumerated : (o.clue l.clue).Enumerated layout) :
    ((List.range (o.clue l.clue).length.toNat).filterMap fun k => (⟨l.direction,l.clue,k⟩ : Stroke).mark o) =
      (layout.words.map Word.terminator).dropLast := by
  have positive : ∀ n ∈ (o.clue l.clue).wordLengths, 0 < n := by
    rw [enumerated.wordLengths]
    exact layout.length_pos
  have words : (o.clue l.clue).wordLengths.length = (o.clue l.clue).terminators.length := by
    simp [enumerated.wordLengths,enumerated.terminators]
  simp only [mark_eq (s := ⟨l.direction,l.clue,_⟩) enumerated]
  rw [← List.filterMap_filterMap,enumerated.length_eq,Enumeration.filterMap_endingWord? positive,filterMap_getElem?,
    words,← List.dropLast_eq_take,enumerated.terminators]

section
variable (placed : Placed g o steps p) (run : FreshRun o steps)
include placed run

/-- A clue that shares its cells with no other of its direction has its own marks on them. -/
theorem Placed.terminator_alone (member : l ∈ steps)
    (alone : ∀ m ∈ steps, m ≠ l → m.direction = l.direction → ∀ place, l.Covers p place → ¬ m.Covers p place)
    (short : (k : Int) < (p.clue l.clue).length) :
    ((p.cell (g.cellOn ((p.clue l.clue).spot l.direction k))).slot l.direction).terminator =
      (⟨l.direction,l.clue,k⟩ : Stroke).mark o := by
  have inside := placed.inside member short
  rw [placed.laid.length_eq] at short
  have stroke : (⟨l.direction,l.clue,k⟩ : Stroke) ∈ l.strokes o := mem_strokes.mpr ⟨rfl,rfl,short⟩
  rw [(placed.laid.marked _ inside).slot,placed.laid.spot_eq]
  cases found : (slotOf o (strokesOf o steps).reverse l.direction ((o.clue l.clue).spot l.direction k)).terminator with
  | none =>
    have unmarked := (terminator_slotOf_eq_none_iff run.fresh).mp found l member rfl
    cases marked : (⟨l.direction,l.clue,k⟩ : Stroke).mark o with
    | none => rfl
    | some mark => exact absurd ⟨mark,(endsWord_iff (run.fresh l member)).mpr ⟨_,stroke,rfl,marked⟩⟩ unmarked
  | some mark =>
    obtain ⟨before,m,after,split,direction,ends,_⟩ := (terminator_slotOf_eq_some_iff run.fresh).mp found
    have member' : m ∈ steps := by simp [split]
    obtain ⟨t,stroke',on,marked⟩ := (endsWord_iff (run.fresh m member')).mp ends
    obtain rfl : m = l := by
      by_contra other
      exact alone m member' other direction _ (placed.laid.covers_iff.mpr ⟨_,stroke,rfl⟩)
        (placed.laid.covers_iff.mpr ⟨t,stroke',on⟩)
    obtain rfl := eq_of_mem_strokes stroke' stroke on
    exact marked.symm

theorem Placed.marks_alone (member : l ∈ steps) (enumerated : (o.clue l.clue).Enumerated layout)
    (alone : ∀ m ∈ steps, m ≠ l → m.direction = l.direction → ∀ place, l.Covers p place → ¬ m.Covers p place) :
    ((p.clue l.clue).cells.filterMap fun c => ((p.cell c).slot l.direction).terminator) =
      (layout.words.map Word.terminator).dropLast := by
  rw [placed.cells_eq run member,List.filterMap_map,← filterMap_mark enumerated,placed.laid.length_eq]
  refine List.filterMap_congr fun k inRange => placed.terminator_alone run member alone ?_
  have short := List.mem_range.mp inRange
  rw [placed.laid.length_eq]
  omega

end

/-- After any run of compiled clues on a board just opened, a cell prints no mark in a direction
    if no clue of the direction has the end of a word before its last one there. Else it prints
    the mark of such a word, of the last clue that has one, whatever other clues have been laid
    over the cell since. A clue that shares its cells with no other of its direction has the marks
    of its words but the last on as many cells. -/
theorem layAll_marks (p : Puzzle) (width height : Nat) (steps : List Laying) :
    let g : Ground := ⟨p.cells.size,width,height⟩
    let start := p.openBoard ⟨width,height⟩
    ∀ q, FreshRun start steps → (layAll steps).Gives start () q →
      (∀ place, g.Inside place → ∃ c, q.board.cellAt? place.1 place.2 = some c ∧ ∀ d,
        (((q.cell c).slot d).terminator = none ↔
          ∀ l ∈ steps, l.direction = d → ¬ ∃ mark, l.EndsWord start place mark) ∧
        ∀ mark, (((q.cell c).slot d).terminator = some mark ↔ LastEnd start steps d place mark) ∧
          (LastEnd start steps d place mark → mark ≠ [])) ∧
      ∀ l ∈ steps,
        (∀ m ∈ steps, m ≠ l → m.direction = l.direction → ∀ place, l.Covers q place → ¬ m.Covers q place) →
        (∃ layout, (start.clue l.clue).Enumerated layout ∧
          ((q.clue l.clue).cells.filterMap fun c => ((q.cell c).slot l.direction).terminator) =
            (layout.words.map Word.terminator).dropLast) ∧
        ((q.clue l.clue).cells.filter fun c => ((q.cell c).slot l.direction).terminator.isSome).length + 1 =
          (q.clue l.clue).wordLengths.length := by
  intro g start q run gives
  have placed : Placed g start steps q := run.placed (Ground.opened_openBoard p width height) gives
  refine ⟨fun place inside => ⟨g.cellOn place,Ground.cellAt?_inside placed.laid.columns inside,fun d => ?_⟩,?_⟩
  · rw [(placed.laid.marked place inside).slot]
    refine ⟨terminator_slotOf_eq_none_iff run.fresh,fun mark => ⟨terminator_slotOf_eq_some_iff run.fresh,?_⟩⟩
    rintro ⟨_,_,_,_,_,ends,_⟩
    exact ends.mark_ne_nil
  · intro l member alone
    obtain ⟨layout,enumerated⟩ := (run.fresh l member).enumerated
    have marks := placed.marks_alone run member enumerated alone
    refine ⟨⟨layout,enumerated,marks⟩,?_⟩
    have count := congrArg List.length marks
    have words : (q.clue l.clue).wordLengths.length = layout.words.length := by
      rw [placed.laid.clue]
      simp [enumerated.wordLengths]
    have some_word : 0 < layout.words.length := by simp [Enumeration.Layout.words]
    rw [List.length_filterMap_eq_countP,List.countP_eq_length_filter,List.length_dropLast,List.length_map] at count
    omega

theorem freshRun_coveredEnd : FreshRun (threeClues.openBoard ⟨3,2⟩) [⟨.across,1⟩,⟨.across,0⟩] where
  distinct := by decide
  known := by decide
  fresh l member := by
    refine freshRun_threeSteps.fresh l ?_
    simp only [List.mem_cons,List.not_mem_nil,or_false] at member
    rcases member with rfl | rfl <;> decide

/-- The row is laid over the end of a word, has none of its own there and leaves the mark. -/
theorem layAll_marks_coveredEnd : ∃ q c, FreshRun (threeClues.openBoard ⟨3,2⟩) [⟨.across,1⟩,⟨.across,0⟩] ∧
    (layAll [⟨.across,1⟩,⟨.across,0⟩]).Gives (threeClues.openBoard ⟨3,2⟩) () q ∧ q.board.cellAt? 1 0 = some c ∧
      ((q.cell c).slot .across).clue = some 0 ∧
        LastEnd (threeClues.openBoard ⟨3,2⟩) [⟨.across,1⟩,⟨.across,0⟩] .across (1,0) [','] := by
  have laid : (layAll [⟨.across,1⟩,⟨.across,0⟩]).Gives (threeClues.openBoard ⟨3,2⟩) () _ :=
    gives_of_isSome (by decide +kernel)
  obtain ⟨cells,-⟩ := layAll_marks threeClues 3 2 _ _ freshRun_coveredEnd laid
  obtain ⟨c,found,marks⟩ := cells (1,0) (Ground.inside_iff.mpr (by decide))
  obtain rfl : 2 = c := Option.some.inj (Eq.trans (by decide +kernel) found)
  exact ⟨_,2,freshRun_coveredEnd,laid,found,by decide +kernel,((marks .across).2 _).1.mp (by decide +kernel)⟩

end

end Crossword
