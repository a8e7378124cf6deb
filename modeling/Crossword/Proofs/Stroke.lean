import Crossword.Placement
import Crossword.Proofs.Compiled
import Crossword.Proofs.Ground

/-!
Laying clues as a history of strokes: one stroke is one letter of one clue, laid in
a direction. A trail lists the strokes made so far, the newest first. What a cell
holds is read off the trail alone: the newest stroke of a direction decides what
that direction has put there (`slotOf`), the letters are what the strokes agree on
(`Holds`), and the label is the one that the clues starting there agree on
(`Labels`). A new stroke keeps the agreement exactly if it is compatible with every
stroke of the trail (`holds_cons`, `labels_cons`).
-/
namespace Crossword

/-- A letter of a clue, laid in a direction. -/
structure Stroke where
  direction : Direction
  clue : ClueId
  letter : Nat
  deriving DecidableEq, Repr

/-- Two letters that one cell can show: one of them is blank or they are the
    same. -/
def Agree (a b : Char) : Prop := a = blank ∨ b = blank ∨ a = b

theorem Agree.symm {a b : Char} (agree : Agree a b) : Agree b a := by
  rcases agree with left | right | same
  · exact .inr (.inl left)
  · exact .inl right
  · exact .inr (.inr same.symm)

/-- What a cell shows once a letter is laid over the one it holds: a blank leaves the
    old letter. -/
def overlay (held letter : Char) : Char := if letter = blank then held else letter

namespace Stroke

/-- The place that a stroke falls on. Here and below `o` is the puzzle as it was
    before the first stroke. -/
def place (o : Puzzle) (s : Stroke) : Place := (o.clue s.clue).spot s.direction s.letter

/-- The letter that a stroke has in a row of its clue. -/
def written (p : Puzzle) (r : Row) (s : Stroke) : Char := (((p.clue s.clue).row r)[s.letter]?).getD blank

/-- The mark printed after the letter, if one is. -/
def mark (o : Puzzle) (s : Stroke) : Option Text :=
  match Placement.terminator (o.clue s.clue) s.letter with
  | .ok mark => mark
  | .error _ => none

/-- Two strokes may fall on one place: their letters agree, and if both start their
    clues these have one label. -/
structure Compatible (o : Puzzle) (s t : Stroke) : Prop where
  letters : s.place o = t.place o → ∀ r, Agree (s.written o r) (t.written o r)
  labels : s.place o = t.place o → s.letter = 0 → t.letter = 0 → (o.clue s.clue).label = (o.clue t.clue).label

theorem Compatible.symm {o : Puzzle} {s t : Stroke} (fits : Compatible o s t) : Compatible o t s where
  letters same r := (fits.letters same.symm r).symm
  labels same first second := (fits.labels same.symm second first).symm

theorem compatible_of_ne {o : Puzzle} {s t : Stroke} (apart : s.place o ≠ t.place o) : Compatible o s t :=
  ⟨fun same => absurd same apart,fun same => absurd same apart⟩

/-- Letters of one clue fall on different places. -/
theorem place_ne {o : Puzzle} {s t : Stroke} (direction : s.direction = t.direction) (clue : s.clue = t.clue)
    (letter : s.letter ≠ t.letter) : s.place o ≠ t.place o := by
  intro same
  simp only [place,direction,clue] at same
  cases along : t.direction with
  | across =>
    rw [along] at same
    have column : (o.clue t.clue).x + (s.letter : Int) = (o.clue t.clue).x + (t.letter : Int) := congrArg Prod.fst same
    omega
  | down =>
    rw [along] at same
    have row : (o.clue t.clue).y + (s.letter : Int) = (o.clue t.clue).y + (t.letter : Int) := congrArg Prod.snd same
    omega

end Stroke

/-- In a compiled clue every word that ends before the last has a mark. -/
theorem terminator_of_fit {c : Clue} (fit : c.Fit) (letter : Nat) :
    ∃ mark, Placement.terminator c letter = .ok mark := by
  unfold Placement.terminator
  split
  · exact ⟨none,rfl⟩
  · next word ends =>
    have short : word < c.terminators.length := by
      rw [fit.marks]
      exact Enumeration.endingWord?_lt ends
    rw [List.getElem?_eq_getElem short]
    cases c.terminators[word] with
    | nil => exact ⟨_,rfl⟩
    | cons a rest => exact ⟨_,rfl⟩

/-! ### Reading a trail -/

section
variable {o : Puzzle} {trail : List Stroke} {s t : Stroke} {d : Direction} {place : Place}

/-- The newest stroke of a direction on a place. -/
def latest (o : Puzzle) (trail : List Stroke) (d : Direction) (place : Place) : Option Stroke :=
  trail.find? fun s => s.direction = d ∧ s.place o = place

/-- What a trail of one direction has put into the cell on a place. -/
def slotOf (o : Puzzle) (trail : List Stroke) (d : Direction) (place : Place) : Slot where
  clue := (latest o trail d place).map (·.clue)
  letter := (latest o trail d place).map fun s => (s.letter : Int)
  terminator := trail.findSome? fun s => if s.direction = d ∧ s.place o = place then s.mark o else none

theorem latest_cons : latest o (s :: trail) d place =
    if s.direction = d ∧ s.place o = place then some s else latest o trail d place := by
  by_cases here : s.direction = d ∧ s.place o = place
  · simp [latest,here]
  · simp only [latest,List.find?_cons,here,decide_false,if_false]

theorem latest_mem (newest : latest o trail d place = some s) :
    s ∈ trail ∧ s.direction = d ∧ s.place o = place := by
  refine ⟨List.mem_of_find?_eq_some newest,?_⟩
  simpa using List.find?_some newest

theorem latest_isSome : (latest o trail d place).isSome ↔ ∃ s ∈ trail, s.direction = d ∧ s.place o = place := by
  simp [latest,List.find?_isSome]

theorem slotOf_cons_here (direction : s.direction = d) (on : s.place o = place) : slotOf o (s :: trail) d place =
    { clue := some s.clue
      letter := some s.letter
      terminator := s.mark o <|> (slotOf o trail d place).terminator } := by
  simp only [slotOf,latest_cons,direction,on,and_self,if_true,Option.map_some,List.findSome?_cons]
  cases s.mark o <;> rfl

theorem slotOf_cons_elsewhere (off : ¬ (s.direction = d ∧ s.place o = place)) :
    slotOf o (s :: trail) d place = slotOf o trail d place := by
  simp [slotOf,latest_cons,off]

/-! ### Letters and labels that strokes agree on -/

/-- The letter is what all strokes on a place agree on: theirs if one of them has a
    letter, else the blank. -/
structure Holds (o : Puzzle) (trail : List Stroke) (r : Row) (place : Place) (letter : Char) : Prop where
  all : ∀ s ∈ trail, s.place o = place → s.written o r = blank ∨ s.written o r = letter
  source : letter = blank ∨ ∃ s ∈ trail, s.place o = place ∧ s.written o r = letter

/-- The label is the one that all clues starting on a place have. -/
structure Labels (o : Puzzle) (trail : List Stroke) (place : Place) (label : Option Text) : Prop where
  all : ∀ s ∈ trail, s.place o = place → s.letter = 0 → label = some (o.clue s.clue).label
  source : label = none ∨ ∃ s ∈ trail, s.place o = place ∧ s.letter = 0 ∧ label = some (o.clue s.clue).label

variable {r : Row} {letter : Char} {label : Option Text}

theorem agree_iff_of_holds (holds : Holds o trail r (s.place o) letter) :
    Agree letter (s.written o r) ↔ ∀ t ∈ trail, t.place o = s.place o → Agree (t.written o r) (s.written o r) := by
  constructor
  · intro agree t member on
    rcases holds.all t member on with blank | same
    · exact .inl blank
    · rw [same]
      exact agree
  · intro all
    rcases holds.source with blank | ⟨t,member,on,same⟩
    · exact .inl blank
    · rw [← same]
      exact all t member on

theorem holds_cons (holds : Holds o trail r (s.place o) letter) (agree : Agree letter (s.written o r)) :
    Holds o (s :: trail) r (s.place o) (overlay letter (s.written o r)) where
  all t member on := by
    unfold overlay
    rcases List.mem_cons.mp member with rfl | older
    · split
      · next none => exact .inl none
      · exact .inr rfl
    · rcases holds.all t older on with none | same
      · exact .inl none
      · split
        · exact .inr same
        · next some_letter =>
          rcases agree with none | none | equal
          · exact .inl (same.trans none)
          · exact absurd none some_letter
          · exact .inr (same.trans equal)
  source := by
    unfold overlay
    split
    · rcases holds.source with none | ⟨t,member,on,same⟩
      · exact .inl none
      · exact .inr ⟨t,List.mem_cons_of_mem _ member,on,same⟩
    · exact .inr ⟨s,List.mem_cons_self,rfl,rfl⟩

theorem holds_cons_elsewhere (holds : Holds o trail r place letter) (off : s.place o ≠ place) :
    Holds o (s :: trail) r place letter where
  all t member on := by
    rcases List.mem_cons.mp member with rfl | older
    · exact absurd on off
    · exact holds.all t older on
  source := holds.source.imp_right fun ⟨t,member,found⟩ => ⟨t,List.mem_cons_of_mem _ member,found⟩

theorem labels_cons (labels : Labels o trail (s.place o) label)
    (agree : s.letter = 0 → ∀ other, label = some other → other = (o.clue s.clue).label) :
    Labels o (s :: trail) (s.place o) (if s.letter = 0 then some (o.clue s.clue).label else label) where
  all t member on start := by
    rcases List.mem_cons.mp member with rfl | older
    · simp [start]
    · have before := labels.all t older on start
      split
      · next first => rw [agree first _ before]
      · exact before
  source := by
    split
    · next first => exact .inr ⟨s,List.mem_cons_self,rfl,first,rfl⟩
    · exact labels.source.imp_right fun ⟨t,member,found⟩ => ⟨t,List.mem_cons_of_mem _ member,found⟩

theorem labels_cons_elsewhere (labels : Labels o trail place label) (off : s.place o ≠ place) :
    Labels o (s :: trail) place label where
  all t member on := by
    rcases List.mem_cons.mp member with rfl | older
    · exact absurd on off
    · exact labels.all t older on
  source := labels.source.imp_right fun ⟨t,member,found⟩ => ⟨t,List.mem_cons_of_mem _ member,found⟩

theorem label_agrees_iff (labels : Labels o trail (s.place o) label) :
    (∀ other, label = some other → other = (o.clue s.clue).label) ↔
      ∀ t ∈ trail, t.place o = s.place o → t.letter = 0 → (o.clue t.clue).label = (o.clue s.clue).label := by
  constructor
  · intro agree t member on first
    exact agree _ (labels.all t member on first)
  · rintro all other rfl
    rcases labels.source with none | ⟨t,member,on,first,same⟩
    · cases none
    · cases same
      exact all t member on first

end

end Crossword
