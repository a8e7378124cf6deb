import Crossword.Draft
import Crossword.Proofs.Writing

/-!
Clues as they come from their specifications. Such a clue has at least one letter and
no more than a text can hold, its three rows are as long as its enumeration says, every word has its mark, and it
lies on no cells yet (`fit_of_fresh`).
-/
namespace Crossword

/-- The clue is what some specification compiles to. -/
def Clue.Fresh (c : Clue) : Prop :=
  ∃ spec across tagEmphasis, Clue.compile spec across tagEmphasis = .ok c

/-- The parts of the clue fit together. -/
structure Clue.Fit (c : Clue) : Prop where
  length_pos : 0 < c.length
  row_length : ∀ r, ((c.row r).length : Int) = c.length
  revealed_length : (c.revealed.length : Int) = c.length
  marks : c.terminators.length = c.wordLengths.length
  unplaced : c.cells = []

/-! ### The words of an enumeration -/

namespace Enumeration

theorem endingFrom_lt {lengths : List Int} {letter : Int} {word : Nat}
    (ends : Enumeration.endingFrom letter lengths = some word) : word < lengths.length := by
  induction lengths generalizing letter word with
  | nil => cases ends
  | cons length rest ih =>
    simp only [Enumeration.endingFrom] at ends
    split at ends
    · split at ends
      · cases ends
        exact Nat.succ_pos _
      · cases ends
    · obtain ⟨before,earlier,rfl⟩ := Option.map_eq_some_iff.mp ends
      exact Nat.succ_lt_succ (ih earlier)

theorem endingWord?_lt {lengths : List Int} {letter : Int} {word : Nat}
    (ends : endingWord? letter lengths = some word) : word < lengths.length := by
  unfold endingWord? at ends
  split at ends
  · cases ends
  · exact endingFrom_lt ends

end Enumeration

/-! ### The rows of a draft -/

/-- The letters and blanks of an answer, before they are fitted to a length. -/
def answerLetters (given : Option Text) : Text := (Unicode.upper (given.getD [])).map letterOrBlank

/-- A row shows as many letters of the answer as it has room for, and blanks after them; an answer
    that is empty or not given is no exception. -/
theorem answerRow_eq (given : Option Text) (length : Nat) : answerRow given length =
    (answerLetters given).take length ++ List.replicate (length - (answerLetters given).length) blank := by
  have fitted (row : Text) :
      pad length (clip length row) = row.take length ++ List.replicate (length - row.length) blank := by
    have room : length - (row.take length).length = length - row.length := by
      rw [List.length_take]
      omega
    rw [pad,clip,if_pos (Int.natCast_nonneg length),Int.toNat_natCast,room]
  unfold answerRow
  split
  · simp [blanks,answerLetters,Unicode.upper]
  · simp [blanks,answerLetters,Unicode.upper]
  · exact fitted _

theorem length_answerRow (given : Option Text) (length : Nat) : (answerRow given length).length = length := by
  rw [answerRow_eq,List.length_append,List.length_take,List.length_replicate]
  omega

theorem checkRoom_eq_ok_iff {given : Option Text} {length : Nat} :
    checkRoom given length = .ok () ↔ length ≤ mostLetters := by
  unfold checkRoom
  split
  · next fits => simpa using fits.2
  · next exceeds =>
    have long : ¬ length ≤ mostLetters := fun short => exceeds ⟨by omega,Int.ofNat_le.mpr short⟩
    split <;> simp [long]

namespace Draft
variable {d : Draft}

theorem length_orBlanks {letters : Text} (fits : d.fits letters = true) :
    (orBlanks letters d.length).length = d.length := by
  unfold orBlanks
  split
  · simp [blanks]
  · next some_letter => simpa [Draft.fits,some_letter] using fits

theorem clue_eq_ok_iff {tagEmphasis : Bool} {c : Clue} :
    d.clue tagEmphasis = .ok c ↔
      d.fits (solutionLetters d.spec.solution) = true ∧ d.fits (revealedLetters d.spec.revealed) = true ∧
        d.length ≤ mostLetters ∧ d.clueWith tagEmphasis = c := by
  rw [← @checkRoom_eq_ok_iff d.spec.answer]
  unfold clue
  cases d.fits (solutionLetters d.spec.solution) with
  | false => simp
  | true =>
    cases d.fits (revealedLetters d.spec.revealed) with
    | false => simp
    | true => cases checkRoom d.spec.answer d.length <;> simp

theorem length_pos {spec across : Datum} (read : Draft.read spec across = .ok d) : 0 < d.length := by
  unfold Draft.read at read
  split at read
  · cases read
  · split at read
    · cases read
    · next words =>
      cases read
      exact (Wording.listed_of_read words).1.letterCount_pos

theorem fit_clueWith {tagEmphasis : Bool} (positive : 0 < d.length)
    (solution : d.fits (solutionLetters d.spec.solution) = true)
    (revealed : d.fits (revealedLetters d.spec.revealed) = true) : (d.clueWith tagEmphasis).Fit where
  length_pos := Int.natCast_pos.mpr positive
  row_length r := by
    cases r with
    | answer => exact congrArg Nat.cast (length_answerRow _ _)
    | solution => exact congrArg Nat.cast (length_orBlanks solution)
  revealed_length := congrArg Nat.cast (length_orBlanks revealed)
  marks := by simp [clueWith]
  unplaced := rfl

end Draft

theorem Clue.compile_eq_ok_iff {spec across : Datum} {tagEmphasis : Bool} {c : Clue} :
    Clue.compile spec across tagEmphasis = .ok c ↔
      ∃ d, Draft.read spec across = .ok d ∧ d.clue tagEmphasis = .ok c := by
  unfold Clue.compile
  cases Draft.read spec across with
  | error fault => simp
  | ok d => simp

theorem Clue.fit_of_fresh {c : Clue} (fresh : c.Fresh) : c.Fit := by
  obtain ⟨spec,across,tagEmphasis,compiled⟩ := fresh
  obtain ⟨d,read,made⟩ := Clue.compile_eq_ok_iff.mp compiled
  obtain ⟨solution,revealed,_,rfl⟩ := Draft.clue_eq_ok_iff.mp made
  exact Draft.fit_clueWith (Draft.length_pos read) solution revealed

end Crossword
