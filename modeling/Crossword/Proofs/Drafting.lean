import Crossword.Proofs.Normalisation
import Crossword.Proofs.Reading
import Mathlib.Algebra.GroupWithZero.Nat

/-!
What becomes of a clue specification. It is refused for its fields, for its clue string or for
the length of its letters, in this order, and compiles if none of them is at fault and a text can
hold as many letters as its words have (`compile_settled`). The clue then has everything that later
work relies on (`Made`): words that are not empty and parted from each other, and rows of as many
letters as the words have, with the letters that the specification gives.
-/
namespace Crossword

/-! ### Conditions -/

/-- The data are a table with the fields of the specification and the truth value of its
    direction. -/
def Specified (spec across : Datum) (s : ClueSpec) : Prop :=
  ∃ entries b, spec = .table entries ∧ across = .truth b ∧ ClueSpec.Reads entries s ∧ s.direction = ClueSpec.directionOf b

/-- The letters are not given, or they are as many as the words have together. -/
def Matches (letters : Text) (words : List Word) : Prop :=
  letters = [] ∨ letters.length = (words.map Word.length).sum

/-- The letters of the solution, which are those from A to Z in upper case, and the revealed
    characters in upper case match the words. -/
def Fitting (s : ClueSpec) (w : Wording) : Prop :=
  Matches ((Unicode.upper (s.solution.getD [])).filter fun a => 'A' ≤ a ∧ a ≤ 'Z') w.words ∧
    Matches (Unicode.upper (s.revealed.getD [])) w.words

/-- The specification is without fault, but its words have more letters than a text can hold. -/
def Oversized (spec across : Datum) : Prop :=
  ∃ s w, Specified spec across s ∧ Wording.read s.clue = .ok w ∧ Fitting s w ∧ 2 ^ 63 ≤ (w.words.map Word.length).sum

/-- The row has the characters that are given for it, or blanks if none are given. -/
def GivenOrBlank (row given : Text) (length : Int) : Prop :=
  (given ≠ [] → row = given) ∧ (given = [] → row = List.replicate length.toNat ' ')

/-- The clue is well formed and says what its specification and its wording say. -/
structure Clue.Made (c : Clue) (s : ClueSpec) (w : Wording) : Prop where
  wordLengths : c.wordLengths = w.words.map fun word => (word.length : Int)
  terminators : c.terminators = w.words.map Word.terminator
  some_word : c.wordLengths ≠ []
  words_pos : ∀ n ∈ c.wordLengths, 0 < n
  marks : c.terminators.length = c.wordLengths.length
  parted : ∀ t ∈ c.terminators.dropLast, t ≠ []
  length_eq : c.length = ((w.words.map Word.length).sum : Nat)
  length_pos : 1 ≤ c.length
  answer_length : (c.answer.length : Int) = c.length
  solution_length : (c.solution.length : Int) = c.length
  revealed_length : (c.revealed.length : Int) = c.length
  answer : ∀ a ∈ c.answer, 'A' ≤ a ∧ a ≤ 'Z' ∨ a = ' '
  answer_given : ∀ (k : Nat) a, (Unicode.upper (s.answer.getD []))[k]? = some a → (k : Int) < c.length →
    c.answer[k]? = some (if 'A' ≤ a ∧ a ≤ 'Z' then a else ' ')
  answer_rest : ∀ k : Nat, (Unicode.upper (s.answer.getD [])).length ≤ k → (k : Int) < c.length →
    c.answer[k]? = some ' '
  solution : (∀ a ∈ c.solution, a = ' ') ∨ ∀ a ∈ c.solution, 'A' ≤ a ∧ a ≤ 'Z'
  solution_given :
    GivenOrBlank c.solution ((Unicode.upper (s.solution.getD [])).filter fun a => 'A' ≤ a ∧ a ≤ 'Z') c.length
  revealed_given : GivenOrBlank c.revealed (Unicode.upper (s.revealed.getD [])) c.length
  x : c.x = s.x - 1
  y : c.y = s.y - 1
  number : c.number = w.label.head.number
  label : String.ofList c.label = toString c.number
  references : c.references = w.label.tails.map fun segment => ⟨segment.number,segment.direction⟩

section
variable {spec across : Datum} {tagEmphasis : Bool} {s : ClueSpec} {w : Wording} {words : List Word} {c : Clue}
  {letters : Text}

/-! ### Words -/

namespace Enumeration

theorem Listed.ne_nil (listed : Listed words) : words ≠ [] := by
  cases listed <;> exact List.cons_ne_nil _ _

theorem Listed.length_pos (listed : Listed words) : ∀ word ∈ words, 0 < word.length := by
  induction listed with
  | last positive _ => exact List.forall_mem_singleton.mpr positive
  | more positive _ _ ih => exact List.forall_mem_cons.mpr ⟨positive,ih⟩

/-- Something is printed after every word but the last. -/
theorem Listed.parted (listed : Listed words) : ∀ t ∈ (words.map Word.terminator).dropLast, t ≠ [] := by
  induction listed with
  | last _ _ => exact List.forall_mem_nil _
  | more _ parts rest ih =>
    rw [List.map_cons,List.dropLast_cons_of_ne_nil (by simpa using rest.ne_nil)]
    exact List.forall_mem_cons.mpr ⟨ne_nil_of_parts parts,ih⟩

theorem letterCount_eq_sum (words : List Word) : letterCount words = (words.map Word.length).sum := by
  induction words with
  | nil => rfl
  | cons word rest ih => rw [letterCount,ih,List.map_cons,List.sum_cons]

end Enumeration

/-! ### Letters -/

theorem solutionLetters_eq (given : Option Text) :
    solutionLetters given = (Unicode.upper (given.getD [])).filter fun a => 'A' ≤ a ∧ a ≤ 'Z' :=
  List.filter_congr fun _ _ => (Bool.decide_and _ _).symm

theorem getElem?_answerRow {given : Option Text} {length k : Nat} (short : k < length) :
    (answerRow given length)[k]? = some (((answerLetters given)[k]?).getD blank) := by
  rw [answerRow_eq]
  by_cases inside : k < (answerLetters given).length
  · rw [List.getElem?_append_left (by rw [List.length_take]; omega),List.getElem?_take_of_lt short,
      List.getElem?_eq_getElem inside,Option.getD_some]
  · have filled : k - ((answerLetters given).take length).length < length - (answerLetters given).length := by
      rw [List.length_take]
      omega
    rw [List.getElem?_append_right (by rw [List.length_take]; omega),List.getElem?_replicate,if_pos filled,
      List.getElem?_eq_none (by omega),Option.getD_none]

theorem getElem?_answerLetters (given : Option Text) (k : Nat) : (answerLetters given)[k]? =
    ((Unicode.upper (given.getD []))[k]?).map fun a => if 'A' ≤ a ∧ a ≤ 'Z' then a else ' ' := by
  rw [answerLetters,List.getElem?_map]
  congr
  funext a
  simp only [letterOrBlank,isLetter_iff]
  rfl

theorem givenOrBlank_orBlanks (given : Text) (length : Nat) :
    GivenOrBlank (Draft.orBlanks given length) given length := by
  unfold Draft.orBlanks
  split
  · next none => exact ⟨fun some_letter => absurd none some_letter,fun _ => rfl⟩
  · next some_letter => exact ⟨fun _ => rfl,fun none => absurd none some_letter⟩

/-- A row of a solution is all letters, or none is given. -/
theorem blanks_or_letters (given : Option Text) (length : Nat) :
    (∀ a ∈ Draft.orBlanks (solutionLetters given) length, a = blank) ∨
      ∀ a ∈ Draft.orBlanks (solutionLetters given) length, isLetter a = true := by
  unfold Draft.orBlanks
  split
  · exact .inl fun a => List.eq_of_mem_replicate
  · exact .inr fun _ => isLetter_of_mem_solutionLetters

/-! ### Fields, wording and clue -/

theorem specified_iff : Specified spec across s ↔ ClueSpec.read spec across = .ok s := by
  constructor
  · rintro ⟨entries,b,rfl,rfl,reads,direction⟩
    exact ClueSpec.read_eq_ok_iff.mpr ⟨entries,rfl,reads,direction⟩
  · intro given
    obtain ⟨b,rfl⟩ := ClueSpec.truth_of_read given
    obtain ⟨entries,rfl,reads,direction⟩ := ClueSpec.read_eq_ok_iff.mp given
    exact ⟨entries,b,rfl,rfl,reads,direction⟩

theorem Specified.unique {t : ClueSpec} (one : Specified spec across s) (other : Specified spec across t) : s = t :=
  Except.ok.inj ((specified_iff.mp one).symm.trans (specified_iff.mp other))

theorem matches_iff_fits : Matches letters w.words ↔ Draft.fits ⟨s,w⟩ letters = true := by
  simp [Matches,Draft.fits,Draft.length,Enumeration.letterCount_eq_sum]

theorem fitting_iff : Fitting s w ↔ Draft.fits ⟨s,w⟩ (solutionLetters s.solution) = true ∧
    Draft.fits ⟨s,w⟩ (revealedLetters s.revealed) = true := by
  rw [← matches_iff_fits,← matches_iff_fits,solutionLetters_eq]
  rfl

/-- What a draft comes to: letters that do not match are refused first, then more letters than a
    text can hold. -/
theorem clue_outcome (s : ClueSpec) (w : Wording) (tagEmphasis : Bool) :
    (¬ Fitting s w ∧ ∃ fault, Draft.clue ⟨s,w⟩ tagEmphasis = .error (.length fault)) ∨
      (Fitting s w ∧ 2 ^ 63 ≤ (w.words.map Word.length).sum ∧
        ∃ cause, Draft.clue ⟨s,w⟩ tagEmphasis = .error (.room cause)) ∨
      (Fitting s w ∧ (w.words.map Word.length).sum < 2 ^ 63 ∧
        Draft.clue ⟨s,w⟩ tagEmphasis = .ok (Draft.clueWith ⟨s,w⟩ tagEmphasis)) := by
  have length : Draft.length ⟨s,w⟩ = (w.words.map Word.length).sum := Enumeration.letterCount_eq_sum w.words
  have most : mostLetters = 2 ^ 63 - 1 := rfl
  rw [fitting_iff,← length,Draft.clue]
  by_cases solution : Draft.fits ⟨s,w⟩ (solutionLetters s.solution) = true
  · rw [if_neg (by simpa using solution)]
    by_cases revealed : Draft.fits ⟨s,w⟩ (revealedLetters s.revealed) = true
    · rw [if_neg (by simpa using revealed)]
      cases room : checkRoom s.answer (Draft.length ⟨s,w⟩) with
      | error cause =>
        have exceeds : ¬ Draft.length ⟨s,w⟩ ≤ mostLetters := fun short => by
          rw [checkRoom_eq_ok_iff.mpr short] at room
          cases room
        exact .inr (.inl ⟨⟨solution,revealed⟩,by omega,cause,rfl⟩)
      | ok =>
        have short := checkRoom_eq_ok_iff.mp room
        exact .inr (.inr ⟨⟨solution,revealed⟩,by omega,rfl⟩)
    · exact .inl ⟨fun fit => revealed fit.2,_,if_pos (by simpa using revealed)⟩
  · exact .inl ⟨fun fit => solution fit.1,_,if_pos (by simpa using solution)⟩

theorem made_of_read (wording : Wording.read s.clue = .ok w) (made : Draft.clue ⟨s,w⟩ tagEmphasis = .ok c) :
    c.Made s w := by
  have listed := (Wording.listed_of_read wording).1
  have positive : 0 < Draft.length ⟨s,w⟩ := listed.letterCount_pos
  obtain ⟨solution,revealed,_,rfl⟩ := Draft.clue_eq_ok_iff.mp made
  have fit : (Draft.clueWith ⟨s,w⟩ tagEmphasis).Fit := Draft.fit_clueWith positive solution revealed
  exact {
    wordLengths := rfl
    terminators := rfl
    some_word := by simpa [Draft.clueWith] using listed.ne_nil
    words_pos := by simpa [Draft.clueWith] using listed.length_pos
    marks := fit.marks
    parted := listed.parted
    length_eq := congrArg Nat.cast (Enumeration.letterCount_eq_sum w.words)
    length_pos := fit.length_pos
    answer_length := fit.row_length .answer
    solution_length := fit.row_length .solution
    revealed_length := fit.revealed_length
    answer a member :=
      (isLetter_or_blank_of_writable (writable_answerRow _ _ a member)).imp_left isLetter_iff.mp
    answer_given k a stands short := by
      refine (getElem?_answerRow (Int.ofNat_lt.mp short)).trans ?_
      rw [getElem?_answerLetters,stands,Option.map_some,Option.getD_some]
    answer_rest k long short := by
      refine (getElem?_answerRow (Int.ofNat_lt.mp short)).trans ?_
      rw [getElem?_answerLetters,List.getElem?_eq_none long,Option.map_none,Option.getD_none]
      rfl
    solution := (blanks_or_letters _ _).imp_right fun letters a member => isLetter_iff.mp (letters a member)
    solution_given := by
      rw [← solutionLetters_eq]
      exact givenOrBlank_orBlanks _ _
    revealed_given := givenOrBlank_orBlanks _ _
    x := rfl
    y := rfl
    number := rfl
    label := rfl
    references := rfl }

/-- What compiling comes to: the fields are read, then the clue string, and the rest is up to the
    draft. -/
theorem compile_cases (spec across : Datum) (tagEmphasis : Bool) :
    (∃ fault, ClueSpec.read spec across = .error fault ∧
        Clue.compile spec across tagEmphasis = .error (.schema fault)) ∨
      (∃ s fault, ClueSpec.read spec across = .ok s ∧ Wording.read s.clue = .error fault ∧
        Clue.compile spec across tagEmphasis = .error (.grammar fault)) ∨
      ∃ s w, ClueSpec.read spec across = .ok s ∧ Wording.read s.clue = .ok w ∧
        Clue.compile spec across tagEmphasis = Draft.clue ⟨s,w⟩ tagEmphasis := by
  unfold Clue.compile Draft.read
  cases ClueSpec.read spec across with
  | error fault => exact .inl ⟨fault,rfl,rfl⟩
  | ok s =>
    cases wording : Wording.read s.clue with
    | error fault => exact .inr (.inl ⟨s,fault,rfl,wording,by simp only [wording]⟩)
    | ok w => exact .inr (.inr ⟨s,w,rfl,wording,by simp only [wording]⟩)

theorem made_of_compile (compiled : Clue.compile spec across tagEmphasis = .ok c) :
    ∃ s w, Specified spec across s ∧ Wording.read s.clue = .ok w ∧ c.Made s w := by
  obtain ⟨draft,read,drawn⟩ := Clue.compile_eq_ok_iff.mp compiled
  obtain ⟨fields,wording⟩ := Draft.read_eq_ok_iff.mp read
  exact ⟨draft.spec,draft.wording,specified_iff.mpr fields,wording,made_of_read wording drawn⟩

/-- A clue finds no room for its rows exactly if nothing else is wrong with it than its size. -/
theorem compile_room_iff :
    (∃ cause, Clue.compile spec across tagEmphasis = .error (.room cause)) ↔ Oversized spec across := by
  simp only [Oversized,specified_iff]
  rcases compile_cases spec across tagEmphasis with ⟨_,read,made⟩ | ⟨s,_,read,wording,made⟩ | ⟨s,w,read,wording,made⟩
  · simp [read,made]
  · simp [read,wording,made]
  · rcases clue_outcome s w tagEmphasis with ⟨unfit,_,drawn⟩ | ⟨fit,long,_,drawn⟩ | ⟨_,short,drawn⟩
    · simp [read,wording,made,drawn,unfit]
    · simp [read,wording,made,drawn,fit,long,-Nat.reducePow]
    · simp [read,wording,made,drawn,Nat.not_le.mpr short,-Nat.reducePow]

/-- A specification without fault whose word has more letters than a text can hold. -/
def immense : Datum :=
  .table [(.text "x".toList,.whole 1),(.text "y".toList,.whole 1),
    (.text "clue".toList,.text "1. Big (99999999999999999999)".toList)]

theorem oversized_immense : Oversized immense (.truth true) := by
  have lacking : (match Clue.compile immense (.truth true) true with
      | .error (.room _) => true
      | _ => false) = true := by decide +kernel
  split at lacking
  · next compiled => exact compile_room_iff.mp ⟨_,compiled⟩
  · cases lacking

/-- A specification with letters of every kind, once they are normalised as many as its words
    have. -/
def ripe : Datum :=
  .table [(.text "x".toList,.whole 1),(.text "y".toList,.whole 2),(.text "clue".toList,.text "3a,4. Ripe (2,1.)".toList),
    (.text "solution".toList,.text "r-i p".toList),(.text "answer".toList,.text "?i".toList),
    (.text "revealed".toList,.text "r?p".toList)]

end

end Crossword
