import Crossword.ClueSpec
import Crossword.Emphasis
import Crossword.Wording

/-!
# Drafts

A draft is a clue specification whose clue string has been read. A clue is made
from it: its label names it, its enumeration gives it a length, and the given
letters fill its rows.
-/
namespace Crossword

/-- A specification together with the wording of its clue string. -/
structure Draft where
  spec : ClueSpec
  wording : Wording

namespace Draft

/-- Checks a specification and reads its clue string. -/
def read (spec across : Datum) : Except Fault Draft :=
  match ClueSpec.read spec across with
  | .error fault => .error (.schema fault)
  | .ok spec =>
    match Wording.read spec.clue with
    | .error fault => .error (.grammar fault)
    | .ok wording => .ok ⟨spec, wording⟩

/-- The identifier of the clue: its number, with the direction from the label if
one is named there, else the one in which the clue runs. -/
def id (d : Draft) : Text :=
  match d.wording.label.head.direction with
  | some _ => d.wording.label.head.text
  | none => Text.ofNat d.wording.label.head.number ++ d.spec.direction.suffix

/-- The number of letters of the answer. -/
def length (d : Draft) : Nat := Enumeration.letterCount d.wording.words

/-- The enumeration as it is written in the clue string. -/
def enumeration (d : Draft) : Text := '(' :: (Text.strip d.wording.parts.enumeration ++ [')'])

/-- The clues that the label names after the head. -/
def references (d : Draft) : List Reference :=
  d.wording.label.tails.map fun segment => ⟨segment.number, segment.direction⟩

/-- Given letters, or blanks where none are given. -/
def orBlanks (letters : Text) (length : Nat) : Text :=
  if letters = [] then blanks length else letters

/-- The clue without checking the lengths of its rows or the room for them. -/
def clueWith (d : Draft) (tagEmphasis : Bool) : Clue where
  number := d.wording.label.head.number
  label := Text.ofNat d.wording.label.head.number
  id := d.id
  text := if tagEmphasis then Emphasis.render d.wording.text else d.wording.text
  wordLengths := d.wording.words.map fun word => (word.length : Int)
  terminators := d.wording.words.map (·.terminator)
  length := d.length
  references := d.references
  answer := answerRow d.spec.answer d.length
  solution := orBlanks (solutionLetters d.spec.solution) d.length
  revealed := orBlanks (revealedLetters d.spec.revealed) d.length
  x := d.spec.x - 1
  y := d.spec.y - 1
  direction := d.spec.direction

/-- Letters are either not given or as many as the answer has. -/
def fits (d : Draft) (letters : Text) : Bool := letters.isEmpty || letters.length == d.length

/-- The clue that a draft makes. The solution is checked before the revealed
letters, and only clues that match both need room for their rows. -/
def clue (d : Draft) (tagEmphasis : Bool) : Except Fault Clue :=
  if !d.fits (solutionLetters d.spec.solution) then
    .error (.length (.solution (solutionLetters d.spec.solution) d.enumeration))
  else if !d.fits (revealedLetters d.spec.revealed) then
    .error (.length (.revealed (revealedLetters d.spec.revealed) d.enumeration))
  else
    match checkRoom d.spec.answer d.length with
    | .error fault => .error (.room fault)
    | .ok () => .ok (d.clueWith tagEmphasis)

end Draft

/-- Compiles a clue specification. The clue has no place on a grid and no links
yet. -/
def Clue.compile (spec across : Datum) (tagEmphasis : Bool) : Except Fault Clue :=
  match Draft.read spec across with
  | .error fault => .error fault
  | .ok draft => draft.clue tagEmphasis

end Crossword
