import Crossword.Text
import Crossword.Unicode.UpperCase

/-!
# Letter buffers

A clue keeps three rows of letters, one letter for each of its cells: what the
solver has filled in (the answer), what the setter intends (the solution) and
what has been given away (the revealed letters). This module says how a row is
made from a given string and how a single letter of it is replaced.
-/
namespace Crossword

/-- The letter of a cell that nothing has been written in. -/
def blank : Char := ' '

/-- One of the letters that a cell can hold. -/
def isLetter (c : Char) : Bool := 'A' ≤ c && c ≤ 'Z'

/-- No letter, the empty text and the blank all leave a cell unfilled. -/
def isUnfilled : Option Text → Bool
  | none => true
  | some letter => letter == [] || letter == [blank]

/-- The most letters that a text can hold: a length is a signed number of 64
bits. -/
def mostLetters : Nat := 0x7FFFFFFFFFFFFFFF

/-- A row longer than any text can be: it would have been blanks only, or it
would have been filled up with them. -/
inductive RoomFault where
  | blanks
  | filled
  deriving DecidableEq, Repr

/-- Checks that a text can hold the row of an answer. -/
def checkRoom (given : Option Text) (length : Int) : Except RoomFault Unit :=
  if -(mostLetters : Int) - 1 ≤ length ∧ length ≤ mostLetters then .ok ()
  else
    match given with
    | none | some [] => .error .blanks
    | some _ => .error .filled

/-- A row of blanks; there is none of negative length. Room for it is a matter of
`checkRoom`. -/
def blanks (length : Int) : Text := List.replicate length.toNat blank

/-- The start of a row up to a length; a negative length counts from the end
and drops that many letters there. -/
def clip (length : Int) (row : Text) : Text :=
  if 0 ≤ length then row.take length.toNat else row.take (row.length - (-length).toNat)

/-- A row filled up with blanks to a length. Room for it is a matter of
`checkRoom`. -/
def pad (length : Int) (row : Text) : Text :=
  row ++ List.replicate (length.toNat - row.length) blank

/-- A letter stays; everything else is unfilled. -/
def letterOrBlank (c : Char) : Char := if isLetter c then c else blank

/-- The row of a solver's answer: in upper case, with a blank for everything
that is not a letter, and as long as the clue. -/
def answerRow (given : Option Text) (length : Int) : Text :=
  match given with
  | none | some [] => blanks length
  | some text => pad length (clip length ((Unicode.upper text).map letterOrBlank))

/-- The letters of a setter's solution: in upper case, with everything else
left out. -/
def solutionLetters (given : Option Text) : Text :=
  (Unicode.upper (given.getD [])).filter isLetter

/-- The letters given away: the text in upper case. -/
def revealedLetters (given : Option Text) : Text := Unicode.upper (given.getD [])

/-! ## Replacing a letter -/

/-- A place asked for lies outside a sequence: somewhere in the grid, or at a
position of a row of so many letters. -/
inductive IndexFault where
  | outside
  | letter (position : Int) (length : Nat)
  deriving DecidableEq, Repr

/-- The report of an index fault; a place in the grid has none. -/
def IndexFault.message? : IndexFault → Option String
  | .outside => none
  | .letter position length =>
    some s!"Letter index {(Text.ofInt position).shown} outside buffer of length {(Text.ofNat length).shown}"

/-- The row with the letter at a position replaced. The position counts from
the start and has to lie inside. -/
def setLetter (row : Text) (position : Int) (letter : Text) : Except IndexFault Text :=
  if 0 ≤ position ∧ position.toNat < row.length then
    .ok (row.take position.toNat ++ letter ++ row.drop (position.toNat + 1))
  else .error (.letter position row.length)

end Crossword
