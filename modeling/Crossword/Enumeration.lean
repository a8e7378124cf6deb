import Crossword.Label

/-!
# Enumerations

A clue string ends with the lengths of the words of its answer, such as
`5,3-4`. Between two words stand commas, hyphens, periods or white space; after
the last one periods may stand, as in an acronym. The enumeration also says
which letters of the answer end a word before the last.
-/
namespace Crossword

/-- A word of the answer: how many letters it has, and what is printed after
it. -/
structure Word where
  length : Nat
  terminator : Text
  deriving DecidableEq, Repr

namespace Enumeration

/-- A character that may stand between two words. -/
def isSeparator (c : Char) : Bool := c == ',' || c == '-' || c == '.' || Unicode.isSpace c

/-- What a run of separators prints: its marks without the white space. -/
def marks (run : Text) : Text := run.filter fun c => !Unicode.isSpace c

/-- What parts two words: the marks between them, or a blank if there are
none. -/
def parting (run : Text) : Text := if marks run = [] then [' '] else marks run

/-- The words from the next one on. A word needs a length that is not zero; the
last word may be followed by periods only. -/
def readWords (source s : Text) : Except GrammarFault (List Word) :=
  let digits := s.takeWhile Text.isDigit
  let behind := s.dropWhile Text.isDigit
  let run := behind.takeWhile isSeparator
  let rest := behind.dropWhile isSeparator
  if Text.digitsValue digits = 0 then .error (.enumeration source s)
  else if rest = [] then
    if (marks run).all (· == '.') then .ok [⟨Text.digitsValue digits, marks run⟩]
    else .error (.enumeration source behind)
  else if run = [] then .error (.enumeration source behind)
  else
    match readWords source rest with
    | .ok words => .ok (⟨Text.digitsValue digits, parting run⟩ :: words)
    | .error fault => .error fault
termination_by s.length
decreasing_by
  rename_i runs
  have split_digits : (s.dropWhile Text.isDigit).length ≤ s.length := (List.dropWhile_suffix _).length_le
  have both : ((s.dropWhile Text.isDigit).takeWhile isSeparator).length
      + ((s.dropWhile Text.isDigit).dropWhile isSeparator).length = (s.dropWhile Text.isDigit).length := by
    rw [← List.length_append, List.takeWhile_append_dropWhile]
  have some_run : 0 < ((s.dropWhile Text.isDigit).takeWhile isSeparator).length := List.length_pos_iff.2 runs
  omega

/-- Reads an enumeration. The clue, if it is given, is named in reports. -/
def read (s clue : Text) : Except GrammarFault (List Word) :=
  readWords (reportedSource clue s) (Text.stripStart s)

/-- The number of letters of all words together. -/
def letterCount : List Word → Nat
  | [] => 0
  | word :: rest => word.length + letterCount rest

/-- The lengths of the words, as an enumeration without terminators. -/
def text (lengths : List Int) : Text :=
  '(' :: (List.intercalate [','] (lengths.map Text.ofInt) ++ [')'])

/-! ## Word ends inside an answer -/

/-- The word that ends at a letter which comes so many letters after the start of
the words listed. -/
def endingFrom (letter : Int) : List Int → Option Nat
  | [] => none
  | length :: rest =>
    if letter < length then
      if letter = length - 1 ∧ rest ≠ [] then some 0 else none
    else (endingFrom (letter - length) rest).map (· + 1)

/-- The word that ends at a letter. The last word is not counted, since nothing
parts it from a next one. -/
def endingWord? (letter : Int) (lengths : List Int) : Option Nat :=
  if letter < 0 then none else endingFrom letter lengths

/-- Whether a letter ends a word that something parts from a next one. -/
def isWordEnd (letter : Int) (lengths : List Int) : Bool := (endingWord? letter lengths).isSome

end Enumeration

end Crossword
