import Crossword.Text
import Crossword.Unicode.Alphanumeric

/-!
# Labels

A clue string begins with a label such as `9,3a,4d`: the number of the clue,
and the numbers of the other clues that its answer runs on in. Each number may
name its direction. Between two segments stands a separator, which is anything
but letters and numbers and is not white space alone.
-/
namespace Crossword

/-- The direction in which a clue runs through the grid. -/
inductive Direction where
  | across
  | down
  deriving DecidableEq, Repr, Inhabited

/-- The direction that crosses this one. -/
def Direction.crossing : Direction → Direction
  | .across => .down
  | .down => .across

/-- The letter that names the direction in a label or an identifier. -/
def Direction.suffix : Direction → Text
  | .across => ['a']
  | .down => ['d']

/-- What can be wrong with a clue string. The label and the enumeration report
the text that they were read in and what was left when reading stopped. -/
inductive GrammarFault where
  | pattern (clue : Text)
  | label (source residual : Text)
  | enumeration (source residual : Text)
  deriving DecidableEq, Repr

/-- The report of a grammar fault. -/
def GrammarFault.message : GrammarFault → String
  | .pattern clue =>
    s!"Clue '{clue.shown}' does not match the required pattern '<LabelText>.<ClueText>(<LengthText>)'"
  | .label source residual => s!"'{source.shown}' Error in <labelText> near <{residual.shown}>"
  | .enumeration source residual => s!"'{source.shown}' Error in <lengthText> near <{residual.shown}>"

/-- The text that a report names: the clue, or the part itself if no clue is
given. -/
def reportedSource (clue part : Text) : Text := if clue = [] then part else clue

namespace Label

/-- A segment of a label: a clue number, and the direction if one is named. -/
structure Segment where
  number : Nat
  direction : Option Direction
  deriving DecidableEq, Repr

/-- The letter that a segment's direction is written with; nothing if it names
none. -/
def Segment.suffix (s : Segment) : Text :=
  match s.direction with
  | some d => d.suffix
  | none => []

/-- A segment as it is written. -/
def Segment.text (s : Segment) : Text := Text.ofNat s.number ++ s.suffix

end Label

/-- A label names at least one clue, the head. -/
structure Label where
  head : Label.Segment
  tails : List Label.Segment
  deriving DecidableEq, Repr

namespace Label

/-- All segments of a label in order. -/
def segments (l : Label) : List Segment := l.head :: l.tails

/-- A character that may stand between two segments. -/
def isSeparator (c : Char) : Bool := !Unicode.isAlphanumeric c

/-- The direction that a text begins with the letter of, and what follows. -/
def takeDirection : Text → Option Direction × Text
  | 'a' :: rest => (some .across, rest)
  | 'd' :: rest => (some .down, rest)
  | rest => (none, rest)

/-- The segment that a text begins with, and what follows it and the white space
after it. -/
def takeSegment? (s : Text) : Option (Segment × Text) :=
  let digits := s.takeWhile Text.isDigit
  if digits = [] then none
  else
    let (direction, rest) := takeDirection (s.dropWhile Text.isDigit)
    some (⟨Text.digitsValue digits, direction⟩, Text.stripStart rest)

theorem length_takeDirection (s : Text) : (takeDirection s).2.length ≤ s.length := by
  unfold takeDirection
  split <;> simp

theorem length_takeSegment? {s rest : Text} {segment : Segment}
    (h : takeSegment? s = some (segment, rest)) : rest.length < s.length := by
  unfold takeSegment? at h
  simp only at h
  split at h
  · cases h
  · next found =>
    cases h
    have both : (s.takeWhile Text.isDigit).length + (s.dropWhile Text.isDigit).length = s.length := by
      rw [← List.length_append, List.takeWhile_append_dropWhile]
    have some_digit := List.length_pos_iff.2 found
    have after := length_takeDirection (s.dropWhile Text.isDigit)
    have stripped : ((takeDirection (s.dropWhile Text.isDigit)).2.dropWhile Unicode.isSpace).length
        ≤ (takeDirection (s.dropWhile Text.isDigit)).2.length := (List.dropWhile_suffix _).length_le
    simp only [Text.stripStart]
    omega

/-- The segments after the first, each with a separator before it. What is left
is reported from the separator on. -/
def readTails (source s : Text) : Except GrammarFault (List Segment) :=
  if s = [] then .ok []
  else if s.takeWhile isSeparator = [] then .error (.label source s)
  else
    match _taken : takeSegment? (s.dropWhile isSeparator) with
    | none => .error (.label source s)
    | some (segment, rest) =>
      match readTails source rest with
      | .ok segments => .ok (segment :: segments)
      | .error fault => .error fault
termination_by s.length
decreasing_by
  have shorter := length_takeSegment? _taken
  have : (s.dropWhile isSeparator).length ≤ s.length := (List.dropWhile_suffix _).length_le
  omega

/-- Reads a label. Only white space may stand before the head. The clue, if it is
given, is named in reports. -/
def read (s clue : Text) : Except GrammarFault Label :=
  match takeSegment? (Text.stripStart s) with
  | none => .error (.label (reportedSource clue s) s)
  | some (head, rest) =>
    match readTails (reportedSource clue s) rest with
    | .ok tails => .ok ⟨head, tails⟩
    | .error fault => .error fault

end Label

end Crossword
