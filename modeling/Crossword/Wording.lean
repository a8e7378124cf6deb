import Crossword.Enumeration

/-!
# Wordings

A clue string has the shape `<LabelText>.<ClueText>(<LengthText>)`. The label
ends at the first period and the enumeration begins at the last opening
parenthesis, so that further periods and parentheses belong to the text of the
clue.
-/
namespace Crossword

/-- The three parts of a clue string as they stand in it. -/
structure ClueParts where
  label : Text
  text : Text
  enumeration : Text
  deriving DecidableEq, Repr

/-- The text before the last opening parenthesis and the text after it. -/
def splitLastParenthesis? (s : Text) : Option (Text × Text) :=
  match s.reverse.dropWhile (· != '(') with
  | [] => none
  | _ :: before => some (before.reverse, (s.reverse.takeWhile (· != '(')).reverse)

/-- The parts of a clue string, if it has the shape. White space around it does
not count. -/
def ClueParts.ofText? (clue : Text) : Option ClueParts :=
  let s := Text.strip clue
  match s.dropWhile (· != '.') with
  | [] => none
  | _ :: body =>
    if body.getLast? = some ')' then
      match splitLastParenthesis? body.dropLast with
      | none => none
      | some (text, enumeration) => some ⟨s.takeWhile (· != '.'), text, enumeration⟩
    else none

/-- The parts of a clue string. -/
def ClueParts.read (clue : Text) : Except GrammarFault ClueParts :=
  match ClueParts.ofText? clue with
  | some parts => .ok parts
  | none => .error (.pattern clue)

/-- A clue string that has been read in full. -/
structure Wording where
  parts : ClueParts
  label : Label
  text : Text
  words : List Word
  deriving DecidableEq, Repr

/-- Reads a clue string: its shape first, then the label, then the
enumeration. -/
def Wording.read (clue : Text) : Except GrammarFault Wording :=
  match ClueParts.read clue with
  | .error fault => .error fault
  | .ok parts =>
    match Label.read parts.label clue with
    | .error fault => .error fault
    | .ok label =>
      match Enumeration.read parts.enumeration clue with
      | .error fault => .error fault
      | .ok words => .ok ⟨parts, label, Text.strip parts.text, words⟩

end Crossword
