import Crossword.Text

/-!
# The journal

Work on a puzzle leaves a journal of what was done. Entries name their level, and
channels group entries by the part of the program that makes them.
-/
namespace Crossword

/-- How weighty an entry is. -/
inductive Level where
  | debug
  | info
  | error
  deriving DecidableEq, Repr

/-- An entry of the journal. -/
structure Entry where
  level : Level
  message : String
  deriving DecidableEq, Repr

namespace Channel

/-- The channel that all others belong to. -/
def main : Text := "crossword_compiler".toList

/-- The channel of a name: one outside the main channel is put under it. -/
def named : Option Text → Text
  | none | some [] => main
  | some name => if main.isPrefixOf name then name else main ++ '.' :: name

end Channel

end Crossword
