import Crossword.Unicode.Interval

/-!
# White space

The characters that part words without being seen: those of a white-space or
separating bidirectional class, and the space separators.
-/
namespace Crossword.Unicode

/-- The intervals of white space. -/
def spaceIntervals : List (Nat × Nat) :=
  [(0x09, 0x0D), (0x1C, 0x20), (0x85, 0x85), (0xA0, 0xA0), (0x1680, 0x1680), (0x2000, 0x200A), (0x2028, 0x2029),
   (0x202F, 0x202F), (0x205F, 0x205F), (0x3000, 0x3000)]

/-- A character is white space. -/
def isSpace (c : Char) : Bool := within spaceIntervals c.toNat

end Crossword.Unicode
