/-!
# Intervals of code points

A property of characters is given by the intervals of code points that have
it, in ascending order and apart from each other.
-/
namespace Crossword.Unicode

/-- A code point lies in one of the intervals. The search stops at the first
interval that begins after it. -/
def within : List (Nat × Nat) → Nat → Bool
  | [], _ => false
  | (first, last) :: rest, code =>
    if code < first then false else if code ≤ last then true else within rest code

end Crossword.Unicode
