/-!
# Runs of case pairs

A case mapping is given by runs: code points at equal distances that all move
by the same amount. What maps to several characters is listed on its own.
-/
namespace Crossword.Unicode

/-- The code points from `first` to `last`, `step` apart, move to `target` and
what follows it at the same distances. -/
structure Run where
  first : Nat
  last : Nat
  step : Nat
  target : Nat

/-- Where a code point moves; one in no run stays. The runs are in ascending
order, so the search stops at the first that begins after it. -/
def moved : List Run → Nat → Nat
  | [], code => code
  | run :: rest, code =>
    if code < run.first then code
    else if code ≤ run.last ∧ (code - run.first) % run.step = 0 then run.target + (code - run.first)
    else moved rest code

/-- The several characters that a code point becomes, if it is listed. -/
def special : List (Nat × List Nat) → Nat → Option (List Nat)
  | [], _ => none
  | (key, codes) :: rest, code =>
    if code < key then none else if code = key then some codes else special rest code

end Crossword.Unicode
