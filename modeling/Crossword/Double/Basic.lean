/-!
# Doubles

The numbers of the 64-bit binary floating-point format. A finite one is its
significand times a power of two; the significand stays below 2^53 and the
exponent is at least -1074, and it is -1074 wherever the significand is below
2^52.
-/
namespace Crossword

/-- A number of the format: not a number, an infinity, or a finite value. Zero
has a sign as well. -/
inductive Double where
  | nan
  | infinite (negative : Bool)
  | finite (negative : Bool) (significand : Nat) (exponent : Int)
  deriving DecidableEq, Repr

namespace Double

/-- A power of two. -/
def twoTo (exponent : Nat) : Nat := Nat.pow 2 exponent

/-- A fraction divided by a power of two, as a fraction. -/
def scaled (n d : Nat) (exponent : Int) : Nat × Nat :=
  if 0 ≤ exponent then (n, d * twoTo exponent.toNat) else (n * twoTo (-exponent).toNat, d)

/-- The least exponent of the format. -/
def leastExponent : Int := -1074

/-- Both zeros count as zero; not a number does not. -/
def isZero : Double → Bool
  | .finite _ 0 _ => true
  | _ => false

end Double

end Crossword
