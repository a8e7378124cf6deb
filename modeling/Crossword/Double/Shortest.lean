import Crossword.Double.Basic
import Crossword.Text

/-!
# Writing doubles

A double is written with the fewest digits that read back as the same double;
of the numerals with that many digits it is the nearest one. Where its exponent
of ten is neither small nor large the digits are written out, and in scientific
notation otherwise.
-/
namespace Crossword.Double

/-- The numbers that read as one double lie between two bounds, in units of a
quarter of its last place; the bounds belong to it if its significand is
even. -/
structure Reach where
  low : Nat
  high : Nat
  closed : Bool
  unit : Nat × Nat

/-- What reads as a positive double. The gap below a power of two is half as wide
as the one above it. -/
def reach (significand : Nat) (exponent : Int) : Reach where
  low := if significand = twoTo 52 ∧ exponent ≠ leastExponent then 4 * significand - 1 else 4 * significand - 2
  high := 4 * significand + 2
  closed := significand % 2 == 0
  unit := scaled 1 1 (2 - exponent)

/-- A decimal fraction reads as the double of this reach. -/
def Reach.holds (r : Reach) (n d : Nat) : Bool :=
  let value := n * r.unit.2
  let low := r.low * r.unit.1 * d
  let high := r.high * r.unit.1 * d
  if r.closed then low ≤ value && value ≤ high else low < value && value < high

/-- The number of places after the point up to the first digit that is not
zero, looking at no more places than given. -/
def leadingPlaces (n d : Nat) : Nat → Nat
  | 0 => 0
  | places + 1 => if d ≤ n then 0 else leadingPlaces (n * 10) d places + 1

/-- The exponent of ten of the leading digit of a positive fraction. -/
def decade (n d : Nat) : Int :=
  if d ≤ n then ((Text.ofNat (n / d)).length : Int) - 1 else -(leadingPlaces n d 400 : Int)

/-- A power of ten as a fraction. -/
def tenTo (exponent : Int) : Nat × Nat :=
  if 0 ≤ exponent then (Nat.pow 10 exponent.toNat, 1) else (1, Nat.pow 10 (-exponent).toNat)

/-- The nearest number of so many digits that reads as the same double, if there
is one: its digits, as a number, and the exponent of ten of the last. Of two
equally near ones the even one is taken. -/
def candidate? (r : Reach) (n d : Nat) (top : Int) (count : Nat) : Option (Nat × Int) :=
  let exponent := top + 1 - count
  let (up, down) := tenTo exponent
  let below := n * down / (d * up)
  let rest := n * down % (d * up)
  let lower := r.holds (below * up) down
  let upper := r.holds ((below + 1) * up) down
  let takeLower := 2 * rest < d * up || (2 * rest == d * up && below % 2 == 0)
  if lower && (takeLower || !upper) then some (below, exponent)
  else if upper then some (below + 1, exponent)
  else none

/-- The first count of digits, from the given one on, with a number that reads as
the same double. Seventeen digits always do. -/
def search (r : Reach) (n d : Nat) (top : Int) (count : Nat) : Nat → Nat × Int
  | 0 => (n * (tenTo (top - 16)).2 / (d * (tenTo (top - 16)).1), top - 16)
  | more + 1 =>
    match candidate? r n d top count with
    | some found => found
    | none => search r n d top (count + 1) more

/-- The fewest digits that read as the same double, and the exponent of ten of
the leading one. -/
def shortest (significand : Nat) (exponent : Int) : Text × Int :=
  let (n, d) := scaled significand 1 (-exponent)
  let (digits, last) := search (reach significand exponent) n d (decade n d) 1 17
  let written := Text.ofNat digits
  ((written.reverse.dropWhile (· == '0')).reverse, last + written.length - 1)

/-! ## Layout -/

/-- How a number is laid out: the exponents of ten between which the digits are
written out, and the least number of digits in an exponent. -/
structure Layout where
  firstWrittenOut : Int
  firstScientific : Int
  exponentDigits : Nat

/-- Digits are written out from 10^-4 up to, not including, 10^16; an exponent
has two digits or more. -/
def layout : Layout := ⟨-4, 16, 2⟩

/-- Digits written out, with at least one digit after the point. -/
def writtenOut (digits : Text) (exponent : Int) : Text :=
  if exponent < 0 then
    '0' :: '.' :: (List.replicate (-exponent - 1).toNat '0' ++ digits)
  else
    let places := exponent.toNat + 1
    if digits.length ≤ places then digits ++ List.replicate (places - digits.length) '0' ++ ['.', '0']
    else digits.take places ++ '.' :: digits.drop places

/-- Digits in scientific notation; a point stands only before further digits. -/
def scientific (l : Layout) (digits : Text) (exponent : Int) : Text :=
  let places := Text.ofNat exponent.natAbs
  digits.take 1 ++ (if digits.length ≤ 1 then [] else '.' :: digits.drop 1)
    ++ 'e' :: (if exponent < 0 then '-' else '+')
    :: (List.replicate (l.exponentDigits - places.length) '0' ++ places)

/-- The text of a finite double without its sign. -/
def magnitude (significand : Nat) (exponent : Int) : Text :=
  if significand = 0 then writtenOut ['0'] 0
  else
    let (digits, top) := shortest significand exponent
    if layout.firstWrittenOut ≤ top ∧ top < layout.firstScientific then writtenOut digits top
    else scientific layout digits top

/-- The text of a double. -/
def text : Double → Text
  | .nan => "nan".toList
  | .infinite negative => if negative then "-inf".toList else "inf".toList
  | .finite negative significand exponent =>
    if negative then '-' :: magnitude significand exponent else magnitude significand exponent

end Crossword.Double
