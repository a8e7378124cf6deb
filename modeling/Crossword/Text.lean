import Crossword.Unicode.Space

/-!
# Texts

A text is a sequence of code points, and every index and length counts code
points. This module holds what the grammars and the reports share: stripping
white space, positions that may count from the end, and decimal numerals.
-/
namespace Crossword

/-- A text is a sequence of code points. -/
abbrev Text := List Char

namespace Text

/-- A text without the white space it begins with. -/
def stripStart (s : Text) : Text := s.dropWhile Unicode.isSpace

/-- A text without the white space it ends with. -/
def stripEnd (s : Text) : Text := (s.reverse.dropWhile Unicode.isSpace).reverse

/-- A text without the white space around it. -/
def strip (s : Text) : Text := stripEnd (stripStart s)

/-- The text as a line of a report. -/
def shown (s : Text) : String := String.ofList s

/-! ## Numerals -/

/-- The decimal digits of a number, without leading zeros. -/
def ofNat (n : Nat) : Text := Nat.toDigits 10 n

/-- The decimal numeral of an integer, with a minus sign if it is negative. -/
def ofInt : Int → Text
  | .ofNat n => ofNat n
  | .negSucc n => '-' :: ofNat (n + 1)

/-- One of the ten decimal digits. -/
def isDigit (c : Char) : Bool := '0' ≤ c && c ≤ '9'

/-- The number that a run of decimal digits stands for; leading zeros are
allowed. -/
def digitsValue (digits : Text) : Nat := Nat.ofDigitChars 10 digits 0

end Text

/-! ## Positions that may count from the end -/

/-- The place that a position names in a sequence of some length: a position
from 0 counts from the start and a negative one from the end. -/
def place? (length : Nat) (position : Int) : Option Nat :=
  if 0 ≤ position then
    if position.toNat < length then some position.toNat else none
  else if (-position).toNat ≤ length then some (length - (-position).toNat)
  else none

/-- The item at a position, which may count from the end. -/
def pick? {α : Type} (items : List α) (position : Int) : Option α :=
  match place? items.length position with
  | some i => items[i]?
  | none => none

end Crossword
