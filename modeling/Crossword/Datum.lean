import Crossword.Double.Basic
import Crossword.Text

/-!
# Data

A crossword definition arrives as data of any kind: nothing at all, truth
values, numbers, texts, octets, sequences and tables. This module holds the
kinds and what does not depend on the crossword: whether a datum counts as
present and what a table holds under a name.
-/
namespace Crossword

/-- A value of any kind. A table holds its entries in order, and its keys may be
of any kind too. -/
inductive Datum where
  | nothing
  | truth (value : Bool)
  | whole (value : Int)
  | real (value : Double)
  | text (value : Text)
  | octets (value : List UInt8)
  | list (items : List Datum)
  | tuple (items : List Datum)
  | table (entries : List (Datum × Datum))
  deriving Inhabited

namespace Datum

/-- The name of the kind of a datum. -/
def kind : Datum → Text
  | .nothing => "NoneType".toList
  | .truth _ => "bool".toList
  | .whole _ => "int".toList
  | .real _ => "float".toList
  | .text _ => "str".toList
  | .octets _ => "bytes".toList
  | .list _ => "list".toList
  | .tuple _ => "tuple".toList
  | .table _ => "dict".toList

/-- Nothing, a false truth value, zero and whatever is empty count as absent. -/
def isPresent : Datum → Bool
  | .nothing => false
  | .truth value => value
  | .whole value => value != 0
  | .real value => !value.isZero
  | .text value => !value.isEmpty
  | .octets value => !value.isEmpty
  | .list items => !items.isEmpty
  | .tuple items => !items.isEmpty
  | .table entries => !entries.isEmpty

/-- The datum is the text given. -/
def isText (name : Text) : Datum → Bool
  | .text value => value == name
  | _ => false

/-- What a table holds under a name. -/
def lookup? (name : Text) : List (Datum × Datum) → Option Datum
  | [] => none
  | (key, value) :: rest => if key.isText name then some value else lookup? name rest

/-- What a table holds under a name, or nothing. -/
def lookup (name : Text) (entries : List (Datum × Datum)) : Datum :=
  (lookup? name entries).getD .nothing

end Datum

end Crossword
