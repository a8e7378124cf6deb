import Crossword.Datum
import Crossword.Double.Shortest
import Crossword.Unicode.Printable

/-!
# The written form of data

Reports show a datum as it would be written down: texts in quotes, with what
cannot be shown escaped, sequences in brackets and tables in braces.
-/
namespace Crossword.Datum

/-! ## Quoted texts -/

/-- The low hexadecimal digits of a number, as many as asked for. -/
def hexDigits : Nat → Nat → Text
  | 0, _ => []
  | count + 1, n => hexDigits count (n / 16) ++ [Nat.digitChar (n % 16)]

/-- The quote to use: double ones where single ones occur and double ones do
not. -/
def quoteFor (codes : List Nat) : Char :=
  if codes.contains 0x27 && !codes.contains 0x22 then '"' else '\''

/-- The escapes that quoted texts and quoted octets share: the quote, the
backslash and the usual controls. -/
def shortEscape? (quote c : Char) : Option Text :=
  if c = quote ∨ c = '\\' then some ['\\', c]
  else if c = '\t' then some ['\\', 't']
  else if c = '\n' then some ['\\', 'n']
  else if c = '\r' then some ['\\', 'r']
  else none

/-- A character that cannot be shown, by its code point in as few digits as it
fits in: two, four or eight. -/
def codeEscape (code : Nat) : Text :=
  if code ≤ 0xFF then '\\' :: 'x' :: hexDigits 2 code
  else if code ≤ 0xFFFF then '\\' :: 'u' :: hexDigits 4 code
  else '\\' :: 'U' :: hexDigits 8 code

/-- A character inside quotes. -/
def quotedChar (quote c : Char) : Text :=
  match shortEscape? quote c with
  | some escape => escape
  | none => if Unicode.isPrintable c then [c] else codeEscape c.toNat

/-- A text in quotes. -/
def quotedText (s : Text) : Text :=
  let quote := quoteFor (s.map Char.toNat)
  quote :: (s.flatMap (quotedChar quote) ++ [quote])

/-- An octet inside quotes: only the visible characters of the lower half are
shown. -/
def quotedOctet (quote : Char) (octet : UInt8) : Text :=
  match shortEscape? quote (Char.ofNat octet.toNat) with
  | some escape => escape
  | none =>
    if 0x20 ≤ octet.toNat ∧ octet.toNat < 0x7F then [Char.ofNat octet.toNat]
    else codeEscape octet.toNat

/-- Octets in quotes. -/
def quotedOctets (octets : List UInt8) : Text :=
  let quote := quoteFor (octets.map UInt8.toNat)
  'b' :: quote :: (octets.flatMap (quotedOctet quote) ++ [quote])

/-! ## Written data -/

/-- Texts with a comma and a blank between each two. -/
def commaSeparated (parts : List Text) : Text := List.intercalate [',', ' '] parts

/-- The parts of a tuple; a single one is followed by a comma. -/
def tupleBody (parts : List Text) : Text :=
  match parts with
  | [only] => only ++ [',']
  | _ => commaSeparated parts

mutual

/-- The written form of a datum. -/
def written : Datum → Text
  | .nothing => "None".toList
  | .truth value => if value then "True".toList else "False".toList
  | .whole value => Text.ofInt value
  | .real value => value.text
  | .text value => quotedText value
  | .octets value => quotedOctets value
  | .list items => '[' :: (commaSeparated (writtenItems items) ++ [']'])
  | .tuple items => '(' :: (tupleBody (writtenItems items) ++ [')'])
  | .table entries => '\x7b' :: (commaSeparated (writtenEntries entries) ++ ['\x7d'])

/-- The written forms of the items of a sequence. -/
def writtenItems : List Datum → List Text
  | [] => []
  | item :: rest => written item :: writtenItems rest

/-- The written forms of the entries of a table. -/
def writtenEntries : List (Datum × Datum) → List Text
  | [] => []
  | entry :: rest => writtenEntry entry :: writtenEntries rest

/-- The written form of an entry of a table. -/
def writtenEntry : Datum × Datum → Text
  | (key, value) => written key ++ ':' :: ' ' :: written value

end

/-- A datum as plain text: a text is itself, without quotes. -/
def plain : Datum → Text
  | .text value => value
  | other => written other

end Crossword.Datum
