import Crossword.Clue
import Crossword.Datum.Quoted

/-!
# Faults

Everything that can stop the compilation of a crossword, by cause. Each cause
carries what its report needs, and the report is made in one place.
-/
namespace Crossword

/-! ## The definition -/

/-- A field of a clue specification. -/
inductive ClueField where
  | x
  | y
  | clue
  | answer
  | solution
  | revealed
  deriving DecidableEq, Repr

/-- The name of a field. -/
def ClueField.name : ClueField → Text
  | .x => "x".toList
  | .y => "y".toList
  | .clue => "clue".toList
  | .answer => "answer".toList
  | .solution => "solution".toList
  | .revealed => "revealed".toList

/-- What a field has to hold: coordinates are integers, the rest are texts. -/
def ClueField.kindPhrase : ClueField → String
  | .x | .y => "an int"
  | _ => "a str"

/-- A fault of the definition as a whole: there is none, it is no table, or the
size of the grid is missing or unfit. -/
inductive StructureFault where
  | missing
  | notTable
  | bounds
  deriving DecidableEq, Repr

/-- The report of a fault of the whole definition. -/
def StructureFault.message : StructureFault → String
  | .missing => "The crossword must be initialised with a crossword definition."
  | .notTable => "The crossword definition must be a mapping."
  | .bounds => "The crossword bounds are invalid."

/-- The mark of the definition's format. -/
def documentMimetype : Text := "application/vnd.js-crossword".toList

/-- The version of the definition's format. -/
def documentVersion : Text := "1.0".toList

/-- A field that is missing, of the wrong kind or not expected, in a clue
specification or in the header of the definition. -/
inductive SchemaFault where
  | specMissing
  | acrossMissing
  | acrossNotTruth
  | specNotTable (kind : Text)
  | fieldMissing (field : ClueField)
  | fieldMistyped (field : ClueField) (value : Datum)
  | unexpected (keys : List Datum)
  | documentMissing
  | documentNotTable
  | mimetypeMissing
  | mimetypeUnknown (mimetype : Text)
  | versionMissing
  | versionUnknown (version : Text)
  | cluesNotList (key : Text)

/-- The report of a schema fault. -/
def SchemaFault.message : SchemaFault → String
  | .specMissing => "'clue_spec' is required"
  | .acrossMissing => "'is_across' is required"
  | .acrossNotTruth => "'is_across' must be a boolean (True, False)"
  | .specNotTable kind => s!"'clue_spec' must be a mapping, not {kind.shown}"
  | .fieldMissing field => s!"'clue_spec.{field.name.shown}' is missing"
  | .fieldMistyped field value =>
    s!"'clue_spec.{field.name.shown} ({value.written.shown})' must be {field.kindPhrase}"
  | .unexpected keys =>
    let names := Text.shown (List.intercalate [','] (keys.map Datum.plain))
    s!"'clue_spec' has unexpected properties <{names}>"
  | .documentMissing => "Missing 'document' element"
  | .documentNotTable => "'document' must be a mapping"
  | .mimetypeMissing => "Missing 'document.mimetype' element"
  | .mimetypeUnknown mimetype =>
    s!"Unsupported 'document.mimetype' ({mimetype.shown}) Expected: {documentMimetype.shown}"
  | .versionMissing => "Missing 'document.version' element"
  | .versionUnknown version =>
    s!"Unsupported document version ({version.shown}) Expected: {documentVersion.shown}"
  | .cluesNotList key => s!"'{key.shown}' must be a list of clues"

/-- A solution or revealed letters that are not as many as the enumeration
says. -/
inductive LengthFault where
  | solution (letters enumeration : Text)
  | revealed (letters enumeration : Text)
  deriving DecidableEq, Repr

/-- The report of a length fault. -/
def LengthFault.message : LengthFault → String
  | .solution letters enumeration =>
    s!"Length of clue solution '{letters.shown}' does not match the answer length '{enumeration.shown}'"
  | .revealed letters enumeration =>
    s!"Length of clue revealed characters '{letters.shown}' does not match "
      ++ s!"the answer length '{enumeration.shown}'"

/-! ## The grid -/

/-- A clue that starts outside the bounds or runs out of them. -/
inductive BoundsFault where
  | start (clue : Text)
  | horizontal (clue : Text)
  | vertical (clue : Text)
  deriving DecidableEq, Repr

/-- The report of a bounds fault. -/
def BoundsFault.message : BoundsFault → String
  | .start clue => s!"Clue {clue.shown} doesn't start in the bounds."
  | .horizontal clue => s!"Clue {clue.shown} exceeds horizontal bounds."
  | .vertical clue => s!"Clue {clue.shown} exceeds vertical bounds."

/-- A letter that differs from the one its cell holds: the clue and its row, the
position and the cell, counted from zero, and the clue that lay there before,
with its row. -/
structure LetterConflict where
  row : Row
  clue : Text
  x : Nat
  y : Nat
  letters : Text
  position : Nat
  letter : Char
  previous : Option (Text × Text)
  existing : Text
  deriving DecidableEq, Repr

/-- Clues that disagree in a cell that they share. -/
inductive CoherenceFault where
  | letter (conflict : LetterConflict)
  | label (clue : Text) (other : Option Text)
  deriving DecidableEq, Repr

/-- The name of a clue in a report, or a question mark for none. -/
def nameOrMark : Option Text → String
  | some name => name.shown
  | none => "?"

/-- The number as it is reported. -/
def number (n : Nat) : String := (Text.ofNat n).shown

/-- The report of a letter that differs from the one in its cell. Positions are
counted from one. -/
def LetterConflict.message (c : LetterConflict) : String :=
  let row := c.row.name
  let previous := nameOrMark (c.previous.map (·.1))
  let letters := Text.shown ((c.previous.map (·.2)).getD [])
  s!"Clue {c.clue.shown} {row} at ({number (c.x + 1)},{number (c.y + 1)}) "
    ++ s!"[{c.letters.shown}[{number (c.position + 1)}],{Text.shown [c.letter]}] is not coherent "
    ++ s!"with previous clue ({previous}) {row} [{letters},{c.existing.shown}]."

/-- The report of a coherence fault. -/
def CoherenceFault.message : CoherenceFault → String
  | .letter conflict => conflict.message
  | .label clue other =>
    s!"Clue {clue.shown} has a label which is inconsistent with another clue ({nameOrMark other})."

/-! ## The chains -/

/-- The name of a direction that a reference gives, or of none. -/
def directionName : Option Direction → String
  | some .across => "across"
  | some .down => "down"
  | none => "unknown"

/-- A reference from one clue to another that cannot be linked. -/
inductive LinkFault where
  | unresolved (clue : Text) (reference : Reference)
  | taken (clue segment : Text)
  | tailWithTails (clue : Text) (head : Option Text)
  deriving DecidableEq, Repr

/-- The report of a link fault. -/
def LinkFault.message : LinkFault → String
  | .unresolved clue reference =>
    s!"Clue {clue.shown} refers to segment {(Text.ofInt reference.number).shown} "
      ++ s!"({directionName reference.direction}) which is not in the crossword."
  | .taken clue segment => s!"Clue {clue.shown} refers to segment {segment.shown} which is already linked."
  | .tailWithTails clue head =>
    let name := Text.shown (head.getD Datum.nothing.written)
    s!"Clue {clue.shown} is a tail of {name} and cannot have tails."

/-! ## The audit -/

/-- What an audit can find wrong with a puzzle. -/
inductive AuditFault where
  | cellCount (width height : Int)
  | strayLight (x y : Nat)
  | rowLength (clue : Text) (row : String) (length : Int)
  | disagreement (across down : Text) (row : Row) (x y : Nat)
  | startLabel (clue : Text)
  | noHead (clue : Text)
  | cyclic (head : Text)
  | brokenPrevious (clue : Text)
  | unreachable (clue head : Text)
  | foreignHead (clue head : Text)
  | headList (direction : Direction)
  deriving DecidableEq, Repr

/-- The report of an audit's finding. -/
def AuditFault.message : AuditFault → String
  | .cellCount width height =>
    s!"Grid does not hold {(Text.ofInt width).shown}x{(Text.ofInt height).shown} cells"
  | .strayLight x y => s!"Light cell at ({number x},{number y}) has no clue"
  | .rowLength clue row length =>
    s!"Clue {clue.shown} {row} does not hold {(Text.ofInt length).shown} letters"
  | .disagreement across down row x y =>
    s!"Clues {across.shown} and {down.shown} disagree on {row.name} at ({number (x + 1)},{number (y + 1)})"
  | .startLabel clue => s!"Clue {clue.shown} start cell carries a different label"
  | .noHead clue => s!"Clue {clue.shown} has no head segment"
  | .cyclic head => s!"Clue chain starting at {head.shown} is cyclic"
  | .brokenPrevious clue => s!"Clue {clue.shown} has a broken previous link"
  | .unreachable clue head => s!"Clue {clue.shown} is not reachable from {head.shown}"
  | .foreignHead clue head => s!"Clue {clue.shown} does not share the head {head.shown}"
  | .headList .across => "Across head segments do not match the linked chains"
  | .headList .down => "Down head segments do not match the linked chains"

/-! ## All causes -/

/-- A cause for which work on a puzzle stops. -/
inductive Fault where
  | structure (cause : StructureFault)
  | schema (cause : SchemaFault)
  | grammar (cause : GrammarFault)
  | length (cause : LengthFault)
  | room (cause : RoomFault)
  | bounds (cause : BoundsFault)
  | coherence (cause : CoherenceFault)
  | link (cause : LinkFault)
  | audit (cause : AuditFault)
  | rejected (messages : List String)
  | index (cause : IndexFault)

/-- The report of a fault; a row that no text can hold and a place outside the
grid have none. -/
def Fault.message? : Fault → Option String
  | .structure cause => some cause.message
  | .schema cause => some cause.message
  | .grammar cause => some cause.message
  | .length cause => some cause.message
  | .room _ => none
  | .bounds cause => some cause.message
  | .coherence cause => some cause.message
  | .link cause => some cause.message
  | .audit cause => some cause.message
  | .rejected messages =>
    let list := Datum.list (messages.map fun message => .text message.toList)
    some s!"Crossword validation failed: {list.written.shown}"
  | .index cause => cause.message?

end Crossword
