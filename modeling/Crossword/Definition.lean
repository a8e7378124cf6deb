import Crossword.Audit
import Crossword.Chain
import Crossword.Draft
import Crossword.Placement
import Crossword.Unicode.LowerCase

/-!
# Definitions

A crossword is defined by a table with its size, its clues across and down, and
perhaps a header that names the format. Compiling it goes in three steps: every
clue is compiled by itself, the clues are laid on a fresh board, and they are
linked into chains. The size is checked before any clue is compiled.
-/
namespace Crossword

/-- What a compilation is to do besides: tag the emphasis in clue texts, insist on
a header, audit the finished puzzle. -/
structure Config where
  tagEmphasis : Bool := true
  requireDocument : Bool := false
  verify : Bool := false
  deriving DecidableEq, Repr

namespace Definition

/-! ## The header -/

/-- A datum as a lower-case text without white space around it. -/
def normalised (d : Datum) : Text := Unicode.lower (Text.strip d.plain)

/-- Checks a mark of the header: it has to be there and to be the expected
one. -/
def checkMark (value : Datum) (expected : Text) (missing : SchemaFault) (unknown : Text → SchemaFault) :
    Except SchemaFault Unit :=
  if !value.isPresent then .error missing
  else if normalised value != expected then .error (unknown (normalised value))
  else .ok ()

/-- Checks the header of a definition, which may be left out unless it is
required. -/
def checkDocument (entries : List (Datum × Datum)) (required : Bool) : Except SchemaFault Unit :=
  match Datum.lookup "document".toList entries with
  | .nothing => if required then .error .documentMissing else .ok ()
  | .table header => do
    checkMark (Datum.lookup "mimetype".toList header) documentMimetype .mimetypeMissing .mimetypeUnknown
    checkMark (Datum.lookup "version".toList header) documentVersion .versionMissing .versionUnknown
  | _ => .error .documentNotTable

/-! ## Size and clues -/

/-- The bounds that a width and a height make, if both are integers and not
negative. -/
def bounds? : Datum → Datum → Option Bounds
  | .whole width, .whole height => if 0 ≤ width ∧ 0 ≤ height then some ⟨width, height⟩ else none
  | _, _ => none

/-- The clue specifications under a name; there may be none. -/
def clueSpecs (key : Text) (entries : List (Datum × Datum)) : Except SchemaFault (List Datum) :=
  match Datum.lookup key entries with
  | .nothing => .ok []
  | .list items => .ok items
  | .tuple items => .ok items
  | _ => .error (.cluesNotList key)

/-- Opens a board of the given size. -/
def openBoard (width height : Datum) : Edit Unit :=
  match bounds? width height with
  | some bounds => Edit.change fun p => p.openBoard bounds
  | none => Edit.stop (.structure .bounds)

/-- Compiles a clue specification and adds the clue to the puzzle. -/
def addClue (spec across : Datum) (tagEmphasis : Bool) : Edit ClueId := do
  let draft ← Edit.ofExcept id (Draft.read spec across)
  let clue ← Edit.ofExcept id (draft.clue tagEmphasis)
  Edit.enter .debug
    s!"Compiled clue {clue.id.shown} {draft.enumeration.shown} ({number draft.length} letters)"
  let i ← Edit.read fun p => p.clues.size
  Edit.change fun p => p.addClue clue
  pure i

/-- Compiles clue specifications of one direction in their order. -/
def addEach (across tagEmphasis : Bool) : List Datum → Edit (List ClueId)
  | [] => pure []
  | spec :: rest => do
    let i ← addClue spec (.truth across) tagEmphasis
    let more ← addEach across tagEmphasis rest
    pure (i :: more)

/-- Compiles the clues under a name in their order. -/
def addClues (key : Text) (across : Bool) (entries : List (Datum × Datum)) (tagEmphasis : Bool) :
    Edit (List ClueId) := do
  let specs ← Edit.ofExcept .schema (clueSpecs key entries)
  addEach across tagEmphasis specs

/-! ## Compilation -/

/-- Stops if an audit finds something wrong with the puzzle. -/
def verify : Edit Unit := do
  let report ← Edit.judge id Audit.report
  if report.ok then pure () else Edit.stop (.rejected report.messages)

/-- Checks the header of a definition, opens its board and compiles its clues,
those across first. -/
def prepare (entries : List (Datum × Datum)) (config : Config) : Edit (List ClueId × List ClueId) := do
  Edit.ofExcept .schema (checkDocument entries config.requireDocument)
  openBoard (Datum.lookup "width".toList entries) (Datum.lookup "height".toList entries)
  let across ← addClues "acrossClues".toList true entries config.tagEmphasis
  let down ← addClues "downClues".toList false entries config.tagEmphasis
  pure (across, down)

/-- Compiles the entries of a definition. -/
def compileEntries (entries : List (Datum × Datum)) (config : Config) : Edit Unit := do
  let clues ← prepare entries config
  Placement.assemble clues.1 clues.2
  Chain.link
  if config.verify then verify else pure ()
  let board ← Edit.read fun p => p.board
  Edit.enter .info
    (s!"Compiled {(Text.ofInt board.width).shown}x{(Text.ofInt board.height).shown} crossword: "
      ++ s!"{number board.across.length} across, {number board.down.length} down, "
      ++ s!"{number board.lightCells.length} light cells")

/-- Compiles a definition on a board of its own. -/
def compile (definition : Datum) (config : Config) : Edit Unit :=
  match definition with
  | .nothing => Edit.stop (.structure .missing)
  | .table entries => compileEntries entries config
  | _ => Edit.stop (.structure .notTable)

end Definition

/-- Compiles a definition into a puzzle of its own, with the journal of the
work. -/
def Puzzle.compile (definition : Datum) (config : Config) : Except Fault Puzzle × List Entry :=
  let outcome := (Definition.compile definition config).run Puzzle.empty
  (outcome.result.map fun _ => outcome.puzzle, outcome.journal)

end Crossword
