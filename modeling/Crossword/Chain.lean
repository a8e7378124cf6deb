import Crossword.Edit

/-!
# Chains

An answer may run on from one clue to others. The clue that it begins in, the
head, names the others in its label. Linking resolves these names and ties the
clues of an answer together in their order; every clue belongs to one chain, and
a clue that nothing runs on into or from is a chain by itself.
-/
namespace Crossword.Chain

/-- The clue named by a reference cannot join a chain: it is in the chain
already, belongs to another one, or heads one. -/
def isTaken (p : Puzzle) (chain : List ClueId) (i : ClueId) : Bool :=
  chain.contains i || !p.isHead i || !(p.clue i).links.tails.isEmpty

/-- The chain that a clue heads, as far as it is known, with the clues that the
remaining references name. -/
def gather (p : Puzzle) (head : ClueId) (chain : List ClueId) : List Reference → Except LinkFault (List ClueId)
  | [] => .ok chain
  | reference :: rest =>
    match p.resolve? reference with
    | none => .error (.unresolved (p.clue head).id reference)
    | some i =>
      if isTaken p chain i then .error (.taken (p.clue head).id (p.clue i).id)
      else gather p head (chain ++ [i]) rest

/-- The clue with its links changed. -/
def relink (f : Links → Links) (c : Clue) : Clue := { c with links := f c.links }

/-- Undoes the links of a clue: it stands alone. -/
def detach (i : ClueId) (p : Puzzle) : Puzzle :=
  p.updateClue i fun clue => { clue with links := clue.aloneLinks i }

/-- Ties the clues of a chain to their head and to their neighbours. -/
def tie (head : ClueId) : Option ClueId → List ClueId → Puzzle → Puzzle
  | _, [], p => p
  | previous, i :: rest, p =>
    tie head (some i) rest <|
      p.updateClue i <| relink fun links =>
        { links with head := some head, previous := previous <|> links.previous, next := rest.head? <|> links.next }

/-- What the head of a chain says of the whole chain. -/
def summary (p : Puzzle) (chain : List ClueId) (links : Links) : Links :=
  { links with
    tails := chain.drop 1
    flatCells := some (chain.flatMap fun i => (p.clue i).cells).eraseDups
    enumeration := Enumeration.text (chain.flatMap fun i => (p.clue i).wordLengths)
    label := List.intercalate [','] (chain.map fun i => (p.clue i).label) }

/-- A clue that is not the head leaves cells and enumeration to the head. -/
def follow (links : Links) : Links := { links with enumeration := [], flatCells := none }

/-- Joins clues into a chain. -/
def join (head : ClueId) (chain : List ClueId) (p : Puzzle) : Puzzle :=
  let tied := tie head none chain p
  let headed := tied.updateClue head (relink (summary tied chain))
  (chain.drop 1).foldl (fun q i => q.updateClue i (relink follow)) headed

/-- Links the clues that a head names in its label. -/
def linkChain (head : ClueId) : Edit Unit := do
  let chain ← Edit.judge .link fun p => gather p head [head] (p.clue head).references
  Edit.change (join head chain)
  let p ← Edit.read id
  let names := Text.shown (List.intercalate [',', ' '] ((chain.drop 1).map fun i => (p.clue i).id))
  Edit.enter .debug s!"Linked clue {(p.clue head).id.shown} to segments {names}"

/-- Links a clue if its label names others. A clue that another one has named
already may name none. -/
def linkClue (i : ClueId) : Edit Unit := do
  let p ← Edit.read id
  if (p.clue i).references.isEmpty then pure ()
  else if !p.isHead i then
    Edit.stop (.link (.tailWithTails (p.clue i).id ((p.clue i).links.head.map fun j => (p.clue j).id)))
  else linkChain i

/-- The board with the heads of both directions noted. -/
def noteHeads (p : Puzzle) : Puzzle :=
  p.updateBoard fun board =>
    { board with acrossHeads := board.across.filter p.isHead, downHeads := board.down.filter p.isHead }

/-- Links the clues of a board into chains, whatever links they had before. -/
def link : Edit Unit := do
  let clues ← Edit.read fun p => p.board.clues
  clues.forM fun i => Edit.change (detach i)
  clues.forM linkClue
  Edit.change noteHeads

end Crossword.Chain
