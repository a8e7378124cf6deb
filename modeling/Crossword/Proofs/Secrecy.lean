import Crossword.Proofs.Phases
import Crossword.Proofs.Reading
import Crossword.Proofs.Veiling

/-!
What the wording of clues and the setter's secrets can do to a puzzle. Apart from the texts,
solutions and revealed letters themselves, a puzzle depends on the open part of its
definition alone: clues that agree there are the same under a veil, and nothing that is done
to them later looks under it. Tagging the emphasis puts nothing but a veil on texts.
-/
namespace Crossword
open Edit Placement Definition

/-! ### The open part of a definition -/

/-- The label and the enumeration that stand in a clue string. -/
def frameOf : Datum → Option (Text × Text)
  | .text clue => (ClueParts.ofText? clue).map fun parts => (parts.label,parts.enumeration)
  | _ => none

/-- What a clue specification says in the open: the place of the clue, the label and the
    enumeration in its clue string, and its answer. -/
structure OpenSpec where
  x : Option Datum
  y : Option Datum
  frame : Option (Text × Text)
  answer : Option Datum

/-- The open part of a clue specification; only a table has one. -/
def openSpec : Datum → Option OpenSpec
  | .table entries => some
    { x := Datum.lookup? ClueField.x.name entries
      y := Datum.lookup? ClueField.y.name entries
      frame := (Datum.lookup? ClueField.clue.name entries).bind frameOf
      answer := Datum.lookup? ClueField.answer.name entries }
  | _ => none

/-- What a definition says in the open: its size, and the open parts of its clues. -/
structure OpenPart where
  width : Datum
  height : Datum
  across : List (Option OpenSpec)
  down : List (Option OpenSpec)

/-- The open part of a definition. -/
def Definition.openPart (definition : Datum) : OpenPart where
  width := match definition with
    | .table entries => Datum.lookup "width".toList entries
    | _ => .nothing
  height := match definition with
    | .table entries => Datum.lookup "height".toList entries
    | _ => .nothing
  across := (specsOf .across definition).map openSpec
  down := (specsOf .down definition).map openSpec

/-! ### What is left of a puzzle without wording and secrets -/

/-- The clue without its text, its solution and its revealed letters. -/
def Clue.bare (c : Clue) : Clue := { c with text := [], solution := [], revealed := [] }

/-- The cell without its solution. -/
def Cell.bare (c : Cell) : Cell := { c with solution := [] }

/-- The puzzle without the wording of its clues and without the setter's secrets. -/
def Puzzle.bare (p : Puzzle) : Puzzle := { p with clues := p.clues.map Clue.bare, cells := p.cells.map Cell.bare }

/-- The puzzle with the texts of its clues rewritten. -/
def Puzzle.mapTexts (f : Text → Text) (p : Puzzle) : Puzzle :=
  { p with clues := p.clues.map fun c => { c with text := f c.text } }

/-- The veil that leaves no wording and no secret. -/
def Veil.hiding : Veil := ⟨fun _ => [],true⟩

/-- The veil that tags the emphasis in texts. -/
def Veil.tagging : Veil := ⟨Emphasis.render,false⟩

section
variable {d : Direction} {p q : Puzzle} {source source' : Text}

/-! ### Reading a clue string -/

/-- The text that is named in reports has no part in what is read. -/
theorem Label.read_clue {s clue : Text} (clue' : Text) {label : Label} (given : read s clue = .ok label) :
    read s clue' = .ok label :=
  read_eq_ok_iff.mpr (read_eq_ok_iff.mp given)

theorem Enumeration.read_clue {s clue : Text} (clue' : Text) {words : List Word} (given : read s clue = .ok words) :
    read s clue' = .ok words :=
  read_eq_ok_iff.mpr (read_eq_ok_iff.mp given)

/-- What frames the text of a clue string settles its label and its words. -/
theorem Wording.eq_of_frame {clue clue' : Text} {w w' : Wording}
    (same : frameOf (.text clue) = frameOf (.text clue')) (read : Wording.read clue = .ok w)
    (read' : Wording.read clue' = .ok w') : w.label = w'.label ∧ w.words = w'.words := by
  obtain ⟨shape,label,words,_⟩ := Wording.read_eq_ok_iff.mp read
  obtain ⟨shape',label',words',_⟩ := Wording.read_eq_ok_iff.mp read'
  simp only [frameOf,shape,shape',Option.map_some,Option.some.injEq,Prod.mk.injEq] at same
  rw [same.1] at label
  rw [same.2] at words
  exact ⟨Except.ok.inj ((Label.read_clue clue' label).symm.trans label'),
    Except.ok.inj ((Enumeration.read_clue clue' words).symm.trans words')⟩

/-! ### Clues of the same open part -/

theorem Clue.bare_eq_of_openSpec {spec spec' : Datum} {tagEmphasis tagEmphasis' : Bool} {c c' : Clue}
    (same : openSpec spec = openSpec spec')
    (compiled : Clue.compile spec (.truth d.isAcross) tagEmphasis = .ok c)
    (compiled' : Clue.compile spec' (.truth d.isAcross) tagEmphasis' = .ok c') : c.bare = c'.bare := by
  obtain ⟨draft,read,made⟩ := Clue.compile_eq_ok_iff.mp compiled
  obtain ⟨draft',read',made'⟩ := Clue.compile_eq_ok_iff.mp compiled'
  obtain ⟨-,-,-,rfl⟩ := Draft.clue_eq_ok_iff.mp made
  obtain ⟨-,-,-,rfl⟩ := Draft.clue_eq_ok_iff.mp made'
  obtain ⟨own,wording⟩ := Draft.read_eq_ok_iff.mp read
  obtain ⟨own',wording'⟩ := Draft.read_eq_ok_iff.mp read'
  obtain ⟨entries,rfl,reads,direction⟩ := ClueSpec.read_eq_ok_iff.mp own
  obtain ⟨entries',rfl,reads',direction'⟩ := ClueSpec.read_eq_ok_iff.mp own'
  simp only [openSpec,reads.x,reads.y,reads.clue,reads.answer,reads'.x,reads'.y,reads'.clue,reads'.answer,
    Option.bind_some,Option.some.injEq,OpenSpec.mk.injEq,Datum.whole.injEq] at same
  obtain ⟨x,y,frame,answer⟩ := same
  obtain ⟨label,words⟩ := Wording.eq_of_frame frame wording wording'
  have answer : draft.spec.answer = draft'.spec.answer := Option.map_injective (fun _ _ => Datum.text.inj) answer
  simp only [Clue.bare,Draft.clueWith,Draft.id,Draft.length,Draft.references,x,y,label,words,answer,direction,direction']

namespace Veil

theorem row_hiding (letters : Text) : hiding.row letters = List.replicate letters.length blank :=
  List.map_const'

/-- Under the veil only the number of secret letters is left, and that is the length of the clue. -/
theorem hiding_clue_eq {c c' : Clue} (same : c.bare = c'.bare) (fit : c.Fit) (fit' : c'.Fit) :
    hiding.clue c = hiding.clue c' := by
  have length : c.length = c'.length := (congrArg Clue.length same :)
  have solution : c.solution.length = c'.solution.length := by
    have own : (c.solution.length : Int) = c.length := fit.row_length .solution
    have own' : (c'.solution.length : Int) = c'.length := fit'.row_length .solution
    omega
  have revealed : c.revealed.length = c'.revealed.length := by
    have own := fit.revealed_length
    have own' := fit'.revealed_length
    omega
  calc hiding.clue c
      = { c.bare with solution := hiding.row c.solution, revealed := hiding.row c.revealed } := rfl
    _ = { c'.bare with solution := hiding.row c'.solution, revealed := hiding.row c'.revealed } := by
      rw [same,row_hiding,row_hiding,row_hiding,row_hiding,solution,revealed]
    _ = hiding.clue c' := rfl

theorem hiding_clues_eq {tagEmphasis tagEmphasis' : Bool} {specs specs' : List Datum} {clues clues' : List Clue}
    (same : specs.map openSpec = specs'.map openSpec) (compiled : CompiledFrom d tagEmphasis specs clues)
    (compiled' : CompiledFrom d tagEmphasis' specs' clues') : clues.map hiding.clue = clues'.map hiding.clue := by
  induction compiled generalizing specs' clues' with
  | nil =>
    obtain rfl := List.map_eq_nil_iff.mp same.symm
    obtain rfl := List.forall₂_nil_left_iff.mp compiled'
    rfl
  | cons first rest ih =>
    obtain ⟨spec',specs',rfl,here,later⟩ := List.map_eq_cons_iff.mp same.symm
    obtain ⟨c',clues',first',rest',rfl⟩ := List.forall₂_cons_left_iff.mp compiled'
    have bare := Clue.bare_eq_of_openSpec here.symm first first'
    have fit := Clue.fit_of_fresh ⟨_,_,_,first⟩
    have fit' := Clue.fit_of_fresh ⟨_,_,_,first'⟩
    rw [List.map_cons,List.map_cons,hiding_clue_eq bare fit fit',ih later.symm rest']

theorem bare_hiding (p : Puzzle) : (hiding.puzzle p).bare = p.bare := by
  simp only [Puzzle.bare,puzzle,Array.map_map]
  rfl

/-- Clues that are the same under the veil make puzzles that are. -/
theorem hiding_drafted {bounds : Bounds} {made made' : Direction → List Clue}
    (same : ∀ d, (made d).map hiding.clue = (made' d).map hiding.clue) :
    hiding.puzzle (drafted bounds made) = hiding.puzzle (drafted bounds made') := by
  simp [puzzle,drafted,Puzzle.addAll,Puzzle.openBoard,Puzzle.empty,same]

end Veil

theorem numbersOf_congr {made made' : Direction → List Clue} (same : ∀ d, (made d).length = (made' d).length) :
    numbersOf made = numbersOf made' := by
  funext d
  cases d <;> simp only [numbersOf,same]

/-- The veil may be put over the clues before they are laid and linked. -/
theorem Passes.hiding_eq {entries entries' : List (Datum × Datum)} {config config' : Config} {bounds : Bounds}
    {made made' : Direction → List Clue} (passes : Passes entries config bounds made p)
    (passes' : Passes entries' config' bounds made' q)
    (same : ∀ d, (made d).map Veil.hiding.clue = (made' d).map Veil.hiding.clue) :
    Veil.hiding.puzzle p = Veil.hiding.puzzle q := by
  have numbers : numbersOf made = numbersOf made' :=
    numbersOf_congr fun d => by simpa using congrArg List.length (same d)
  obtain ⟨r,assembled,linked⟩ := passes.joined
  obtain ⟨r',assembled',linked'⟩ := passes'.joined
  have laid := (Veil.follows_assemble (v := Veil.hiding)).gives assembled
  have laid' := (Veil.follows_assemble (v := Veil.hiding)).gives assembled'
  rw [numbers,Veil.hiding_drafted same] at laid
  have joined := (Veil.follows_link (v := Veil.hiding)).gives linked
  have joined' := (Veil.follows_link (v := Veil.hiding)).gives linked'
  rw [(gives_unique laid laid').2] at joined
  exact (gives_unique joined joined').2

/-! ### Tagging the emphasis -/

namespace Veil

theorem cell_tagging : tagging.cell = id := rfl

theorem size_clues (v : Veil) (p : Puzzle) : (v.puzzle p).clues.size = p.clues.size := by
  simp [puzzle]

theorem clue_tagging (draft : Draft) : draft.clue true = (draft.clue false).map tagging.clue := by
  unfold Draft.clue
  split
  · rfl
  · split
    · rfl
    · cases checkRoom draft.spec.answer draft.length <;> rfl

theorem follows_ofExcept {α ε : Type} {v : Veil} {cause : ε → Fault} {found : Except ε α} :
    v.Follows (ofExcept cause found) (ofExcept cause found) := by
  cases found with
  | ok a => exact follows_pure
  | error fault => exact follows_stop

theorem follows_addClue {spec across : Datum} :
    tagging.Follows (addClue spec across false) (addClue spec across true) := by
  refine follows_bind follows_ofExcept fun draft => ?_
  rw [clue_tagging]
  cases draft.clue false with
  | error fault => exact follows_stop
  | ok c =>
    show tagging.Follows (Edit.read (fun _ => c) >>= _) (Edit.read (fun _ => tagging.clue c) >>= _)
    refine follows_read_bind fun _ => follows_bind follows_enter fun _ => follows_read_bind fun p => ?_
    rw [size_clues]
    refine follows_bind (follows_change fun p => ?_) fun _ => follows_pure
    simp [puzzle,Puzzle.addClue]

theorem follows_addEach {across : Bool} {specs : List Datum} :
    tagging.Follows (addEach across false specs) (addEach across true specs) := by
  induction specs with
  | nil => exact follows_pure
  | cons spec rest ih =>
    exact follows_bind follows_addClue fun _ => follows_bind ih fun _ => follows_pure

theorem follows_openBoard {width height : Datum} : tagging.Follows (openBoard width height) (openBoard width height) := by
  unfold openBoard
  cases bounds? width height with
  | none => exact follows_stop
  | some bounds =>
    refine follows_change fun p => ?_
    simp [puzzle,Puzzle.openBoard,cell_tagging]

theorem follows_prepare {entries : List (Datum × Datum)} {requireDocument : Bool} :
    tagging.Follows (prepare entries ⟨false,requireDocument,false⟩) (prepare entries ⟨true,requireDocument,false⟩) := by
  have addClues {key : Text} {across : Bool} : tagging.Follows (addClues key across entries false)
      (addClues key across entries true) := follows_bind follows_ofExcept fun _ => follows_addEach
  refine follows_bind follows_ofExcept fun _ => follows_bind follows_openBoard fun _ => ?_
  exact follows_bind addClues fun across => follows_bind addClues fun down => follows_pure

theorem follows_compileEntries {entries : List (Datum × Datum)} {requireDocument : Bool} :
    tagging.Follows (compileEntries entries ⟨false,requireDocument,false⟩)
      (compileEntries entries ⟨true,requireDocument,false⟩) := by
  refine follows_bind follows_prepare fun clues => ?_
  refine follows_bind follows_assemble fun _ => follows_bind follows_link fun _ => ?_
  exact follows_read_bind fun p => follows_enter

theorem follows_compile {definition : Datum} {requireDocument : Bool} :
    tagging.Follows (Definition.compile definition ⟨false,requireDocument,false⟩)
      (Definition.compile definition ⟨true,requireDocument,false⟩) := by
  cases definition with
  | table entries => exact follows_compileEntries
  | _ => exact follows_stop

theorem tagging_puzzle (p : Puzzle) : tagging.puzzle p = p.mapTexts Emphasis.render := by
  rw [puzzle,cell_tagging,Array.map_id]
  rfl

end Veil

/-! ### Whole compilations -/

theorem compile_tagging (definition : Datum) (config : Config) :
    Puzzle.compile definition { config with tagEmphasis := true } =
      ((Puzzle.compile definition { config with tagEmphasis := false }).1.map (Puzzle.mapTexts Emphasis.render),
        (Puzzle.compile definition { config with tagEmphasis := false }).2) := by
  have follows : Veil.tagging.Follows
      (Definition.compile definition ⟨false,config.requireDocument,false⟩)
      (Definition.compile definition ⟨true,config.requireDocument,false⟩) := Veil.follows_compile
  have tagged := follows Puzzle.empty (by rintro ⟨⟩)
  have empty : Veil.tagging.puzzle Puzzle.empty = Puzzle.empty := by
    simp [Veil.tagging_puzzle,Puzzle.mapTexts,Puzzle.empty]
  simp only [Puzzle.compile,run_compile_unaudited definition ⟨_,_,config.verify⟩,empty] at tagged ⊢
  rw [tagged]
  simp only [Veil.outcome,Veil.tagging_puzzle]
  cases ((Definition.compile definition ⟨false,config.requireDocument,false⟩).run Puzzle.empty).result <;> rfl

theorem bare_eq_of_openPart {definition definition' : Datum} {config config' : Config}
    (same : openPart definition = openPart definition') (compiled : (Puzzle.compile definition config).1 = .ok p)
    (compiled' : (Puzzle.compile definition' config').1 = .ok q) : p.bare = q.bare := by
  obtain ⟨entries,rfl,bounds,made,passes⟩ := compile_eq_ok_iff_passes.mp compiled
  obtain ⟨entries',rfl,bounds',made',passes'⟩ := compile_eq_ok_iff_passes.mp compiled'
  simp only [openPart,OpenPart.mk.injEq] at same
  obtain ⟨width,height,across,down⟩ := same
  obtain rfl : bounds = bounds' := by
    have size := passes.size
    rw [width,height,passes'.size] at size
    exact (Option.some.inj size).symm
  have clues : ∀ d, (made d).map Veil.hiding.clue = (made' d).map Veil.hiding.clue := by
    intro d
    obtain ⟨specs,found,compiled⟩ := passes.clues d
    obtain ⟨specs',found',compiled'⟩ := passes'.clues d
    refine Veil.hiding_clues_eq ?_ compiled compiled'
    have alike : (specsOf d (.table entries)).map openSpec = (specsOf d (.table entries')).map openSpec := by
      cases d with
      | across => exact across
      | down => exact down
    simpa [specsOf,found,found',Except.toOption] using alike
  rw [← Veil.bare_hiding p,passes.hiding_eq passes' clues,Veil.bare_hiding]

/-- What a puzzle is, apart from the wording of its clues and the setter's secrets, follows
    from the open part of its definition: no solution, no revealed letter and no clue text has
    a part in it, and neither has it whether the emphasis in texts is tagged. Tagging it changes
    the texts and nothing else, and a compilation that stops without tagging stops with it, at
    the same fault. -/
theorem compile_noninterference :
    (∀ (definition definition' : Datum) (config config' : Config) (p q : Puzzle),
      openPart definition = openPart definition' → (Puzzle.compile definition config).1 = .ok p →
        (Puzzle.compile definition' config').1 = .ok q → p.bare = q.bare) ∧
      ∀ (definition : Datum) (config : Config),
        Puzzle.compile definition { config with tagEmphasis := true } =
          ((Puzzle.compile definition { config with tagEmphasis := false }).1.map (Puzzle.mapTexts Emphasis.render),
            (Puzzle.compile definition { config with tagEmphasis := false }).2) :=
  ⟨fun _ _ _ _ _ _ => bare_eq_of_openPart,compile_tagging⟩

/-- A clue across that goes on in one down, with a text, a solution and revealed letters to choose. -/
def worded (text solution revealed : String) : Datum :=
  .table [(.text "width".toList,.whole 2),(.text "height".toList,.whole 2),
    (.text "acrossClues".toList,.list [.table [(.text "x".toList,.whole 1),(.text "y".toList,.whole 1),
      (.text "clue".toList,.text ("1,2d. ".toList ++ text.toList ++ " (2)".toList)),
      (.text "answer".toList,.text "a".toList),
      (.text "solution".toList,.text solution.toList),(.text "revealed".toList,.text revealed.toList)]]),
    (.text "downClues".toList,.list [specification 2 1 "2. Column (2)" ""])]

theorem compile_noninterference_worded : ∃ p q,
    (Puzzle.compile (worded "Row" "AB" "") {}).1 = .ok p ∧
      (Puzzle.compile (worded "Another _row_" "CD" "C ") { tagEmphasis := false }).1 = .ok q ∧ p.bare = q.bare := by
  obtain ⟨p,compiled⟩ := exists_of_compiles (worded "Row" "AB" "") {} (by decide +kernel)
  obtain ⟨q,compiled'⟩ :=
    exists_of_compiles (worded "Another _row_" "CD" "C ") { tagEmphasis := false } (by decide +kernel)
  have same : openPart (worded "Row" "AB" "") = openPart (worded "Another _row_" "CD" "C ") := rfl
  exact ⟨p,q,compiled,compiled',compile_noninterference.1 _ _ _ _ p q same compiled compiled'⟩

end

end Crossword
