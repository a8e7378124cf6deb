import Crossword.Proofs.Phases
import Crossword.Proofs.Reading

/-!
How clues are named. The identifier of a clue is made from its own label: the number of
the head and the letter of a direction, which is the one that the head names or else the one
that the clue runs in (`Heading`). Nothing compares the clues of a direction with each
other, so two of them have one identifier exactly if their labels have one heading
(`id_eq_iff_heading_eq`).
-/
namespace Crossword
open Definition

/-- What a clue is named after: a number and a direction. -/
structure Heading where
  number : Nat
  direction : Direction
  deriving DecidableEq, Repr

/-- The identifier made from a heading. -/
def Heading.identifier (h : Heading) : Text := Text.ofNat h.number ++ h.direction.suffix

/-- The heading of a label in the list of a direction: the head's own, or that of the list if
    the head names no direction. -/
def Label.heading (l : Label) (d : Direction) : Heading := ⟨l.head.number,l.head.direction.getD d⟩

/-- The heading of the clue that a specification makes in the list of a direction. -/
def headingOf (d : Direction) (spec : Datum) : Option Heading :=
  (Draft.read spec (.truth d.isAcross)).toOption.map fun draft => draft.wording.label.heading d

section
variable {d : Direction} {spec : Datum} {c : Clue} {tagEmphasis : Bool}

theorem directionOf_isAcross (d : Direction) : ClueSpec.directionOf d.isAcross = d := by
  cases d <;> rfl

theorem Heading.identifier_injective : Function.Injective Heading.identifier := by
  -- The letter is no digit, so that the digits before it are those of the number.
  have breaks : ∀ e : Direction, Breaks Text.isDigit e.suffix := by
    intro e
    cases e <;> exact breaks_cons (by decide)
  have digits : ∀ h : Heading, h.identifier.takeWhile Text.isDigit = Text.ofNat h.number :=
    fun h => takeWhile_run (fun _ => isDigit_of_mem_ofNat) (breaks _)
  have letter : ∀ h : Heading, h.identifier.dropWhile Text.isDigit = h.direction.suffix :=
    fun h => dropWhile_run (fun _ => isDigit_of_mem_ofNat) (breaks _)
  rintro a b same
  have number : a.number = b.number := by
    rw [← digitsValue_ofNat a.number,← digits,same,digits,digitsValue_ofNat]
  have suffix : a.direction.suffix = b.direction.suffix := by rw [← letter,same,letter]
  obtain ⟨n,e⟩ := a
  obtain ⟨m,e'⟩ := b
  cases number
  cases e <;> cases e' <;> simp_all [Direction.suffix]

theorem Draft.id_eq (draft : Draft) :
    draft.id = (draft.wording.label.heading draft.spec.direction).identifier := by
  unfold Draft.id Label.heading Heading.identifier
  cases named : draft.wording.label.head.direction with
  | none => rfl
  | some e => simp [Label.Segment.text,Label.Segment.suffix,named]

/-- A compiled clue is named after the head of its label. -/
theorem heading_of_compile (compiled : Clue.compile spec (.truth d.isAcross) tagEmphasis = .ok c) :
    ∃ h, headingOf d spec = some h ∧ c.id = h.identifier ∧ c.label = Text.ofNat h.number := by
  obtain ⟨draft,read,made⟩ := Clue.compile_eq_ok_iff.mp compiled
  obtain ⟨_,_,_,rfl⟩ := Draft.clue_eq_ok_iff.mp made
  obtain ⟨_,_,_,direction⟩ := ClueSpec.read_eq_ok_iff.mp (Draft.read_eq_ok_iff.mp read).1
  rw [directionOf_isAcross] at direction
  refine ⟨draft.wording.label.heading d,by simp [headingOf,read,Except.toOption],?_,rfl⟩
  rw [← direction]
  exact draft.id_eq

theorem headings_of_compiled {specs : List Datum} {clues : List Clue} (compiled : CompiledFrom d tagEmphasis specs clues) :
    ∃ headings : List Heading, specs.map (headingOf d) = headings.map some ∧
      clues.map Clue.id = headings.map Heading.identifier ∧
        clues.map Clue.label = headings.map fun h => Text.ofNat h.number := by
  induction compiled with
  | nil => exact ⟨[],rfl,rfl,rfl⟩
  | cons now _ ih =>
    obtain ⟨h,found,id,label⟩ := heading_of_compile now
    obtain ⟨headings,founds,ids,labels⟩ := ih
    exact ⟨h :: headings,by simp [found,founds],by simp [id,ids],by simp [label,labels]⟩

/-- Two clues of one direction have the same identifier exactly if their labels have the same
    heading, one by one and so for the whole list; clues whose labels have different numbers
    never do. -/
theorem id_eq_iff_heading_eq (definition : Datum) (config : Config) (p : Puzzle) (d : Direction)
    (compiled : (Puzzle.compile definition config).1 = .ok p) : ∃ headings : List Heading,
      (specsOf d definition).map (headingOf d) = headings.map some ∧
        (p.board.laid d).length = headings.length ∧
        (∀ j k : Nat, ∀ i i', (p.board.laid d)[j]? = some i → (p.board.laid d)[k]? = some i' →
          ((p.clue i).id = (p.clue i').id ↔ headings[j]? = headings[k]?)) ∧
        (((p.board.laid d).map fun i => (p.clue i).id).Nodup ↔ headings.Nodup) ∧
        ∀ i ∈ p.board.laid d, ∀ j ∈ p.board.laid d, (p.clue i).label ≠ (p.clue j).label →
          (p.clue i).id ≠ (p.clue j).id := by
  obtain ⟨entries,rfl,bounds,made,passes⟩ := compile_eq_ok_iff_passes.mp compiled
  obtain ⟨specs,found,clues⟩ := passes.clues d
  obtain ⟨headings,named,ids,labels⟩ := headings_of_compiled clues
  have id : (p.board.laid d).map (fun i => (p.clue i).id) = headings.map Heading.identifier := by
    have outlines := congrArg (List.map Clue.id) (passes.outlines d)
    simpa [Function.comp_def,Clue.outline,ids] using outlines
  have label : (p.board.laid d).map (fun i => (p.clue i).label) = headings.map fun h => Text.ofNat h.number := by
    have outlines := congrArg (List.map Clue.label) (passes.outlines d)
    simpa [Function.comp_def,Clue.outline,labels] using outlines
  -- The clue at a position has the identifier and the label of the heading there.
  have at_position : ∀ {k : Nat} {i : ClueId}, (p.board.laid d)[k]? = some i → ∃ h, headings[k]? = some h ∧
      (p.clue i).id = h.identifier ∧ (p.clue i).label = Text.ofNat h.number := by
    intro k i stands
    have ids' := congrArg (·[k]?) id
    have labels' := congrArg (·[k]?) label
    simp only [List.getElem?_map,stands,Option.map_some] at ids' labels'
    obtain ⟨h,heading,same⟩ := Option.map_eq_some_iff.mp ids'.symm
    rw [heading,Option.map_some] at labels'
    exact ⟨h,heading,same.symm,Option.some.inj labels'⟩
  refine ⟨headings,?_,?_,?_,?_,?_⟩
  · simpa [specsOf,found,Except.toOption] using named
  · simpa using congrArg List.length id
  · intro j k i i' one other
    obtain ⟨h,heading,name,_⟩ := at_position one
    obtain ⟨h',heading',name',_⟩ := at_position other
    rw [heading,heading',name,name',Heading.identifier_injective.eq_iff,Option.some_inj]
  · rw [id,List.nodup_map_iff Heading.identifier_injective]
  · intro i member j member' differ same
    obtain ⟨k,_,stands⟩ := List.getElem_of_mem member
    obtain ⟨k',_,stands'⟩ := List.getElem_of_mem member'
    obtain ⟨h,_,name,label⟩ := at_position (List.getElem?_eq_some_iff.mpr ⟨_,stands⟩)
    obtain ⟨h',_,name',label'⟩ := at_position (List.getElem?_eq_some_iff.mpr ⟨_,stands'⟩)
    rw [name,name',Heading.identifier_injective.eq_iff] at same
    exact differ (by rw [label,label',same])

theorem nodup_ids_corner : ∃ p, (Puzzle.compile corner {}).1 = .ok p ∧
    ((p.board.laid .across).map fun i => (p.clue i).id).Nodup := by
  obtain ⟨p,compiled⟩ := exists_of_compiles corner {} (by decide +kernel)
  obtain ⟨headings,named,_,_,distinct,_⟩ := id_eq_iff_heading_eq corner {} p .across compiled
  have given : (specsOf .across corner).map (headingOf .across) = [⟨1,.across⟩,⟨2,.across⟩].map some := by decide +kernel
  have headings : headings = [⟨1,.across⟩,⟨2,.across⟩] :=
    List.map_injective_iff.mpr (fun _ _ => Option.some.inj) (named.symm.trans given)
  exact ⟨p,compiled,distinct.mpr (by rw [headings]; decide)⟩

/-- Two clues across, one under the other, with the same number. -/
def twins : Datum :=
  .table [(.text "width".toList,.whole 2),(.text "height".toList,.whole 2),
    (.text "acrossClues".toList,.list [.table [(.text "x".toList,.whole 1),(.text "y".toList,.whole 1),
        (.text "clue".toList,.text "1. Top (2)".toList)],
      .table [(.text "x".toList,.whole 1),(.text "y".toList,.whole 2),
        (.text "clue".toList,.text "1. Bottom (2)".toList)]])]

/-- Identifiers need not be unique in a direction. -/
theorem not_nodup_ids : ¬ ∀ (definition : Datum) (config : Config) (p : Puzzle),
    (Puzzle.compile definition config).1 = .ok p → ∀ d, ((p.board.laid d).map fun i => (p.clue i).id).Nodup := by
  intro unique
  obtain ⟨p,compiled⟩ := exists_of_compiles twins {} (by decide +kernel)
  have ids : (Puzzle.compile twins {}).1.toOption.map (fun p => (p.board.laid .across).map fun i => (p.clue i).id) =
      some ["1a".toList,"1a".toList] := by decide +kernel
  rw [compiled] at ids
  have distinct := unique twins {} p compiled .across
  have ids : ((p.board.laid .across).map fun i => (p.clue i).id) = _ := Option.some.inj ids
  rw [ids] at distinct
  revert distinct
  decide

end

end Crossword
