import Crossword.Proofs.Drafting
import Crossword.Proofs.Flattening
import Crossword.Proofs.Phases

/-!
The texts that the head of a chain has for it can be read. The enumeration lists the words of all
clues of the chain with commas between them, and the label their numbers; both are written as
reading expects them, whatever the numbers are (`written_listing`, `written_numbered`). So they read
as what the clues say of themselves (`Legible`). And the numbers are those that the clue string of
the head begins with, since a clue that a label names has the number named
(`compile_legible`).
-/
namespace Crossword
open Definition

/-- Words of these lengths, with a comma after each but the last. -/
def Enumeration.listing : List Nat → List Word
  | [] => []
  | [length] => [⟨length,[]⟩]
  | length :: next :: rest => ⟨length,[',']⟩ :: listing (next :: rest)

/-- A label that names numbers and no directions. -/
def Label.numbered (head : Nat) (tails : List Nat) : Label := ⟨⟨head,none⟩,tails.map fun number => ⟨number,none⟩⟩

/-- The texts of a chain read as what its clues are. The enumeration without its parentheses lists
    the words of all clues, which have the letters of the clues between them, with commas between
    them. The label names the numbers of the clues, and no directions. -/
structure Legible (p : Puzzle) (chain : List ClueId) (links : Links) : Prop where
  enumeration : ∃ body words, links.enumeration = '(' :: (body ++ [')']) ∧
    (∀ clue, Enumeration.read body clue = .ok words) ∧
    (words.map fun word => (word.length : Int)) = (chain.flatMap fun i => (p.clue i).wordLengths) ∧
    (Enumeration.letterCount words : Int) = (chain.map fun i => (p.clue i).length).sum ∧
    words.map Word.terminator = List.replicate (words.length - 1) [','] ++ [[]]
  label : ∃ label, (∀ clue, Label.read links.label clue = .ok label) ∧
    (∀ segment ∈ label.segments, segment.direction = none) ∧
    (label.segments.map fun segment => (segment.number : Int)) = chain.map fun i => (p.clue i).number

/-- The label that the clue string begins with names the numbers of the chain. -/
def LabelledAs (p : Puzzle) (chain : List ClueId) (clue : Text) : Prop :=
  ∃ parts label, ClueParts.ofText? clue = some parts ∧ Label.read parts.label clue = .ok label ∧
    (label.segments.map fun segment => (segment.number : Int)) = chain.map fun i => (p.clue i).number

section
variable {p q : Puzzle} {d : Direction} {h i j : ClueId} {k : Nat} {chain tails : List ClueId} {lengths : List Nat}
  {links : Links} {entries : List (Datum × Datum)} {config : Config} {bounds : Bounds} {made : Direction → List Clue}

/-! ### Enumerations and labels as they are put together -/

namespace Enumeration

theorem written_listing : written (listing lengths) = List.intercalate [','] (lengths.map Text.ofNat) := by
  induction lengths using listing.induct with
  | case1 => rfl
  | case2 length => simp [listing,written]
  | case3 length next rest ih =>
    rw [List.map_cons,List.map_cons,List.intercalate_cons_cons,← List.map_cons,← ih]
    simp [listing,written]

theorem text_eq_listing : text (lengths.map fun n : Nat => (n : Int)) = '(' :: (written (listing lengths) ++ [')']) := by
  have numerals : (lengths.map fun n : Nat => (n : Int)).map Text.ofInt = lengths.map Text.ofNat := by
    rw [List.map_map]
    rfl
  rw [text,numerals,written_listing]

theorem listed_listing (some_word : lengths ≠ []) (positive : ∀ n ∈ lengths, 0 < n) : Listed (listing lengths) := by
  induction lengths using listing.induct with
  | case1 => exact absurd rfl some_word
  | case2 length => exact .last (positive length (by simp)) (by simp)
  | case3 length next rest ih =>
    refine .more (positive length (by simp)) (.inr (by simp)) (ih (by simp) fun n member => ?_)
    exact positive n (List.mem_cons_of_mem _ member)

theorem lengths_listing (lengths : List Nat) : (listing lengths).map Word.length = lengths := by
  induction lengths using listing.induct with
  | case1 => rfl
  | case2 length => rfl
  | case3 length next rest ih => rw [listing,List.map_cons,ih]

theorem length_listing (lengths : List Nat) : (listing lengths).length = lengths.length := by
  simpa using congrArg List.length (lengths_listing lengths)

theorem terminators_listing (some_word : lengths ≠ []) :
    (listing lengths).map Word.terminator = List.replicate (lengths.length - 1) [','] ++ [[]] := by
  induction lengths using listing.induct with
  | case1 => exact absurd rfl some_word
  | case2 length => rfl
  | case3 length next rest ih =>
    rw [listing,List.map_cons,ih (by simp)]
    rfl

end Enumeration

theorem Label.written_numbered (head : Nat) (rest : List Nat) :
    (Label.numbered head rest).written = List.intercalate [','] ((head :: rest).map Text.ofNat) := by
  have segment (number : Nat) : (⟨number,none⟩ : Label.Segment).text = Text.ofNat number := List.append_nil _
  simp [Label.written,Label.segments,Label.numbered,segment,Function.comp_def]

/-! ### What clues say of themselves -/

/-- The clue has been made from a specification and the wording of its clue string. -/
def Puzzle.Worded (p : Puzzle) (i : ClueId) (s : ClueSpec) (w : Wording) : Prop :=
  ∃ c : Clue, c.Made s w ∧ (p.clue i).outline = c.outline

namespace Puzzle.Worded
variable {s : ClueSpec} {w : Wording} (own : p.Worded i s w)
include own

theorem number : (p.clue i).number = w.label.head.number := by
  obtain ⟨c,made,outline⟩ := own
  exact (congrArg Clue.number outline :).trans made.number

theorem label : (p.clue i).label = Text.ofNat w.label.head.number := by
  obtain ⟨c,made,outline⟩ := own
  have label : c.label = Text.ofInt c.number :=
    String.ofList_injective (made.label.trans (Text.shown_ofInt c.number).symm)
  rw [made.number] at label
  exact (congrArg Clue.label outline :).trans label

theorem references : (p.clue i).references = w.label.tails.map fun segment => ⟨segment.number,segment.direction⟩ := by
  obtain ⟨c,made,outline⟩ := own
  exact (congrArg Clue.references outline :).trans made.references

theorem wordLengths : (p.clue i).wordLengths = (w.words.map Word.length).map fun n : Nat => (n : Int) := by
  obtain ⟨c,made,outline⟩ := own
  rw [List.map_map]
  exact (congrArg Clue.wordLengths outline :).trans made.wordLengths

theorem length : (p.clue i).length = ((w.words.map Word.length).sum : Nat) := by
  obtain ⟨c,made,outline⟩ := own
  exact (congrArg Clue.length outline :).trans made.length_eq

end Puzzle.Worded

/-- Every clue of a compiled puzzle has been made from the specification at its position. -/
theorem Passes.worded (passes : Passes entries config bounds made q) (stands : (q.board.laid d)[k]? = some i) :
    ∃ spec s w, (specsOf d (.table entries))[k]? = some spec ∧ Specified spec (.truth d.isAcross) s ∧
      Wording.read s.clue = .ok w ∧ q.Worded i s w := by
  obtain ⟨specs,found,compiled⟩ := passes.clues d
  have outlines := congrArg (·[k]?) (passes.outlines d)
  simp only [List.getElem?_map,stands,Option.map_some] at outlines
  obtain ⟨c,makes,outline⟩ := Option.map_eq_some_iff.mp outlines.symm
  obtain ⟨short,rfl⟩ := List.getElem?_eq_some_iff.mp makes
  have drawn := compiled.get (by rw [compiled.length_eq]; exact short) short
  obtain ⟨s,w,specified,wording,made⟩ := made_of_compile drawn
  refine ⟨_,s,w,?_,specified,wording,_,made,outline.symm⟩
  simp [specsOf,found,Except.toOption]

theorem Puzzle.number_of_resolve? {reference : Reference} (resolves : p.resolve? reference = some j) :
    (p.clue j).number = reference.number := by
  simpa using List.find?_some resolves

/-- References that are resolved name the numbers of the clues found. -/
theorem numbers_of_resolved {references : List Reference} (resolved : tails.map some = references.map p.resolve?) :
    (tails.map fun i => (p.clue i).number) = references.map Reference.number := by
  induction references generalizing tails with
  | nil => simp_all
  | cons reference rest ih =>
    cases tails with
    | nil => simp at resolved
    | cons j tails =>
      simp only [List.map_cons,List.cons.injEq] at resolved ⊢
      exact ⟨Puzzle.number_of_resolve? resolved.1.symm,ih resolved.2⟩

theorem Puzzle.Worded.words {s : ClueSpec} {w : Wording} (own : p.Worded i s w) (read : Wording.read s.clue = .ok w) :
    ∃ lengths : List Nat, lengths ≠ [] ∧ (∀ n ∈ lengths, 0 < n) ∧
      (p.clue i).wordLengths = (lengths.map fun n : Nat => (n : Int)) ∧ (p.clue i).length = (lengths.sum : Nat) := by
  have listed := (Wording.listed_of_read read).1
  refine ⟨w.words.map Word.length,by simpa using listed.ne_nil,?_,own.wordLengths,own.length⟩
  simpa using listed.length_pos

/-! ### Chains -/

/-- The words of all clues of a chain, one clue after the other. -/
theorem words_of_worded (worded : ∀ i ∈ chain, ∃ s w, Wording.read s.clue = .ok w ∧ p.Worded i s w) :
    ∃ lengths : List Nat, (chain ≠ [] → lengths ≠ []) ∧ (∀ n ∈ lengths, 0 < n) ∧
      (chain.flatMap fun i => (p.clue i).wordLengths) = (lengths.map fun n : Nat => (n : Int)) ∧
      (chain.map fun i => (p.clue i).length).sum = (lengths.sum : Nat) := by
  induction chain with
  | nil => exact ⟨[],by simp⟩
  | cons i rest ih =>
    obtain ⟨s,w,read,own⟩ := worded i List.mem_cons_self
    obtain ⟨first,some_word,positive,words,length⟩ := own.words read
    obtain ⟨later,-,positive',words',length'⟩ := ih fun j member => worded j (List.mem_cons_of_mem _ member)
    refine ⟨first ++ later,fun _ => by simp [some_word],?_,?_,?_⟩
    · exact List.forall_mem_append.mpr ⟨positive,positive'⟩
    · rw [List.flatMap_cons,words,words',List.map_append]
    · rw [List.map_cons,List.sum_cons,length,length',List.sum_append,Nat.cast_add]

/-- The texts that the head of a chain is given can be read. -/
theorem legible_of_worded (worded : ∀ i ∈ h :: tails, ∃ s w, Wording.read s.clue = .ok w ∧ p.Worded i s w)
    (enumeration : links.enumeration = Enumeration.text ((h :: tails).flatMap fun i => (p.clue i).wordLengths))
    (sums : Sums p (h :: tails) links) : Legible p (h :: tails) links where
  enumeration := by
    obtain ⟨lengths,some_word,positive,words,length⟩ := words_of_worded worded
    have some_word := some_word (List.cons_ne_nil _ _)
    refine ⟨Enumeration.written (Enumeration.listing lengths),Enumeration.listing lengths,?_,?_,?_,?_,?_⟩
    · rw [enumeration,words,Enumeration.text_eq_listing]
    · exact Enumeration.read_written (Enumeration.listed_listing some_word positive)
    · conv_rhs => rw [words,← Enumeration.lengths_listing lengths,List.map_map]
      rfl
    · rw [length,Enumeration.letterCount_eq_sum,Enumeration.lengths_listing]
    · rw [Enumeration.length_listing]
      exact Enumeration.terminators_listing some_word
  label := by
    have numbered : ∀ i ∈ h :: tails, ((p.clue i).number.toNat : Int) = (p.clue i).number ∧
        (p.clue i).label = Text.ofNat (p.clue i).number.toNat := by
      intro i member
      obtain ⟨s,w,-,own⟩ := worded i member
      simp [own.number,own.label]
    have written : links.label =
        (Label.numbered (p.clue h).number.toNat (tails.map fun i => (p.clue i).number.toNat)).written := by
      rw [sums.label,Label.written_numbered,← List.map_cons (f := fun i => (p.clue i).number.toNat),List.map_map]
      exact congrArg _ (List.map_congr_left fun i member => (numbered i member).2)
    refine ⟨_,fun clue => by rw [written,Label.read_written],?_,?_⟩
    · simp [Label.segments,Label.numbered]
    · have numbers := List.map_congr_left fun i member => (numbered i member).1
      simpa [Label.segments,Label.numbered,Function.comp_def] using numbers

/-- A chain has the numbers that the label of its head's clue string names. -/
theorem labelledAs_of_worded {s : ClueSpec} {w : Wording} (read : Wording.read s.clue = .ok w) (own : p.Worded h s w)
    (resolved : tails.map some = (p.clue h).references.map p.resolve?) : LabelledAs p (h :: tails) s.clue := by
  obtain ⟨parts,label,-,-⟩ := Wording.read_eq_ok_iff.mp read
  refine ⟨w.parts,w.label,parts,label,?_⟩
  have later := numbers_of_resolved resolved
  rw [own.references,List.map_map] at later
  rw [Label.segments,List.map_cons,List.map_cons,own.number,later]
  rfl

/-- In every compiled puzzle, the texts that the head of a chain has for it can be read: the
    enumeration as the words of all clues of the chain, and the label as their numbers, which are
    those named by the label of the clue string that the head is specified with. -/
theorem compile_legible (definition : Datum) (config : Config) (p : Puzzle)
    (compiled : (Puzzle.compile definition config).1 = .ok p) : ∀ d, ∀ h ∈ p.board.heads d,
      let chain := h :: (p.clue h).links.tails
      Legible p chain (p.clue h).links ∧ ∃ k : Nat, ∃ spec s, (p.board.laid d)[k]? = some h ∧
        (specsOf d definition)[k]? = some spec ∧ Specified spec (.truth d.isAcross) s ∧ LabelledAs p chain s.clue := by
  intro d h listed chain
  obtain ⟨entries,rfl,bounds,made,passes⟩ := compile_eq_ok_iff_passes.mp compiled
  obtain ⟨g,m,built⟩ := passes.built
  have chained := built.chained
  obtain ⟨head,isHead⟩ := chained.mem_heads_iff.mp ⟨d,listed⟩
  have worded : ∀ i ∈ chain, ∃ s w, Wording.read s.clue = .ok w ∧ p.Worded i s w := by
    intro i inside
    obtain ⟨d,member⟩ := Board.mem_clues.mp (chained.mem_clues_iff.mpr ⟨h,head,isHead,inside⟩)
    obtain ⟨k,_,stands⟩ := List.getElem_of_mem member
    obtain ⟨_,s,w,-,-,read,own⟩ := passes.worded (List.getElem?_eq_some_iff.mpr ⟨_,stands⟩)
    exact ⟨s,w,read,own⟩
  refine ⟨legible_of_worded worded (chained.enumeration_eq head isHead) (built.sums head isHead),?_⟩
  rw [chained.heads,List.mem_filter] at listed
  obtain ⟨k,_,stands⟩ := List.getElem_of_mem listed.1
  have stands := List.getElem?_eq_some_iff.mpr ⟨_,stands⟩
  obtain ⟨spec,s,w,found,specified,read,own⟩ := passes.worded stands
  exact ⟨k,spec,s,stands,found,specified,labelledAs_of_worded read own (chained.tails h head isHead)⟩

/-- A row that runs on in a column with the number zero, written with zeros in front. -/
def zeros : Datum :=
  .table [(.text "width".toList,.whole 3),(.text "height".toList,.whole 2),
    (.text "acrossClues".toList,.list [specification 1 1 "007 & 00d. Row (2,1)" ""]),
    (.text "downClues".toList,.list [specification 2 1 "0. Column (02)" ""])]

theorem legible_zeros : ∃ p, (Puzzle.compile zeros {}).1 = .ok p ∧ 0 ∈ p.board.heads .across ∧
    (p.clue 0).links.enumeration = "(2,1,2)".toList ∧ (p.clue 0).links.label = "7,0".toList ∧
    Legible p [0,1] (p.clue 0).links ∧ ∃ s : ClueSpec, LabelledAs p [0,1] s.clue := by
  obtain ⟨p,compiled⟩ := exists_of_compiles zeros {} (by decide +kernel)
  have links : (Puzzle.compile zeros {}).1.toOption.map (fun p => (p.board.heads .across,(p.clue 0).links.tails,
      (p.clue 0).links.enumeration,(p.clue 0).links.label)) = some ([0],[1],"(2,1,2)".toList,"7,0".toList) := by
    decide +kernel
  rw [compiled] at links
  simp only [Except.toOption,Option.map_some,Option.some.injEq,Prod.mk.injEq] at links
  obtain ⟨heads,tails,enumeration,label⟩ := links
  have head : 0 ∈ p.board.heads .across := by simp [heads]
  obtain ⟨legible,_,_,s,-,-,-,labelled⟩ := compile_legible zeros {} p compiled .across 0 head
  rw [tails] at legible labelled
  exact ⟨p,compiled,head,enumeration,label,legible,s,labelled⟩

end

end Crossword
