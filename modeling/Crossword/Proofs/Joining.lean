import Crossword.Chain
import Mathlib.Data.List.Nodup

/-!
Joining clues changes links and nothing else (`SameButLinks`). A clue detached from
all others is a chain by itself, and the clues of a chain just joined are tied to
their head and to their neighbours (`Tied`, `tied_join`); the clues outside keep their
links (`clue_join_outside`).
-/
namespace Crossword
open Chain

/-- The clue without its links. -/
def Clue.unlinked (c : Clue) : Clue := { c with links := {} }

/-- Two puzzles that differ at most in the links of their clues. -/
structure SameButLinks (p q : Puzzle) : Prop where
  board : q.board = p.board
  cells : q.cells = p.cells
  size : q.clues.size = p.clues.size
  clue : ∀ i, (q.clue i).unlinked = (p.clue i).unlinked

/-- The links that a clue has in a chain: the first clue is the head and says what all
    have in common; the others leave this to it. -/
structure Tied (p : Puzzle) (chain : List ClueId) (i : ClueId) (links : Links) : Prop where
  head : links.head = chain.head?
  neighbours : ∀ before after, chain = before ++ i :: after →
    links.previous = before.getLast? ∧ links.next = after.head?
  first : chain.head? = some i →
    links.tails = chain.drop 1 ∧ links.enumeration = Enumeration.text (chain.flatMap fun j => (p.clue j).wordLengths)
  later : chain.head? ≠ some i → links.tails = [] ∧ links.enumeration = [] ∧ links.flatCells = none

section
variable {p q r : Puzzle} {h i j : ClueId} {chain : List ClueId}

/-! ### Puzzles that differ in links -/

theorem Puzzle.clue_outside (outside : ¬ i < p.clues.size) : p.clue i = default := by
  rw [Puzzle.clue,Array.getD_eq_getD_getElem?,Array.getElem?_eq_none (Nat.le_of_not_lt outside)]
  rfl

theorem Puzzle.clue_updateClue_eq_ite (f : Clue → Clue) :
    (p.updateClue i f).clue j = if i = j ∧ i < p.clues.size then f (p.clue j) else p.clue j := by
  by_cases inside : i < p.clues.size
  · simp [Puzzle.clue_updateClue j f inside,inside]
  · simp only [inside,and_false,if_false,Puzzle.clue,Puzzle.updateClue,Array.getD_eq_getD_getElem?,
      Array.getElem?_modify]
    split
    · next same =>
      subst same
      simp [inside]
    · rfl

theorem unlinked_relink (f : Links → Links) (c : Clue) : (relink f c).unlinked = c.unlinked := rfl

namespace SameButLinks

theorem refl (p : Puzzle) : SameButLinks p p := ⟨rfl,rfl,rfl,fun _ => rfl⟩

theorem trans (first : SameButLinks p q) (second : SameButLinks q r) : SameButLinks p r where
  board := second.board.trans first.board
  cells := second.cells.trans first.cells
  size := second.size.trans first.size
  clue i := (second.clue i).trans (first.clue i)

/-- Whatever does not look at links is the same. -/
theorem kept {α : Type} (same : SameButLinks p q) (f : Clue → α) (blind : ∀ c : Clue, f c.unlinked = f c) (i : ClueId) :
    f (q.clue i) = f (p.clue i) := by
  rw [← blind,same.clue,blind]

theorem references (same : SameButLinks p q) (i : ClueId) : (q.clue i).references = (p.clue i).references :=
  same.kept Clue.references (fun _ => rfl) i

theorem wordLengths (same : SameButLinks p q) (i : ClueId) : (q.clue i).wordLengths = (p.clue i).wordLengths :=
  same.kept Clue.wordLengths (fun _ => rfl) i

theorem resolve? (same : SameButLinks p q) : q.resolve? = p.resolve? := by
  funext reference
  have number : ∀ i, (q.clue i).number = (p.clue i).number := same.kept Clue.number fun _ => rfl
  simp only [Puzzle.resolve?,same.board,number]

theorem updateClue (same : SameButLinks p q) {f : Clue → Clue} (links : ∀ c, (f c).unlinked = c.unlinked) :
    SameButLinks p (q.updateClue i f) where
  board := same.board
  cells := same.cells
  size := (Puzzle.size_clues_updateClue q i f).trans same.size
  clue j := by
    rw [← same.clue j,Puzzle.clue_updateClue_eq_ite]
    split
    · exact links _
    · rfl

theorem foldl_updateClue (same : SameButLinks p q) {f : ClueId → Clue → Clue}
    (links : ∀ i c, (f i c).unlinked = c.unlinked) (ids : List ClueId) :
    SameButLinks p (ids.foldl (fun q i => q.updateClue i (f i)) q) := by
  induction ids generalizing q with
  | nil => exact same
  | cons i rest ih => exact ih (same.updateClue (links i))

end SameButLinks

theorem clue_foldl_updateClue {f : ClueId → Clue → Clue} {ids : List ClueId} (distinct : ids.Nodup)
    (present : ∀ i ∈ ids, i < p.clues.size) (j : ClueId) :
    (ids.foldl (fun q i => q.updateClue i (f i)) p).clue j = if j ∈ ids then f j (p.clue j) else p.clue j := by
  induction ids generalizing p with
  | nil => simp
  | cons i rest ih =>
    obtain ⟨apart,distinct⟩ := List.nodup_cons.mp distinct
    have inside := present i List.mem_cons_self
    rw [List.foldl_cons,ih distinct (by simpa using fun k member => present k (List.mem_cons_of_mem _ member)),
      Puzzle.clue_updateClue j _ inside]
    by_cases same : i = j
    · subst same
      simp [apart]
    · simp [same,Ne.symm same]

/-! ### Tying -/

theorem sameButLinks_tie (h : ClueId) (previous : Option ClueId) (chain : List ClueId) (q : Puzzle) :
    SameButLinks q (tie h previous chain q) := by
  induction chain generalizing previous q with
  | nil => exact .refl q
  | cons i rest ih => exact ((SameButLinks.refl q).updateClue (unlinked_relink _)).trans (ih (some i) _)

theorem clue_tie_outside (outside : i ∉ chain) (present : ∀ j ∈ chain, j < q.clues.size) (previous : Option ClueId) :
    (tie h previous chain q).clue i = q.clue i := by
  induction chain generalizing previous q with
  | nil => rfl
  | cons j rest ih =>
    simp only [List.mem_cons,not_or] at outside
    rw [tie,ih outside.2 (by simpa using fun k member => present k (List.mem_cons_of_mem _ member)),
      Puzzle.clue_updateClue i _ (present j List.mem_cons_self),if_neg (Ne.symm outside.1)]

theorem clue_tie {before after : List ClueId} (distinct : (before ++ i :: after).Nodup)
    (present : ∀ j ∈ before ++ i :: after, j < q.clues.size) (previous : Option ClueId) :
    (tie h previous (before ++ i :: after) q).clue i = relink (fun links =>
      { links with
        head := some h
        previous := before.getLast? <|> previous <|> links.previous
        next := after.head? <|> links.next }) (q.clue i) := by
  -- The steps before the one that ties the clue leave it alone, and so do those after it.
  induction before generalizing previous q with
  | nil =>
    obtain ⟨apart,_⟩ := List.nodup_cons.mp distinct
    have later : ∀ j ∈ after, j < q.clues.size := fun j member => present j (List.mem_cons_of_mem _ member)
    rw [List.nil_append,tie,clue_tie_outside apart (by simpa using later),
      Puzzle.clue_updateClue i _ (present i List.mem_cons_self),if_pos rfl]
    simp
  | cons j rest ih =>
    obtain ⟨apart,distinct⟩ := List.nodup_cons.mp distinct
    have other : j ≠ i := by
      rintro rfl
      exact apart (by simp)
    rw [List.cons_append,tie,ih distinct (by simpa using fun k member => present k (List.mem_cons_of_mem _ member)),
      Puzzle.clue_updateClue i _ (present j List.mem_cons_self),if_neg other]
    cases rest <;> simp [List.getLast?_cons]

/-! ### Joining -/

theorem sameButLinks_join : SameButLinks q (join h chain q) := by
  have tied := sameButLinks_tie h none chain q
  exact (tied.updateClue (unlinked_relink _)).foldl_updateClue (fun _ => unlinked_relink follow) _

theorem clue_join {tails : List ClueId} (distinct : (h :: tails).Nodup)
    (present : ∀ j ∈ h :: tails, j < q.clues.size) (i : ClueId) :
    (join h (h :: tails) q).clue i =
      if i = h then relink (summary (tie h none (h :: tails) q) (h :: tails)) ((tie h none (h :: tails) q).clue i)
      else if i ∈ tails then relink follow ((tie h none (h :: tails) q).clue i)
      else q.clue i := by
  have same := sameButLinks_tie h none (h :: tails) q
  have inside : ∀ j ∈ h :: tails, j < (tie h none (h :: tails) q).clues.size :=
    fun j member => same.size ▸ present j member
  obtain ⟨apart,distinct'⟩ := List.nodup_cons.mp distinct
  simp only [join,List.drop_succ_cons,List.drop_zero]
  rw [clue_foldl_updateClue (f := fun _ => relink follow) distinct'
      (by simpa using fun j member => inside j (List.mem_cons_of_mem _ member)),
    Puzzle.clue_updateClue i _ (inside h List.mem_cons_self)]
  by_cases first : i = h
  · subst first
    simp [apart]
  · by_cases tail : i ∈ tails
    · simp [first,Ne.symm first,tail]
    · have outside : i ∉ h :: tails := by simp [first,tail]
      simp [first,Ne.symm first,tail,clue_tie_outside outside present]

theorem clue_join_outside {tails : List ClueId} (distinct : (h :: tails).Nodup)
    (present : ∀ j ∈ h :: tails, j < q.clues.size) (outside : i ∉ h :: tails) :
    (join h (h :: tails) q).clue i = q.clue i := by
  simp only [List.mem_cons,not_or] at outside
  rw [clue_join distinct present,if_neg outside.1,if_neg outside.2]

/-- Every clue of a chain joined from clues that stood alone is tied to the others. -/
theorem tied_join {tails : List ClueId} (same : SameButLinks p q) (distinct : (h :: tails).Nodup)
    (present : ∀ j ∈ h :: tails, j < q.clues.size) (member : i ∈ h :: tails)
    (alone : (q.clue i).links = (p.clue i).aloneLinks i) :
    Tied p (h :: tails) i ((join h (h :: tails) q).clue i).links := by
  -- A clue that stood alone has no links to neighbours but those that tying gives it.
  have tied : ∀ before after, h :: tails = before ++ i :: after →
      ((tie h none (h :: tails) q).clue i).links =
        { (p.clue i).aloneLinks i with head := some h, previous := before.getLast?, next := after.head? } := by
    intro before after split
    rw [split] at distinct present ⊢
    rw [clue_tie distinct present]
    simp only [relink,alone]
    simp [Clue.aloneLinks]
  have lengths : ∀ j, ((tie h none (h :: tails) q).clue j).wordLengths = (p.clue j).wordLengths :=
    (same.trans (sameButLinks_tie h none (h :: tails) q)).wordLengths
  obtain ⟨apart,_⟩ := List.nodup_cons.mp distinct
  rw [clue_join distinct present]
  by_cases first : i = h
  · subst first
    have here := tied [] tails rfl
    rw [if_pos rfl]
    refine ⟨?_,?_,?_,?_⟩
    · simp [relink,summary,here]
    · intro before after split
      simp [relink,summary,tied before after split]
    · intro _
      simp [relink,summary,lengths]
    · intro other
      exact absurd rfl other
  · have tail : i ∈ tails := by simpa [first] using member
    obtain ⟨between,after,split⟩ := List.append_of_mem tail
    have here := tied (h :: between) after (by rw [split]; rfl)
    rw [if_neg first,if_pos tail]
    refine ⟨?_,?_,?_,?_⟩
    · simp [relink,follow,here]
    · intro before after split
      simp [relink,follow,tied before after split]
    · intro here
      exact absurd (by simpa using here.symm) first
    · intro _
      simp [relink,follow,here,Clue.aloneLinks]

end

end Crossword
